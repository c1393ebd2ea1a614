import Mathlib.Data.List.TakeWhile
import CodeReview.Http.Message
import CodeReview.Http.Route
import CodeReview.Proofs.Text.Query
set_option autoImplicit false

/-!
Targets and headers of requests. A target that is a path, and perhaps a query after it, is read as
these, and the path takes the route that it was written for. A header value is read as the text of
visible characters, blanks and tabs that it was written for.
-/
namespace CodeReview.Http

/-- The text is without the marks that end a part of a path. -/
structure Bare (part : List Char) : Prop where
  slash : '/' ∉ part
  question : '?' ∉ part
  number : '#' ∉ part

theorem Bare.of_plain {part : List Char} (h : Text.Percent.Plain part) : Bare part :=
  ⟨h.not_mem (by decide), h.not_mem (by decide), h.not_mem (by decide)⟩

theorem bare_escaped (s : String) : Bare (Text.Percent.escaped s) :=
  ⟨Text.Percent.not_mem_escaped (by decide) (by decide) s,
    Text.Percent.not_mem_escaped (by decide) (by decide) s,
    Text.Percent.not_mem_escaped (by decide) (by decide) s⟩

section
variable {r : Request} {part path query : List Char}

theorem takeWhile_of_not_mem {mark : Char} {cs : List Char} (h : mark ∉ cs) :
    cs.takeWhile (· ≠ mark) = cs :=
  List.takeWhile_eq_self_iff.2 (Text.differs_of_not_mem h)

theorem address_of_target {cs : List Char} (target : r.target.toList = cs)
    (slash : cs.head? = some '/') (whole : '#' ∉ cs) : r.address = cs := by
  have host : withoutHost cs = cs := by
    obtain ⟨rest, rfl⟩ := List.head?_eq_some_iff.1 slash
    rfl
  rw [Request.address, target, host]
  exact takeWhile_of_not_mem whole

theorem path_of_address (address : r.address = path ++ '?' :: query) (bare : '?' ∉ path) :
    r.path = path ∧ r.query = query := by
  have before := Text.differs_of_not_mem bare
  rw [Request.path, Request.query, address, List.takeWhile_append_of_pos before,
    List.dropWhile_append_of_pos before]
  simp

/-- A target for a change takes the route to the change, with its query. -/
theorem route_of_change (target : r.target.toList = "/changes/".toList ++ part ++ '?' :: query)
    (bare : Bare part) (some : part ≠ []) (whole : '#' ∉ query) :
    Route.ofPath r.path = .some (.change part) ∧ r.query = query := by
  have start : '#' ∉ "/changes/".toList ∧ '?' ∉ "/changes/".toList := by decide
  have address : r.address = ("/changes/".toList ++ part) ++ '?' :: query := by
    refine address_of_target target rfl fun there => ?_
    rcases List.mem_append.1 there with there | there
    · rcases List.mem_append.1 there with there | there
      · exact start.1 there
      · exact bare.number there
    · exact whole ((List.mem_cons.1 there).resolve_left (by decide))
  obtain ⟨path, found⟩ := path_of_address address fun there => by
    rcases List.mem_append.1 there with there | there
    · exact start.2 there
    · exact bare.question there
  have pieces : "/changes/".toList ++ part = [] ++ '/' :: ("changes".toList ++ '/' :: part) := rfl
  rw [Route.ofPath, path, pieces, Text.split_append List.not_mem_nil, Text.split_append (by decide),
    Text.split_of_not_mem bare.slash]
  exact ⟨if_pos ⟨rfl, some⟩, found⟩

/-- A target for the members of a group takes the route to them. -/
theorem route_of_members (target : r.target.toList = "/groups/".toList ++ part ++ "/members".toList)
    (bare : Bare part) : Route.ofPath r.path = some (.members part) := by
  have clean (c : Char) (start : c ∉ "/groups/".toList) (inside : c ∉ part)
      (finish : c ∉ "/members".toList) : c ∉ "/groups/".toList ++ part ++ "/members".toList := by
    rw [List.mem_append, List.mem_append]
    rintro ((there | there) | there)
    · exact start there
    · exact inside there
    · exact finish there
  have address : r.address = "/groups/".toList ++ part ++ "/members".toList :=
    address_of_target target rfl (clean '#' (by decide) bare.number (by decide))
  have path : r.path = "/groups/".toList ++ part ++ "/members".toList := by
    rw [Request.path, address]
    exact takeWhile_of_not_mem (clean '?' (by decide) bare.question (by decide))
  have pieces : "/groups/".toList ++ part ++ "/members".toList =
      [] ++ '/' :: ("groups".toList ++ '/' :: (part ++ '/' :: "members".toList)) := by simp
  rw [Route.ofPath, path, pieces, Text.split_append List.not_mem_nil, Text.split_append (by decide),
    Text.split_append bare.slash, Text.split_of_not_mem (by decide)]
  rfl

end

/-- A character that a header text may hold. -/
def HeaderChar (c : Char) : Prop :=
  0x20 ≤ c.toNat ∧ c.toNat < 0x7f ∨ c = '\t'

theorem headerText?_encode {cs : List Char} (h : ∀ c ∈ cs, HeaderChar c) :
    headerText? (Text.Utf8.encode cs) = some (String.ofList cs) := by
  have byte : ∀ n < 0x7f, 0x20 ≤ n ∨ n = 9 → String.utf8EncodeChar (Char.ofNat n) =
      [UInt8.ofNat n] ∧ isHeaderText (UInt8.ofNat n) = true ∧
      Char.ofNat (UInt8.ofNat n).toNat = Char.ofNat n := by decide +kernel
  have all : (Text.Utf8.encode cs).all isHeaderText = true ∧
      (Text.Utf8.encode cs).map (fun b => Char.ofNat b.toNat) = cs := by
    induction cs with
    | nil => exact ⟨rfl, rfl⟩
    | cons c cs ih =>
      have range : c.toNat < 0x7f ∧ (0x20 ≤ c.toNat ∨ c.toNat = 9) := by
        rcases h c List.mem_cons_self with ⟨low, high⟩ | rfl
        · exact ⟨high, .inl low⟩
        · decide
      obtain ⟨bytes, visible, back⟩ := byte c.toNat range.1 range.2
      rw [Char.ofNat_toNat] at bytes back
      obtain ⟨rest, text⟩ := ih fun d there => h d (List.mem_cons_of_mem _ there)
      have encoded : Text.Utf8.encode (c :: cs) =
          UInt8.ofNat c.toNat :: Text.Utf8.encode cs := by
        rw [Text.Utf8.encode, List.flatMap_cons, bytes]
        rfl
      rw [encoded, List.all_cons, List.map_cons, visible, back, rest, text]
      exact ⟨rfl, rfl⟩
  rw [headerText?, if_pos all.1, all.2]

end CodeReview.Http
