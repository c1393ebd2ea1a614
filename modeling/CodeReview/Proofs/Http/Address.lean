import CodeReview.Account
import CodeReview.Http.Address
import CodeReview.Proofs.Http.Target
import CodeReview.Proofs.Text.Blank
import Mathlib.Data.List.DropRight
set_option autoImplicit false

/-!
Addresses below another one. A base of the web with a path after it is an address of the same
authority whatever segment comes last, and a plain segment comes last in its path as it is.
-/
namespace CodeReview.Http.Address

/-- A character that stands in a path as it is written and ends no part of an address. -/
structure IsPlainChar (c : Char) : Prop where
  visible : 0x20 < c.toNat
  slash : isSlash c = false
  question : c ≠ '?'
  number : c ≠ '#'
  percent : c ≠ '%'
  unescaped : escapedInPath c = false

/-- A segment of such characters that is no dot segment. It may be empty. -/
structure IsPlainSegment (t : List Char) : Prop where
  plain : ∀ c ∈ t, IsPlainChar c
  kept : t ≠ ['.'] ∧ t ≠ ['.', '.']

theorem dots_of_not_mem {t : List Char} (h : '%' ∉ t) : dots t = t := by
  fun_induction dots t with
  | case1 => simp at h
  | case2 => rfl
  | case3 c rest _ ih => rw [ih fun there => h (List.mem_cons_of_mem c there)]
  | case4 => rfl

theorem escape_of_plain {mustEscape : Char → Bool} {cs : List Char}
    (h : ∀ c ∈ cs, mustEscape c = false) : escape mustEscape cs = cs := by
  induction cs with
  | nil => rfl
  | cons c cs ih =>
    obtain ⟨first, rest⟩ := List.forall_mem_cons.1 h
    have single : escape mustEscape (c :: cs) =
        (if mustEscape c then (String.utf8EncodeChar c).flatMap escapeByte else [c]) ++
          escape mustEscape cs := rfl
    rw [single, ih rest, first]
    rfl

theorem joined_of_not_break {cs : List Char} (h : ∀ c ∈ cs, isBreak c = false) :
    joined cs = cs := by
  rw [joined, List.filter_eq_self]
  intro c there
  rw [h c there]
  rfl

theorem not_isBreak_of_visible {c : Char} (h : 0x20 < c.toNat) : isBreak c = false := by
  rw [isBreak, Bool.or_eq_false_iff, Bool.or_eq_false_iff]
  refine ⟨⟨?_, ?_⟩, ?_⟩ <;>
    · rw [decide_eq_false_iff_not]
      rintro rfl
      exact absurd h (by decide)

theorem joined_append (as bs : List Char) : joined (as ++ bs) = joined as ++ joined bs :=
  List.filter_append ..

/-- Dot segments before the last two do not depend on the last one. -/
theorem dropDots_below {u : List Char}
    (named : dots (joined u) ≠ ['.'] ∧ dots (joined u) ≠ ['.', '.'])
    (ss kept : List (List Char)) :
    ∃ front, ∀ t, dots (joined t) ≠ ['.'] → dots (joined t) ≠ ['.', '.'] →
      dropDots (fun _ s => [s]) kept (ss ++ [u, t]) = front ++ [u, t] := by
  induction ss generalizing kept with
  | nil =>
    refine ⟨kept.reverse, fun t one two => ?_⟩
    rw [List.nil_append, dropDots, if_neg named.1, if_neg named.2, dropDots, if_neg one,
      if_neg two, dropDots]
    simp
  | cons s ss ih =>
    have more (t : List Char) : ¬(ss ++ [u, t] = []) := by simp
    by_cases one : dots (joined s) = ['.']
    · obtain ⟨front, same⟩ := ih kept
      refine ⟨front, fun t h k => ?_⟩
      rw [List.cons_append, dropDots, if_pos one, if_neg (more t), List.nil_append, same t h k]
    by_cases two : dots (joined s) = ['.', '.']
    · obtain ⟨front, same⟩ := ih (dropLastKept kept)
      refine ⟨front, fun t h k => ?_⟩
      rw [List.cons_append, dropDots, if_neg one, if_pos two, if_neg (more t), List.nil_append,
        same t h k]
    · obtain ⟨front, same⟩ := ih (s :: kept)
      refine ⟨front, fun t h k => ?_⟩
      rw [List.cons_append, dropDots, if_neg one, if_neg two]
      exact same t h k

section
variable {t : List Char} (h : IsPlainSegment t)
include h

theorem IsPlainSegment.not_mem {c : Char} (other : ¬IsPlainChar c) : c ∉ t :=
  fun there => other (h.plain c there)

theorem IsPlainSegment.joined_eq : joined t = t :=
  joined_of_not_break fun c there => not_isBreak_of_visible (h.plain c there).visible

theorem IsPlainSegment.escape_eq : escape escapedInPath t = t :=
  escape_of_plain fun c there => (h.plain c there).unescaped

theorem IsPlainSegment.dots_eq : dots (joined t) = t := by
  rw [h.joined_eq, dots_of_not_mem (h.not_mem fun plain => plain.percent rfl)]

end

theorem escapedInPath_eq (c : Char) : escapedInPath c =
    (isControl c || decide (c ∈ " \"<>`".toList) || decide (c ∈ "#?\x7b\x7d".toList)) := by
  rw [escapedInPath, escapedInFragment, String.contains_char_eq, String.contains_char_eq]

/-- The characters of usernames are plain. -/
theorem isPlainChar_of_username {c : Char} (h : isUsernameChar c = true) : IsPlainChar c := by
  have ascii : c.toNat < 128 := by
    simp only [isUsernameChar, Bool.or_eq_true, decide_eq_true_eq] at h
    rcases h with (((letter | rfl) | rfl) | rfl) | rfl
    · exact (Text.range_of_alphanumeric letter).2.trans_lt (by decide)
    all_goals decide
  have plain : ∀ n < 128, isUsernameChar (Char.ofNat n) = true →
      0x20 < (Char.ofNat n).toNat ∧ isSlash (Char.ofNat n) = false ∧ Char.ofNat n ≠ '?' ∧
      Char.ofNat n ≠ '#' ∧ Char.ofNat n ≠ '%' ∧ (isControl (Char.ofNat n) ||
        decide (Char.ofNat n ∈ " \"<>`".toList) ||
        decide (Char.ofNat n ∈ "#?\x7b\x7d".toList)) = false := by decide +kernel
  have valid := plain c.toNat ascii
  rw [Char.ofNat_toNat, ← escapedInPath_eq] at valid
  obtain ⟨visible, slash, question, number, percent, unescaped⟩ := valid h
  exact ⟨visible, slash, question, number, percent, unescaped⟩

theorem isPlainSegment_of_username {name : String} (valid : isValidUsername name = true) :
    name.toList ≠ [] ∧ IsPlainSegment name.toList := by
  unfold isValidUsername at valid
  generalize name.toList = cs at valid
  cases cs with
  | nil => cases valid
  | cons c cs =>
    simp only [Bool.and_eq_true, List.all_eq_true] at valid
    obtain ⟨⟨first, -⟩, all⟩ := valid
    refine ⟨by simp, fun d there => isPlainChar_of_username (all d there), ?_⟩
    constructor <;>
      · rintro dots
        obtain ⟨rfl, -⟩ := List.cons.inj dots
        cases first

theorem isPlainSegment_users : IsPlainSegment "users".toList :=
  (isPlainSegment_of_username (by decide : isValidUsername "users" = true)).2

theorem segments_append_slash (as bs : List Char) :
    segments isSlash (as ++ '/' :: bs) = segments isSlash as ++ segments isSlash bs := by
  rw [segments, List.map_append, List.map_cons, if_pos (by decide), Text.split_append_split]
  rfl

theorem segments_plain {t : List Char} (h : IsPlainSegment t) : segments isSlash t = [t] := by
  have same : (t.map fun c => if isSlash c then '/' else c) = t := by
    refine (List.map_congr_left fun c there => ?_).trans (List.map_id t)
    rw [(h.plain c there).slash]
    rfl
  have whole : '/' ∉ t := h.not_mem fun plain => by cases plain.slash
  rw [segments, same, Text.split_of_not_mem whole]

theorem slashed_append (ss us : List (List Char)) : slashed (ss ++ us) = slashed ss ++ slashed us :=
  List.flatMap_append

/-- Below `users`, a path says before the last segment what it says for any. -/
theorem pathText_below (path : List Char) (rooted : ∀ c ∈ path.head?, isSlash c = true) :
    ∃ front, ∀ t, IsPlainSegment t →
      pathText isSlash (path ++ ("/users/".toList ++ t)) = front ++ ("/users/".toList ++ t) := by
  -- The slash in front of the path, or of `users` where the path is empty, makes no segment.
  obtain ⟨ss, parts⟩ : ∃ ss, ∀ t, IsPlainSegment t →
      pathText isSlash (path ++ ("/users/".toList ++ t)) =
        slashed ((dropDots (fun _ s => [s]) [] (ss ++ ["users".toList, t])).map
          (escape escapedInPath)) := by
    have below (t : List Char) (h : IsPlainSegment t) :
        segments isSlash ("users".toList ++ '/' :: t) = ["users".toList, t] := by
      rw [segments_append_slash, segments_plain isPlainSegment_users, segments_plain h]
      rfl
    cases path with
    | nil =>
      refine ⟨[], fun t h => ?_⟩
      rw [List.nil_append, ← below t h]
      rfl
    | cons c rest =>
      refine ⟨segments isSlash rest, fun t h => ?_⟩
      have slash : isSlash c = true := rooted c rfl
      rw [List.cons_append, pathText, if_pos slash, cleanSegments, ← below t h,
        ← segments_append_slash]
      rfl
  obtain ⟨front, dropped⟩ := dropDots_below (u := "users".toList) (by decide) ss []
  refine ⟨slashed (front.map (escape escapedInPath)), fun t h => ?_⟩
  have kept : dots (joined t) ≠ ['.'] ∧ dots (joined t) ≠ ['.', '.'] := by
    rw [h.dots_eq]
    exact h.kept
  rw [parts t h, dropped t kept.1 kept.2, List.map_append, slashed_append, List.map_cons,
    List.map_singleton, isPlainSegment_users.escape_eq, h.escape_eq]
  simp [slashed]

/-- The base is an address of the web without a query and a fragment. -/
def IsWebBase (base : List Char) : Prop :=
  ∃ a, ofText? base = some a ∧ (a.scheme = "http".toList ∨ a.scheme = "https".toList) ∧
    a.query = none ∧ a.fragment = none

/-- The text before the first colon of an address is a scheme once it is in small letters. -/
structure IsSchemeName (front : List Char) (scheme : String) : Prop where
  bare : ':' ∉ front
  letter : (joined front).head?.any Char.isAlpha
  all : (joined front).all isSchemeChar
  small : scheme = String.ofList ((joined front).map Char.toLower)

/-- What a text starts with that is an address with any path after it. -/
structure Begins (cs : List Char) (scheme : String) (rest : List Char) : Prop where
  name : ∃ front, cs.dropWhile isBlankOrControl = front ++ ':' :: rest ∧ IsSchemeName front scheme
  web : isWeb scheme = true ∧ scheme ≠ "file"
  whole : '?' ∉ rest ∧ '#' ∉ rest
  host : ∃ c ∈ joined rest, isSlash c = false

theorem splitScheme?_eq_some {cs rest : List Char} {scheme : String} :
    splitScheme? cs = some (scheme, rest) ↔
      ∃ front, cs = front ++ ':' :: rest ∧ IsSchemeName front scheme := by
  have colon {front rest' : List Char} (bare : ':' ∉ front) :
      splitScheme? (front ++ ':' :: rest') =
        if (joined front).head?.any Char.isAlpha ∧ (joined front).all isSchemeChar then
          some (String.ofList ((joined front).map Char.toLower), rest')
        else none := by
    have before := Text.differs_of_not_mem bare
    rw [splitScheme?, List.takeWhile_append_of_pos before, List.dropWhile_append_of_pos before]
    simp
  constructor
  · intro h
    have there : ':' ∈ cs := by
      by_contra bare
      have none : cs.dropWhile (· ≠ ':') = [] :=
        List.dropWhile_eq_nil_iff.2 (Text.differs_of_not_mem bare)
      rw [splitScheme?, none] at h
      cases h
    obtain ⟨front, rest', rfl, bare⟩ := List.eq_append_cons_of_mem there
    rw [colon bare] at h
    split at h
    · next named =>
      cases h
      exact ⟨front, rfl, bare, named.1, named.2, rfl⟩
    · cases h
  · rintro ⟨front, rfl, bare, letter, all, rfl⟩
    rw [colon bare, if_pos ⟨letter, all⟩]

/-- An address of the web has no host where nothing but slashes follows the scheme. -/
theorem authority?_nil {scheme : String} (web : isWeb scheme = true) :
    authority? scheme [] = none := by
  simp [authority?, splitUser, splitPort, credentials, web]

/-- A host is needed after the slashes of an address of the web. -/
theorem exists_not_slash_of_parts {scheme : String} {cs : List Char}
    {p : Option Authority × List Char} (web : isWeb scheme = true) (other : scheme ≠ "file")
    (h : parts? scheme cs = some p) : ∃ c ∈ joined cs, isSlash c = false := by
  by_contra none
  have slashes : ∀ c ∈ joined cs, isSlash c = true := by
    intro c there
    by_contra other
    exact none ⟨c, there, by simpa using other⟩
  have nothing : (joined cs).dropWhile isSlash = [] := List.dropWhile_eq_nil_iff.2 slashes
  rw [parts?, if_neg other, if_pos web] at h
  dsimp only at h
  rw [nothing, List.takeWhile_nil, authority?_nil web] at h
  cases h

theorem ofText?_of_whole {cs rest : List Char} {scheme : String}
    (named : splitScheme? (trimmed cs) = some (scheme, rest)) (whole : '?' ∉ rest ∧ '#' ∉ rest) :
    ofText? cs = (parts? scheme rest).map fun p => ⟨scheme.toList, p.1, p.2, none, none⟩ := by
  have all : ∀ c ∈ rest, (decide (c ≠ '?') && decide (c ≠ '#')) = true := by
    intro c there
    rw [Bool.and_eq_true, decide_eq_true_eq, decide_eq_true_eq]
    exact ⟨fun e => whole.1 (e ▸ there), fun e => whole.2 (e ▸ there)⟩
  unfold ofText?
  rw [named]
  dsimp only [Option.bind_eq_bind, Option.bind_some]
  rw [List.takeWhile_eq_self_iff.2 all, List.dropWhile_eq_nil_iff.2 all]
  cases parts? scheme rest <;> rfl

/-- Where nothing but line breaks is left after some characters, and they are such characters
themselves, nothing is left. -/
theorem forall_of_joined_eq_nil {p : Char → Bool} {cs : List Char}
    (breaks : ∀ c, isBreak c = true → p c = true) (h : joined (cs.dropWhile p) = []) :
    ∀ c ∈ cs, p c = true := by
  rw [← List.dropWhile_eq_nil_iff]
  by_contra left
  have ends := List.head_dropWhile_not p left
  have kept : (cs.dropWhile p).head left ∈ joined (cs.dropWhile p) := by
    refine List.mem_filter.2 ⟨List.head_mem left, ?_⟩
    rw [Bool.not_eq_true', ← Bool.not_eq_true]
    intro isBreak
    rw [breaks _ isBreak] at ends
    cases ends
  rw [h] at kept
  cases kept

theorem ofText?_web {cs : List Char} {a : Address} (h : ofText? cs = some a)
    (web : a.scheme = "http".toList ∨ a.scheme = "https".toList) (noQuery : a.query = none)
    (noFragment : a.fragment = none) :
    ∃ scheme rest, splitScheme? (trimmed cs) = some (scheme, rest) ∧
      (isWeb scheme = true ∧ scheme ≠ "file") ∧ ('?' ∉ rest ∧ '#' ∉ rest) ∧
      ∃ c ∈ joined rest, isSlash c = false := by
  unfold ofText? at h
  obtain ⟨⟨scheme, rest⟩, named, h⟩ := Option.bind_eq_some_iff.1 h
  obtain ⟨⟨who, path⟩, parts, h⟩ := Option.bind_eq_some_iff.1 h
  have address := Option.some.inj h
  clear h
  subst address
  have known : isWeb scheme = true ∧ scheme ≠ "file" := by
    have same : scheme = "http" ∨ scheme = "https" :=
      web.imp (fun e => String.toList_inj.1 e) (fun e => String.toList_inj.1 e)
    rcases same with rfl | rfl <;> decide
  clear web
  dsimp only at noQuery noFragment parts
  -- Nothing is left for a query or a fragment, so the path goes on to the end.
  have noRest : joined (rest.dropWhile fun c => decide (c ≠ '?') && decide (c ≠ '#')) = [] := by
    generalize joined _ = after at noQuery noFragment
    rw [← List.takeWhile_append_dropWhile (p := (· ≠ '#')) (l := after)]
    split at noQuery
    · next none =>
      rw [none, List.nil_append]
      split at noFragment
      · next none => exact none
      · cases noFragment
    · cases noQuery
  have all := forall_of_joined_eq_nil (by
    intro c ends
    rw [Bool.and_eq_true, decide_eq_true_eq, decide_eq_true_eq]
    constructor <;>
      · rintro rfl
        cases ends) noRest
  rw [List.takeWhile_eq_self_iff.2 all] at parts
  refine ⟨scheme, rest, named, known, ⟨fun there => ?_, fun there => ?_⟩,
    exists_not_slash_of_parts known.1 known.2 parts⟩
  · exact absurd (all _ there) (by decide)
  · exact absurd (all _ there) (by decide)

section
variable {p : Char → Bool} {c : Char} (stops : p c = false) (cs rest : List Char)
include stops

theorem takeWhile_append_stop : (cs ++ c :: rest).takeWhile p = cs.takeWhile p := by
  induction cs with
  | nil => rw [List.nil_append, List.takeWhile_cons_of_neg (by simp [stops]), List.takeWhile_nil]
  | cons d cs ih =>
    rw [List.cons_append, List.takeWhile_cons, List.takeWhile_cons, ih]

theorem dropWhile_append_stop : (cs ++ c :: rest).dropWhile p = cs.dropWhile p ++ c :: rest := by
  induction cs with
  | nil => rw [List.nil_append, List.dropWhile_cons_of_neg (by simp [stops])]; rfl
  | cons d cs ih =>
    rw [List.cons_append, List.dropWhile_cons, List.dropWhile_cons, ih]
    split <;> rfl

end

/-- Texts are split at the first place of a character in one way only. -/
theorem append_cons_inj_of_not_mem {mark : Char} {as as' bs bs' : List Char} (h : mark ∉ as)
    (h' : mark ∉ as') (same : as ++ mark :: bs = as' ++ mark :: bs') : as = as' ∧ bs = bs' := by
  have fronts := congrArg (List.takeWhile fun c => decide (c ≠ mark)) same
  rw [takeWhile_append_stop (by simp), takeWhile_append_stop (by simp),
    List.takeWhile_eq_self_iff.2 (Text.differs_of_not_mem h),
    List.takeWhile_eq_self_iff.2 (Text.differs_of_not_mem h')] at fronts
  obtain rfl := fronts
  exact ⟨rfl, (List.cons.inj (List.append_cancel_left same)).2⟩

theorem trimmed_eq (cs : List Char) :
    trimmed cs = (cs.dropWhile isBlankOrControl).rdropWhile isBlankOrControl := rfl

/-- What comes below an address is visible and goes on to the end of its path. -/
theorem IsPlainSegment.below {t : List Char} (h : IsPlainSegment t) :
    ∀ c ∈ "/users/".toList ++ t, 0x20 < c.toNat ∧ c ≠ '?' ∧ c ≠ '#' := by
  intro c there
  rcases List.mem_append.1 there with users | inside
  · have plain : ∀ c ∈ "/users/".toList, 0x20 < c.toNat ∧ c ≠ '?' ∧ c ≠ '#' :=
      List.forall_iff_forall_mem.1 (by decide)
    exact plain c users
  · have plain := h.plain c inside
    exact ⟨plain.visible, plain.question, plain.number⟩

/-- A text that ends in a visible character is trimmed at its start only. -/
theorem trimmed_below (cs : List Char) {t : List Char} (h : IsPlainSegment t) :
    trimmed (cs ++ ("/users/".toList ++ t)) =
      cs.dropWhile isBlankOrControl ++ ("/users/".toList ++ t) := by
  have visible : ∀ c ∈ "/users/".toList ++ t, isBlankOrControl c = false := by
    intro c there
    rw [isBlankOrControl, decide_eq_false_iff_not, Nat.not_le]
    exact (h.below c there).1
  have start : (cs ++ ("/users/".toList ++ t)).dropWhile isBlankOrControl =
      cs.dropWhile isBlankOrControl ++ ("/users/".toList ++ t) :=
    dropWhile_append_stop (by decide) cs ("users/".toList ++ t)
  have whole : "/users/".toList ++ t ≠ [] := List.append_ne_nil_of_left_ne_nil (by decide) t
  rw [trimmed_eq, start, List.rdropWhile_eq_self_iff]
  intro filled
  rw [List.getLast_append_of_ne_nil _ whole, visible _ (List.getLast_mem whole)]
  decide

/-- A text with slashes after it that is an address of the web begins one without them. -/
theorem begins_of_base {cs slashes : List Char} (h : IsWebBase (cs ++ slashes))
    (only : ∀ c ∈ slashes, c = '/') : ∃ scheme rest, Begins cs scheme rest := by
  obtain ⟨a, found, web, noQuery, noFragment⟩ := h
  obtain ⟨scheme, rest, named, web, whole, c, inside, slash⟩ :=
    ofText?_web found web noQuery noFragment
  obtain ⟨front, split, name⟩ := splitScheme?_eq_some.1 named
  obtain ⟨blanks, blank, start⟩ : ∃ blanks, (∀ c ∈ blanks, isBlankOrControl c = true) ∧
      (cs ++ slashes).dropWhile isBlankOrControl = trimmed (cs ++ slashes) ++ blanks :=
    ⟨_, fun c => List.mem_rtakeWhile_imp, List.rdropWhile_append_rtakeWhile.symm⟩
  have same : cs.dropWhile isBlankOrControl ++ slashes = front ++ ':' :: (rest ++ blanks) := by
    rw [split, List.append_assoc, List.cons_append] at start
    rw [← start]
    cases slashes with
    | nil => rw [List.append_nil, List.append_nil]
    | cons c more =>
      obtain rfl := only c List.mem_cons_self
      exact (dropWhile_append_stop (by decide) cs more).symm
  have colon : ':' ∈ cs.dropWhile isBlankOrControl := by
    have there : ':' ∈ cs.dropWhile isBlankOrControl ++ slashes := by
      rw [same]
      simp
    rcases List.mem_append.1 there with there | there
    · exact there
    · exact absurd (only _ there) (by decide)
  obtain ⟨front', rest', parts, bare⟩ := List.eq_append_cons_of_mem colon
  rw [parts, List.append_assoc, List.cons_append] at same
  obtain ⟨rfl, after⟩ := append_cons_inj_of_not_mem bare name.bare same
  have none_of {d : Char} (there : d ∈ rest') (other : d ∉ rest)
      (visible : isBlankOrControl d = false) : False := by
    have both : d ∈ rest ++ blanks := after ▸ List.mem_append_left slashes there
    rcases List.mem_append.1 both with there | there
    · exact other there
    · rw [blank d there] at visible
      cases visible
  refine ⟨scheme, rest', ⟨front', parts, name⟩, web, ⟨fun there => ?_, fun there => ?_⟩, ?_⟩
  · exact none_of there whole.1 (by decide)
  · exact none_of there whole.2 (by decide)
  · obtain ⟨there, kept⟩ := List.mem_filter.1 inside
    have both : c ∈ rest' ++ slashes := after ▸ List.mem_append_left blanks there
    rcases List.mem_append.1 both with there | there
    · exact ⟨c, List.mem_filter.2 ⟨there, kept⟩, slash⟩
    · rw [only c there] at slash
      cases slash

/-- The host and the path in front of `users` are the same whatever the segment is. -/
theorem parts?_below {scheme : String} {rest : List Char} (web : isWeb scheme = true)
    (other : scheme ≠ "file") (host : ∃ c ∈ joined rest, isSlash c = false) :
    ∃ hostText front, ∀ t, IsPlainSegment t → parts? scheme (rest ++ ("/users/".toList ++ t)) =
      (authority? scheme hostText).map fun a => (some a, front ++ ("/users/".toList ++ t)) := by
  obtain ⟨c, inside, slash⟩ := host
  have rooted : ∀ d ∈ (((joined rest).dropWhile isSlash).dropWhile (!isSlash ·)).head?,
      isSlash d = true := by
    intro d first
    have ends := List.head?_dropWhile_not (fun c => !isSlash c) ((joined rest).dropWhile isSlash)
    rw [Option.mem_def.1 first] at ends
    simpa using ends
  obtain ⟨front, path⟩ := pathText_below _ rooted
  refine ⟨((joined rest).dropWhile isSlash).takeWhile (!isSlash ·), front, fun t h => ?_⟩
  have more : (joined (rest ++ ("/users/".toList ++ t))).dropWhile isSlash =
      (joined rest).dropWhile isSlash ++ ("/users/".toList ++ t) := by
    have unbroken : joined ("/users/".toList ++ t) = "/users/".toList ++ t :=
      joined_of_not_break fun c there => not_isBreak_of_visible (h.below c there).1
    rw [joined_append, unbroken, List.dropWhile_append, if_neg]
    rw [List.isEmpty_iff, List.dropWhile_eq_nil_iff]
    intro all
    rw [all c inside] at slash
    cases slash
  generalize (joined rest).dropWhile isSlash = named at path more
  have toHost : (named ++ ("/users/".toList ++ t)).takeWhile (!isSlash ·) =
      named.takeWhile (!isSlash ·) :=
    takeWhile_append_stop (by decide) _ ("users/".toList ++ t)
  have toPath : (named ++ ("/users/".toList ++ t)).dropWhile (!isSlash ·) =
      named.dropWhile (!isSlash ·) ++ ("/users/".toList ++ t) :=
    dropWhile_append_stop (by decide) _ ("users/".toList ++ t)
  rw [parts?, if_neg other, if_pos web]
  dsimp only
  rw [more, toHost, toPath, path t h]

/-- Below `users`, an address with any plain segment at the end is that of `users` with the
segment at the end of its path. -/
theorem Begins.below {cs rest : List Char} {scheme : String} (h : Begins cs scheme rest) :
    (∀ t, IsPlainSegment t → ofText? (cs ++ ("/users/".toList ++ t)) = none) ∨
    ∃ who front, ∀ t, IsPlainSegment t → ofText? (cs ++ ("/users/".toList ++ t)) =
      some ⟨scheme.toList, some who, front ++ ("/users/".toList ++ t), none, none⟩ := by
  obtain ⟨⟨front, start, name⟩, ⟨web, other⟩, whole, host⟩ := h
  have reduced (t : List Char) (h : IsPlainSegment t) :
      ofText? (cs ++ ("/users/".toList ++ t)) =
        (parts? scheme (rest ++ ("/users/".toList ++ t))).map
          fun p => ⟨scheme.toList, p.1, p.2, none, none⟩ := by
    refine ofText?_of_whole ?_ ⟨fun there => ?_, fun there => ?_⟩
    · rw [trimmed_below cs h, start, List.append_assoc, List.cons_append]
      exact splitScheme?_eq_some.2 ⟨front, rfl, name⟩
    · exact (List.mem_append.1 there).elim whole.1 fun below => (h.below _ below).2.1 rfl
    · exact (List.mem_append.1 there).elim whole.2 fun below => (h.below _ below).2.2 rfl
  obtain ⟨hostText, front, parts⟩ := parts?_below web other host
  cases found : authority? scheme hostText with
  | none =>
    refine .inl fun t h => ?_
    rw [reduced t h, parts t h, found]
    rfl
  | some who =>
    refine .inr ⟨who, front, fun t h => ?_⟩
    rw [reduced t h, parts t h, found]
    rfl

/-- An address below `users` is that of `users` itself with the segment at the end. -/
theorem ofText?_below {cs slashes t : List Char} {a : Address} (base : IsWebBase (cs ++ slashes))
    (only : ∀ c ∈ slashes, c = '/') (plain : IsPlainSegment t)
    (h : ofText? (cs ++ ("/users/".toList ++ t)) = some a) :
    ∃ users : Address, ofText? (cs ++ "/users/".toList) = some users ∧
      "/users/".toList <:+ users.path ∧ users.authority.isSome ∧ users.query = none ∧
      users.fragment = none ∧ a = { users with path := users.path ++ t } := by
  obtain ⟨scheme, rest, begins⟩ := begins_of_base base only
  obtain none | ⟨who, front, below⟩ := begins.below
  · rw [none t plain] at h
    cases h
  · have users := below [] ⟨by simp, by simp⟩
    rw [List.append_nil] at users
    rw [below t plain] at h
    obtain rfl := Option.some.inj h
    refine ⟨_, users, ⟨front, rfl⟩, rfl, rfl, rfl, ?_⟩
    rw [Address.mk.injEq, List.append_assoc]
    exact ⟨rfl, rfl, rfl, rfl, rfl⟩

/-- What an address that ends in its path asks for ends in whatever is added to the path. -/
theorem text_below {a : Address} (t : List Char) (who : a.authority.isSome) (query : a.query = none)
    (fragment : a.fragment = none) :
    ({ a with path := a.path ++ t } : Address).withoutUser.text = a.withoutUser.text ++ t := by
  obtain ⟨scheme, authority, path, query', fragment'⟩ := a
  obtain ⟨host, rfl⟩ := Option.isSome_iff_exists.1 who
  obtain rfl := query
  obtain rfl := fragment
  simp [withoutUser, text, marked]

end CodeReview.Http.Address
