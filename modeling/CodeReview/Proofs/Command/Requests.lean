import Mathlib.Algebra.Ring.Nat
import CodeReview.Http.Service
import CodeReview.Proofs.Group.MembersInput
import CodeReview.Proofs.Http.Target
import CodeReview.Proofs.Identifier
import CodeReview.Proofs.Json.RoundTrip
import CodeReview.Proofs.Text.Numeral
set_option autoImplicit false

/-!
Requests that ask for what a command asks for. Any request counts whose parts are read as the
operands of the command, however they are written, and for all operands there is such a request.
-/
namespace CodeReview.Command
open Http

/-- The options, the mask and the pin of a command as the pairs of a query. -/
def queryPairs (options : List String) (mask pin : Option String) : List (String × String) :=
  options.map (("o", ·)) ++ (mask.map (("O", ·))).toList ++ (pin.map (("meta", ·))).toList

/-- The request asks for the change that a command shows, with its options in their order, its
mask and its pin. -/
structure AsksFor (r : Request) (id : String) (options : List String) (mask pin : Option String) :
    Prop where
  method : r.method = "GET"
  path : ∃ part, Route.ofPath r.path = some (.change part) ∧
    Text.Percent.segment? part = some id.toList
  query : Text.Percent.pairs r.query = queryPairs options mask pin
  fresh : r.header? "If-None-Match" = none

/-- The request adds the members of a command to its group, for its caller. -/
structure Enlists (r : Request) (group : String) (caller : AccountId) (tokens : List String) :
    Prop where
  method : r.method = "POST"
  path : ∃ part, Route.ofPath r.path = some (.members part) ∧
    Text.Percent.segment? part = some group.toList
  caller : ∃ value text, r.header? "X-Account-Id" = some value ∧ headerText? value = some text ∧
    AccountId.parse? (Text.trim text) = some caller
  body : ∃ text, r.body = Text.Utf8.bytes text ∧
    Json.parse text = some (MembersInput.listing tokens)

def changeRequest (id : String) (options : List String) (mask pin : Option String) : Request :=
  ⟨"GET", String.ofList ("/changes/".toList ++ Text.Percent.escaped id ++ '?' ::
    Text.Percent.queryChars (Text.Percent.escapedPairs (queryPairs options mask pin))), [], []⟩

theorem asksFor_changeRequest {id : String} (some : id ≠ "") (options : List String)
    (mask pin : Option String) :
    AsksFor (changeRequest id options mask pin) id options mask pin := by
  have part : Text.Percent.escaped id ≠ [] := by
    intro none
    have read := Text.Percent.segment?_escaped id
    rw [none] at read
    exact some (String.toList_eq_nil_iff.1 (Option.some.inj read).symm)
  obtain ⟨route, query⟩ := route_of_change (r := changeRequest id options mask pin)
    String.toList_ofList (bare_escaped id) part (Text.Percent.not_mem_queryChars (by decide)
      (Text.Percent.not_mem_escapedPairs (by decide) (by decide) _))
  exact ⟨rfl, ⟨_, route, Text.Percent.segment?_escaped id⟩,
    by rw [query, Text.Percent.pairs_escapedPairs], rfl⟩

def membersRequest (group : String) (caller : AccountId) (tokens : List String) : Request :=
  ⟨"POST", String.ofList ("/groups/".toList ++ Text.Percent.escaped group ++ "/members".toList),
    [("X-Account-Id", Text.Utf8.bytes caller.text)],
    Text.Utf8.bytes (MembersInput.listing tokens).compact⟩

theorem plain_listing (tokens : List String) : (MembersInput.listing tokens).plain = true := by
  have texts : Json.plainItems (tokens.map Json.text) = true :=
    Json.plainItems_map tokens fun _ => rfl
  simp [MembersInput.listing, listJson, Json.plain, Json.plainFields, texts]

theorem length_le_charsItems (tokens : List String) :
    (tokens.map fun t => (Json.Quoted.encode t).length).sum ≤
      (Json.charsItems (tokens.map Json.text)).length := by
  induction tokens with
  | nil => exact Nat.zero_le _
  | cons t ts ih =>
    simp only [List.map_cons, List.sum_cons, Json.charsItems, Json.chars, Json.atom,
      List.length_cons, List.length_append]
    omega

/-- The body of a request has at least the bytes of the quoted members. -/
theorem length_le_membersRequest (group : String) (caller : AccountId) (tokens : List String) :
    (tokens.map fun t => (Json.Quoted.encode t).length).sum ≤
      (membersRequest group caller tokens).body.length := by
  have items : (tokens.map fun t => (Json.Quoted.encode t).length).sum ≤
      (Json.array (tokens.map Json.text)).chars.length := by
    cases tokens with
    | nil => exact Nat.zero_le _
    | cons t ts =>
      have rest := length_le_charsItems ts
      simp only [List.map_cons, List.sum_cons, Json.chars, Json.atom, List.length_cons,
        List.length_append]
      omega
  have chars : (MembersInput.listing tokens).compact.toList.length ≤
      (membersRequest group caller tokens).body.length := Text.Utf8.length_le_encode _
  refine Nat.le_trans items (Nat.le_trans ?_ chars)
  simp only [MembersInput.listing, listJson, Json.compact, String.toList_ofList, Json.chars,
    List.length_cons, List.length_append]
  omega

theorem enlists_membersRequest (group : String) (caller : AccountId) (tokens : List String) :
    Enlists (membersRequest group caller tokens) group caller tokens := by
  have digit : ∀ d < 10, 0x20 ≤ (Nat.digitChar d).toNat ∧ (Nat.digitChar d).toNat < 0x7f := by
    decide
  have visible : headerText? (Text.Utf8.bytes caller.text) = some caller.text := by
    refine (headerText?_encode fun c there => ?_).trans (congrArg some String.ofList_toList)
    obtain ⟨d, small, rfl⟩ := Text.Numeral.mem_decimalText there
    exact .inl (digit d small)
  have header : (membersRequest group caller tokens).header? "X-Account-Id" =
      some (Text.Utf8.bytes caller.text) := by
    have same : Text.sameFolded "X-Account-Id" "X-Account-Id" = true := Text.sameFolded_iff.2 rfl
    simp [Request.header?, membersRequest, same]
  exact ⟨rfl, ⟨_, route_of_members String.toList_ofList (bare_escaped group),
      Text.Percent.segment?_escaped group⟩,
    ⟨_, _, header, visible, by rw [caller.trim_text, AccountId.parse?_text]⟩,
    ⟨_, rfl, Json.parse_compact (plain_listing tokens)⟩⟩

end CodeReview.Command
