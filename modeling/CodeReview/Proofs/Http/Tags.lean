import Mathlib.Data.Set.Function
import CodeReview.Proofs.Http.Pinned
import CodeReview.Proofs.Http.Repeated
import CodeReview.Proofs.Http.Target
import CodeReview.Proofs.Store.Fingerprint
import CodeReview.Proofs.Text.Query
set_option autoImplicit false

/-!
Reads that name the tags they know. A list of tags in a header is taken apart at its commas, and a
comma within quotes does no harm, since none of the parts is a digest in quotes then. So a read is
told that nothing changed exactly when the tag of what it would get is in its list, and any other
read is answered as if it had no list.
-/
namespace CodeReview.Text

/-- Only spaces and tabs. -/
def Blanks (cs : List Char) : Prop :=
  ∀ c ∈ cs, c = ' ' ∨ c = '\t'

theorem Blanks.isBlank {cs : List Char} (h : Blanks cs) : ∀ c ∈ cs, isBlank c = true := by
  intro c there
  rcases h c there with rfl | rfl <;> rfl

theorem sublist_of_mem_split {sep : Char} {cs piece : List Char} (h : piece ∈ split sep cs) :
    piece.Sublist cs := by
  induction cs generalizing piece with
  | nil =>
    rw [split, List.mem_singleton] at h
    rw [h]
  | cons c cs ih =>
    rw [split] at h
    split at h
    · rcases List.mem_cons.1 h with rfl | rest
      · exact List.nil_sublist _
      · exact (ih rest).cons c
    · split at h
      · next none => exact absurd none (split_ne_nil sep cs)
      · next first rest pieces =>
        rw [pieces] at ih
        rcases List.mem_cons.1 h with rfl | more
        · exact (ih List.mem_cons_self).cons_cons c
        · exact (ih (List.mem_cons_of_mem _ more)).cons c

theorem sublist_trimChars (cs : List Char) : (trimChars cs).Sublist cs := by
  have start : (trimStart cs).Sublist cs := List.dropWhile_sublist _
  exact (List.rdropWhile_prefix isBlank (trimStart cs)).sublist.trans start

end CodeReview.Text

namespace CodeReview.Http
open Act

/-- A tag of printable characters without blanks around it, where any comma is within quotes that
end the tag. -/
structure IsTag (tag : List Char) : Prop where
  printable : ∀ c ∈ tag, 0x20 ≤ c.toNat ∧ c.toNat < 0x7f
  trimmed : Text.trimChars tag = tag
  commas : ',' ∉ tag ∨ ∃ mark inner, tag = mark ++ '"' :: (inner ++ ['"']) ∧
    ',' ∉ mark ∧ '"' ∉ mark ∧ '"' ∉ inner

/-- A text lists tags with commas between them and any blanks around them. -/
inductive Lists : List (List Char) → List Char → Prop where
  | nil {cs : List Char} (blanks : Text.Blanks cs) : Lists [] cs
  | last {tag before after : List Char} (isTag : IsTag tag) (first : Text.Blanks before)
    (second : Text.Blanks after) : Lists [tag] (before ++ tag ++ after)
  | cons {tag before after cs : List Char} {tags : List (List Char)} (isTag : IsTag tag)
    (first : Text.Blanks before) (second : Text.Blanks after) (rest : Lists tags cs) :
    Lists (tag :: tags) (before ++ tag ++ after ++ ',' :: cs)

section
variable {tags : List (List Char)} {cs tag before after : List Char}

theorem listed_blanks (h : Text.Blanks cs) : ∀ c ∈ cs, HeaderChar c := by
  intro c there
  rcases h c there with rfl | rfl
  · exact .inl ⟨by decide, by decide⟩
  · exact .inr rfl

theorem listed_around (first : Text.Blanks before) (isTag : IsTag tag)
    (second : Text.Blanks after) : ∀ c ∈ before ++ tag ++ after, HeaderChar c := by
  intro c there
  rcases List.mem_append.1 there with there | there
  · rcases List.mem_append.1 there with there | there
    · exact listed_blanks first c there
    · exact .inl (isTag.printable c there)
  · exact listed_blanks second c there

theorem Lists.listed (h : Lists tags cs) : ∀ c ∈ cs, HeaderChar c := by
  induction h with
  | nil blanks => exact listed_blanks blanks
  | last isTag first second => exact listed_around first isTag second
  | cons isTag first second _ ih =>
    intro c there
    rcases List.mem_append.1 there with there | there
    · exact listed_around first isTag second c there
    · rcases List.mem_cons.1 there with rfl | there
      · exact .inl ⟨by decide, by decide⟩
      · exact ih c there

/-- Some part of a text between its commas is a tag with blanks around it. -/
def hits (tag cs : List Char) : Bool :=
  (Text.split ',' cs).any fun t => Text.trimChars t = tag

/-- A digest in quotes. -/
def Quotes (tag : List Char) : Prop :=
  ∃ inner, tag = '"' :: (inner ++ ['"']) ∧ ',' ∉ inner ∧ '"' ∉ inner

theorem not_mem_of_blanks (h : Text.Blanks cs) {c : Char} (other : c ≠ ' ' ∧ c ≠ '\t') :
    c ∉ cs :=
  fun there => (h c there).elim other.1 other.2

theorem count_of_mem_split {p : List Char} (h : p ∈ Text.split ',' cs) :
    (Text.trimChars p).count '"' ≤ cs.count '"' :=
  ((Text.sublist_trimChars p).trans (Text.sublist_of_mem_split h)).count_le '"'

theorem Quotes.count (quotes : Quotes tag) : tag.count '"' = 2 := by
  obtain ⟨inner, rfl, -, plain⟩ := quotes
  simp [List.count_eq_zero.2 plain]

theorem Quotes.not_mem_comma (quotes : Quotes tag) : ',' ∉ tag := by
  obtain ⟨inner, rfl, plain, -⟩ := quotes
  simp [plain]

theorem hits_append (e as bs : List Char) :
    hits e (as ++ ',' :: bs) = (hits e as || hits e bs) := by
  rw [hits, Text.split_append_split, List.any_append]
  rfl

/-- With too few quotes in a text none of its parts is the digest. -/
theorem hits_of_count {e : List Char} (quotes : Quotes e) (few : cs.count '"' < 2) :
    hits e cs = false := by
  rw [hits, List.any_eq_false]
  intro p there same
  have part := count_of_mem_split there
  rw [of_decide_eq_true same, quotes.count] at part
  omega

/-- A part between commas is the digest exactly when its tag is. -/
theorem hits_around {e : List Char} (quotes : Quotes e) (first : Text.Blanks before)
    (isTag : IsTag tag) (second : Text.Blanks after) :
    hits e (before ++ tag ++ after) = decide (tag = e) := by
  have comma : ',' ∉ before ∧ ',' ∉ after :=
    ⟨not_mem_of_blanks first (by decide), not_mem_of_blanks second (by decide)⟩
  by_cases plain : ',' ∈ tag
  · -- The comma is between the quotes of the tag, so on each side of it there is one of them.
    obtain ⟨mark, inner, rfl, noComma, noQuote, within⟩ :=
      isTag.commas.resolve_left (not_not.2 plain)
    have inside : ',' ∈ inner := by simpa [noComma] using plain
    obtain ⟨left, right, rfl⟩ := List.append_of_mem inside
    have quote : before.count '"' = 0 ∧ after.count '"' = 0 :=
      ⟨List.count_eq_zero.2 (not_mem_of_blanks first (by decide)),
        List.count_eq_zero.2 (not_mem_of_blanks second (by decide))⟩
    have none : mark.count '"' = 0 ∧ left.count '"' = 0 ∧ right.count '"' = 0 := by
      simp only [List.count_eq_zero]
      exact ⟨noQuote, by simp_all, by simp_all⟩
    have parts : before ++ (mark ++ '"' :: (left ++ ',' :: right ++ ['"'])) ++ after =
        (before ++ mark ++ '"' :: left) ++ ',' :: (right ++ '"' :: after) := by simp
    have other : ¬mark ++ '"' :: (left ++ ',' :: right ++ ['"']) = e := by
      rintro rfl
      exact quotes.not_mem_comma plain
    rw [parts, hits_append, hits_of_count quotes (by simp [quote, none]),
      hits_of_count quotes (by simp [quote, none]), decide_eq_false other]
    rfl
  · have whole : ',' ∉ before ++ tag ++ after := by simp [comma, plain]
    rw [hits, Text.split_of_not_mem whole, List.any_cons, List.any_nil, Bool.or_false,
      Text.trimChars_around first.isBlank second.isBlank isTag.trimmed]

/-- A listed tag is found, and nothing else is. -/
theorem hits_iff {e : List Char} (quotes : Quotes e) (h : Lists tags cs) :
    hits e cs = true ↔ e ∈ tags := by
  induction h with
  | nil blanks =>
    have none := List.count_eq_zero.2 (not_mem_of_blanks blanks (c := '"') (by decide))
    rw [hits_of_count quotes (by omega)]
    simp
  | last isTag first second =>
    rw [hits_around quotes first isTag second, decide_eq_true_eq, List.mem_singleton, eq_comm]
  | cons isTag first second _ ih =>
    rw [hits_append, Bool.or_eq_true, ih, hits_around quotes first isTag second,
      decide_eq_true_eq, List.mem_cons, eq_comm]

end

theorem quotes_tagOf (body : String) : Quotes (tagOf body).toList := by
  refine ⟨Text.Hex.encode (Hash.Blake3.digest 32 (Text.Utf8.bytes body)), ?_, ?_, ?_⟩
  · simp [tagOf]
  · intro there
    obtain ⟨d, small, same⟩ := Text.Hex.mem_encode there
    have other : ∀ d < 16, ',' ≠ Nat.digitChar d := by decide
    exact other d small same
  · intro there
    obtain ⟨d, small, same⟩ := Text.Hex.mem_encode there
    have other : ∀ d < 16, '"' ≠ Nat.digitChar d := by decide
    exact other d small same

/-- The tags that are given out can be listed. -/
theorem isTag_tagOf (body : String) : IsTag (tagOf body).toList := by
  obtain ⟨inner, written, noComma, noQuote⟩ := quotes_tagOf body
  refine ⟨fun c there => ?_, ?_, .inr ⟨[], inner, written, by simp, by simp, noQuote⟩⟩
  · have printable : ∀ d < 16, 0x20 ≤ (Nat.digitChar d).toNat ∧ (Nat.digitChar d).toNat < 0x7f := by
      decide
    have digit : c = '"' ∨ c ∈ Text.Hex.encode (Hash.Blake3.digest 32 (Text.Utf8.bytes body)) := by
      simpa [tagOf, or_comm, or_assoc] using there
    rcases digit with rfl | there
    · decide
    · obtain ⟨d, small, rfl⟩ := Text.Hex.mem_encode there
      exact printable d small
  · rw [written]
    exact @Text.trimChars_of_ends [] inner '"' '"' (by decide) (by decide)

theorem tagOf_injective_of_digest {a b : String}
    (inj : Set.InjOn (Hash.Blake3.digest 32) {Text.Utf8.bytes a, Text.Utf8.bytes b})
    (same : tagOf a = tagOf b) : a = b := by
  have quoted : '"' :: (Text.Hex.encode (Hash.Blake3.digest 32 (Text.Utf8.bytes a)) ++ ['"']) =
      '"' :: (Text.Hex.encode (Hash.Blake3.digest 32 (Text.Utf8.bytes b)) ++ ['"']) := by
    simpa [tagOf] using congrArg String.toList same
  have digits := List.append_cancel_right (List.cons.inj quoted).2
  have digests := congrArg Text.Hex.decode digits
  rw [Text.Hex.decode_encode, Text.Hex.decode_encode] at digests
  exact Text.Utf8.bytes_injective
    (inj (Set.mem_insert _ _) (Set.mem_insert_of_mem _ rfl) (Option.some.inj digests))

/-- A GET request for a change, in the plain or in the detailed view. -/
structure ReadsChange (r : Request) : Prop where
  method : r.method = "GET"
  path : ∃ part, Route.ofPath r.path = some (.change part) ∨
    Route.ofPath r.path = some (.changeDetail part)

/-- A request is another one, which has no list of tags, with one line that lists tags. -/
structure KnowsTags (tags : List (List Char)) (plain r : Request) : Prop where
  fresh : plain.header? "If-None-Match" = none
  line : ∃ before after name cs, plain.headers = before ++ after ∧
    r = { plain with headers := before ++ (name, Text.Utf8.encode cs) :: after } ∧
    Text.sameFolded name "If-None-Match" = true ∧ Lists tags cs

theorem KnowsTags.knowsTag_iff {tags : List (List Char)} {plain r : Request}
    (h : KnowsTags tags plain r) (body : String) :
    knowsTag r (tagOf body) = true ↔ (tagOf body).toList ∈ tags := by
  obtain ⟨before, after, name, cs, headers, rfl, named, lists⟩ := h.line
  have absent : (before.find? fun line => Text.sameFolded line.1 "If-None-Match") = none := by
    have none := Option.map_eq_none_iff.1 h.fresh
    rw [headers, List.find?_append, Option.or_eq_none_iff] at none
    exact none.1
  have value : ({ plain with headers := before ++ (name, Text.Utf8.encode cs) :: after } :
      Request).header? "If-None-Match" = some (Text.Utf8.encode cs) := by
    rw [Request.header?, List.find?_append, absent, Option.none_or,
      List.find?_cons_of_pos (by exact named)]
    rfl
  rw [knowsTag, value, Option.bind_some, headerText?_encode lists.listed, Option.any_some,
    ← hits_iff (quotes_tagOf body) lists, namesTag, String.toList_ofList]
  rfl

/-- What is found out for a change before anything is compared with tags. -/
def reportOf (site : Site) (implied : OptionSet) (id : String) (query : List Char) :
    Act ApiError ChangeReport := do
  let q ← Act.ofExcept (ChangeQuery.ofPairs (Text.Percent.pairs query))
  let n ← parseChange id
  reportChange site.labels site.factories (q.options.union implied) n q.pin

theorem readChange_eq_reportOf (site : Site) (r : Request) (implied : OptionSet) (id : String) :
    readChange site r implied id = reportOf site implied id r.query >>= fun report =>
      pure (taggedResponse r report.toJson.compact) := by
  unfold readChange reportOf
  simp only [bind_assoc]

/-- A response that is no report of a change. -/
inductive Refuses : Response → Prop where
  | error (e : ApiError) : Refuses (.ofError e)
  | segment : Refuses (invalidSegment "id")

/-- The rest of a read is the same for all requests with one target, and it is only compared with
the tags of the one that is sent. -/
inductive Answers (site : Site) (w : World) (plain : Request) : Prop where
  | refuses (response : Response) (refuses : Refuses response)
    (always : ∀ r : Request, r.method = plain.method → r.target = plain.target →
      answer site r w = (response, w)) : Answers site w plain
  | reports (report : ChangeReport)
    (always : ∀ r : Request, r.method = plain.method → r.target = plain.target →
      answer site r w = (taggedResponse r report.toJson.compact, w)) : Answers site w plain

theorem readChange_cases (site : Site) (implied : OptionSet) (id : String) (query : List Char)
    (w : World) :
    (∃ e, ∀ r : Request, r.query = query →
      respond (readChange site r implied id) w = (.ofError e, w)) ∨
    ∃ report : ChangeReport, ∀ r : Request, r.query = query →
      respond (readChange site r implied id) w = (taggedResponse r report.toJson.compact, w) := by
  have reads : Reads (reportOf site implied id query) :=
    ((Ungrouped.ofExcept _).bind fun _ => (ungrouped_parseChange _).bind fun _ =>
      ungrouped_reportChange _ _ _ _ _).reads
  cases found : (reportOf site implied id query).run w with
  | mk result v =>
    obtain rfl := reads.world_eq found
    cases result with
    | error e =>
      refine .inl ⟨e, fun r same => respond_of_error ?_⟩
      rw [readChange_eq_reportOf, same, run_bind, found]
    | ok report =>
      refine .inr ⟨report, fun r same => respond_of_ok ?_⟩
      rw [readChange_eq_reportOf, same, run_bind_of_ok found]
      rfl

theorem answers_of_segment {site : Site} {plain : Request} {implied : OptionSet}
    {part : List Char} (w : World) (same : ∀ r : Request, r.method = plain.method →
      r.target = plain.target → answer site r w =
        withSegment "id" part (fun id => respond (readChange site r implied id)) w) :
    Answers site w plain := by
  cases segment : Text.Percent.segment? part with
  | none =>
    refine .refuses _ .segment fun r method target => ?_
    rw [same r method target, withSegment, segment]
    rfl
  | some text =>
    have query {r : Request} (target : r.target = plain.target) : r.query = plain.query := by
      rw [Request.query, Request.query, Request.address, Request.address, target]
    rcases readChange_cases site implied (String.ofList text) plain.query w with
      ⟨e, always⟩ | ⟨report, always⟩
    · refine .refuses _ (.error e) fun r method target => ?_
      rw [same r method target, withSegment, segment]
      exact always r (query target)
    · refine .reports report fun r method target => ?_
      rw [same r method target, withSegment, segment]
      exact always r (query target)

theorem ReadsChange.answers {plain : Request} (reads : ReadsChange plain) (site : Site)
    (w : World) : Answers site w plain := by
  have path {r : Request} (target : r.target = plain.target) : r.path = plain.path := by
    rw [Request.path, Request.path, Request.address, Request.address, target]
  have route {r : Request} {route : Route} (found : Route.ofPath plain.path = some route)
      (method : r.method = plain.method) (target : r.target = plain.target)
      (taken : "GET" ∈ route.methods) : answer site r w = answerRoute site r route w :=
    answer_of_route (path target ▸ found) (method.trans reads.method) taken (by decide)
  obtain ⟨part, found | found⟩ := reads.path
  · exact answers_of_segment w fun r method target =>
      route found method target List.mem_cons_self
  · exact answers_of_segment w fun r method target =>
      route found method target List.mem_cons_self

/-- No other body is that of a report, which tells the id first. -/
theorem Refuses.body_ne {response : Response} (h : Refuses response) (report : ChangeReport) :
    response.body ≠ report.toJson.compact := by
  have report : ∃ rest, report.toJson.chars = '\x7b' :: '"' :: 'i' :: rest := ⟨_, rfl⟩
  obtain ⟨rest, begins⟩ := report
  intro same
  rw [Json.compact, begins] at same
  have chars := congrArg String.toList same
  rw [String.toList_ofList] at chars
  cases h with
  | error e =>
    have error : ∃ rest, (Response.ofError e).body.toList = '\x7b' :: '"' :: 'e' :: rest :=
      ⟨_, String.toList_ofList⟩
    obtain ⟨rest, begins⟩ := error
    rw [begins] at chars
    simp at chars
  | segment =>
    have initial : some 'I' = some '\x7b' := congrArg List.head? chars
    exact absurd initial (by decide)

theorem Refuses.status {response : Response} (h : Refuses response) :
    response.status ≠ 200 ∧ response.status ≠ 304 ∧ ∀ e, ("etag", e) ∉ response.headers := by
  cases h with
  | error e =>
    refine ⟨?_, ?_, fun e => by simp [Response.ofError, Response.json]⟩
    · show e.kind.status ≠ 200
      cases e.kind <;> decide
    · show e.kind.status ≠ 304
      cases e.kind <;> decide
  | segment => exact ⟨by decide, by decide, fun e => by simp [invalidSegment]⟩

theorem taggedResponse_cases (r : Request) (body : String) :
    knowsTag r (tagOf body) = true ∧
      taggedResponse r body = ⟨304, [cachePolicy, ("etag", tagOf body)], ""⟩ ∨
    knowsTag r (tagOf body) = false ∧ taggedResponse r body =
      ⟨200, [("content-type", "application/json"), cachePolicy, ("etag", tagOf body)], body⟩ := by
  rw [taggedResponse]
  cases knowsTag r (tagOf body)
  · exact .inr ⟨rfl, rfl⟩
  · exact .inl ⟨rfl, rfl⟩

/-- A read that succeeds gives a report and its tag. -/
theorem ReadsChange.report_of_success {site : Site} {w : World} {q : Request}
    (reads : ReadsChange q) (success : (answer site q w).1.status = 200) :
    ∃ report : ChangeReport, answer site q w =
      (⟨200, [("content-type", "application/json"), cachePolicy,
        ("etag", tagOf report.toJson.compact)], report.toJson.compact⟩, w) := by
  cases reads.answers site w with
  | refuses response refuses always =>
    rw [always q rfl rfl] at success
    exact absurd success refuses.status.1
  | reports report always =>
    rw [always q rfl rfl] at success ⊢
    rcases taggedResponse_cases q report.toJson.compact with ⟨-, same⟩ | ⟨-, same⟩
    · rw [same] at success
      cases success
    · exact ⟨report, by rw [same]⟩

theorem etag_mem_iff {body e : String} :
    ("etag", e) ∈ [("content-type", "application/json"), cachePolicy, ("etag", tagOf body)] ↔
      e = tagOf body := by
  simp [cachePolicy]

/-- A read that lists the tag of an earlier one gets that tag and no body when it would get the
body of the earlier one, and only then if the bodies have different digests. It gets no body only
when the tag of the body that it would get is listed, and is answered as without a list
otherwise. -/
theorem reads_with_tags {site site' : Site} {w w' : World} {q plain r : Request}
    {tags : List (List Char)} {e b : String} (earlier : ReadsChange q)
    (success : (answer site q w).1.status = 200)
    (tagged : ("etag", e) ∈ (answer site q w).1.headers) (body : (answer site q w).1.body = b)
    (reads : ReadsChange plain) (knows : KnowsTags tags plain r) :
    (e.toList ∈ tags → (answer site' plain w').1.body = b →
      answer site' r w' = (⟨304, [cachePolicy, ("etag", e)], ""⟩, w')) ∧
    (Set.InjOn (Hash.Blake3.digest 32)
        {Text.Utf8.bytes b, Text.Utf8.bytes (answer site' plain w').1.body} →
      (answer site' r w').1.status = 304 → ("etag", e) ∈ (answer site' r w').1.headers →
      (answer site' plain w').1.body = b) ∧
    ((∃ tag, (answer site' plain w').1.status = 200 ∧
        ("etag", tag) ∈ (answer site' plain w').1.headers ∧ tag.toList ∈ tags ∧
        answer site' r w' = (⟨304, [cachePolicy, ("etag", tag)], ""⟩, w')) ∨
      (answer site' r w').1.status ≠ 304 ∧
        (∀ tag, ("etag", tag) ∈ (answer site' plain w').1.headers → tag.toList ∉ tags) ∧
        answer site' r w' = answer site' plain w') := by
  obtain ⟨first, answered⟩ := earlier.report_of_success success
  rw [answered] at tagged body
  obtain rfl := etag_mem_iff.1 tagged
  obtain rfl : first.toJson.compact = b := body
  have method : r.method = plain.method := by
    obtain ⟨-, -, -, -, -, rfl, -⟩ := knows.line
    rfl
  have target : r.target = plain.target := by
    obtain ⟨-, -, -, -, -, rfl, -⟩ := knows.line
    rfl
  have unknown (body : String) : knowsTag plain (tagOf body) = false := by
    rw [knowsTag, knows.fresh]
    rfl
  cases reads.answers site' w' with
  | refuses response refuses always =>
    have noTag := refuses.status.2.2
    rw [always r method target, always plain rfl rfl]
    exact ⟨fun _ same => absurd same (refuses.body_ne first),
      fun _ _ tagged => absurd tagged (noTag _),
      .inr ⟨refuses.status.2.1, fun tag tagged => absurd tagged (noTag tag), rfl⟩⟩
  | reports report always =>
    have plainly := (taggedResponse_cases plain report.toJson.compact).resolve_left
      fun known => by simp [unknown] at known
    rw [always r method target, always plain rfl rfl, plainly.2]
    have listed := knows.knowsTag_iff report.toJson.compact
    rcases taggedResponse_cases r report.toJson.compact with ⟨known, answered⟩ | ⟨other, answered⟩
    · rw [answered]
      refine ⟨fun _ same => by rw [← same], fun inj _ tagged => ?_,
        .inl ⟨_, rfl, etag_mem_iff.2 rfl, listed.1 known, rfl⟩⟩
      have tag : tagOf first.toJson.compact = tagOf report.toJson.compact := by
        simpa [cachePolicy] using tagged
      exact (tagOf_injective_of_digest inj tag).symm
    · rw [answered]
      have missing : (tagOf report.toJson.compact).toList ∉ tags := fun there => by
        rw [listed.2 there] at other
        cases other
      refine ⟨fun there same => ?_, fun _ unchanged => ?_,
        .inr ⟨by simp, fun tag tagged => ?_, rfl⟩⟩
      · have bodies : report.toJson.compact = first.toJson.compact := same
        rw [bodies] at missing
        exact absurd there missing
      · cases unchanged
      · exact etag_mem_iff.1 tagged ▸ missing

/-- A request for the draft. -/
def draftRead (lines : List (String × List UInt8)) : Request :=
  ⟨"GET", "/changes/7", lines, []⟩

theorem readsChange_draftRead (lines : List (String × List UInt8)) :
    ReadsChange (draftRead lines) := by
  have path : Route.ofPath (draftRead []).path = some (.change "7".toList) := by decide +kernel
  exact ⟨rfl, _, .inl path⟩

theorem knowsTags_draftRead {tags : List (List Char)} {cs : List Char} (lists : Lists tags cs) :
    KnowsTags tags (draftRead []) (draftRead [("if-none-match", Text.Utf8.encode cs)]) :=
  ⟨rfl, [], [], _, cs, rfl, rfl, by decide, lists⟩

/-- The draft is not sent again to who has its tag, listed after another one with a comma in its
quotes, but to who lists a star. -/
theorem draft_revalidated :
    ∃ e : String,
      ("etag", e) ∈ (answer (.ofSettings .default) (draftRead []) draftWorld).1.headers ∧
      answer (.ofSettings .default) (draftRead [("if-none-match", Text.Utf8.encode
        ("W/\"old, one\"".toList ++ ' ' :: ',' :: '\t' :: e.toList))]) draftWorld =
          (⟨304, [cachePolicy, ("etag", e)], ""⟩, draftWorld) ∧
      answer (.ofSettings .default) (draftRead [("if-none-match", Text.Utf8.encode "*".toList)])
        draftWorld = answer (.ofSettings .default) (draftRead []) draftWorld := by
  have success : (answer (.ofSettings .default) (draftRead []) draftWorld).1.status = 200 := by
    decide +kernel
  have reads := readsChange_draftRead []
  obtain ⟨report, answered⟩ := reads.report_of_success success
  have tagged : ("etag", tagOf report.toJson.compact) ∈
      (answer (.ofSettings .default) (draftRead []) draftWorld).1.headers := by
    rw [answered]
    exact etag_mem_iff.2 rfl
  have old : IsTag "W/\"old, one\"".toList :=
    ⟨List.forall_iff_forall_mem.1 (by decide), by decide,
      .inr ⟨"W/".toList, "old, one".toList, by decide⟩⟩
  have star : IsTag "*".toList :=
    ⟨List.forall_iff_forall_mem.1 (by decide), by decide, .inl (by decide)⟩
  have listed : Lists ["W/\"old, one\"".toList, (tagOf report.toJson.compact).toList]
      ("W/\"old, one\"".toList ++ ' ' :: ',' :: '\t' :: (tagOf report.toJson.compact).toList) := by
    have none : Text.Blanks [] := by simp [Text.Blanks]
    have last : Lists [(tagOf report.toJson.compact).toList]
        (['\t'] ++ (tagOf report.toJson.compact).toList ++ []) :=
      .last (isTag_tagOf _) (by simp [Text.Blanks]) none
    have both := Lists.cons old none (show Text.Blanks [' '] by simp [Text.Blanks]) last
    simpa using both
  have starred : Lists ["*".toList] ([] ++ "*".toList ++ []) :=
    .last star (by simp [Text.Blanks]) (by simp [Text.Blanks])
  have read {tags : List (List Char)} {cs : List Char} (lists : Lists tags cs) :=
    @reads_with_tags (.ofSettings .default) (.ofSettings .default) draftWorld draftWorld _ _ _ tags
      _ _ reads success tagged rfl reads (knowsTags_draftRead lists)
  obtain ⟨spared, -, -⟩ := read listed
  obtain ⟨-, -, ⟨tag, -, given, there, -⟩ | ⟨-, -, same⟩⟩ := read starred
  · -- A star has no quotes, so it is no tag of a body.
    rw [answered] at given
    obtain rfl := etag_mem_iff.1 given
    have quotes := (quotes_tagOf report.toJson.compact).count
    rw [List.mem_singleton.1 there] at quotes
    cases quotes
  · exact ⟨_, tagged, spared (by simp) rfl, same⟩

end CodeReview.Http
