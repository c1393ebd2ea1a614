import Mathlib.Data.Set.Function
import CodeReview.Proofs.Store.Runs
set_option autoImplicit false

/-!
An id of a snapshot fixes the states behind it. What is hashed for an id can be read apart into
the id before it and the state, so where the hash is injective on what was hashed, equal ids have
equal states and equal ids before them, back to the first snapshot. Nothing is said of the hash on
other bytes.
-/
namespace CodeReview

theorem Text.Utf8.bytes_injective {s t : String} (h : bytes s = bytes t) : s = t := by
  have encoded : s.toList.utf8Encode = t.toList.utf8Encode := congrArg List.toByteArray h
  rw [String.utf8Encode_toList, String.utf8Encode_toList] at encoded
  exact String.toByteArray_inj.1 encoded

namespace Snapshot

theorem stateText_injective {c d : Change} (h : stateText c = stateText d) : c = d := by
  have read := c.read_stateText
  rw [h, d.read_stateText] at read
  exact (Option.some.inj read).symm

theorem content_none (c : Change) : content none c = 0 :: Text.Utf8.bytes (stateText c) := by
  rw [content, List.singleton_append]

theorem content_some (p : ObjectId) (c : Change) :
    content (some p) c = 1 :: (p.bytes ++ Text.Utf8.bytes (stateText c)) := by
  rw [content, List.cons_append]

/-- The mark tells whether a parent follows, and a parent has a fixed length. -/
theorem content_injective {p q : Option ObjectId} {c d : Change} (h : content p c = content q d) :
    p = q ∧ c = d := by
  cases p with
  | none =>
    cases q with
    | none =>
      rw [content_none, content_none, List.cons.injEq] at h
      exact ⟨rfl, stateText_injective (Text.Utf8.bytes_injective h.2)⟩
    | some q =>
      rw [content_none, content_some, List.cons.injEq] at h
      exact absurd h.1 (by decide)
  | some p =>
    cases q with
    | none =>
      rw [content_none, content_some, List.cons.injEq] at h
      exact absurd h.1 (by decide)
    | some q =>
      rw [content_some, content_some, List.cons.injEq] at h
      obtain ⟨parents, texts⟩ := List.append_inj h.2 (p.length_eq.trans q.length_eq.symm)
      exact ⟨congrArg some (ObjectId.eq_of_bytes parents),
        stateText_injective (Text.Utf8.bytes_injective texts)⟩

end Snapshot

/-- What was hashed for the ids of a log. -/
def hashed (log : List Snapshot) : Set (List UInt8) :=
  {bytes | ∃ n, ∃ p ∈ pairs none (history log n), bytes = Snapshot.content p.1 p.2}

theorem pair_eq_of_idOf_eq {S : Set (List UInt8)} (inj : S.InjOn (Hash.Blake3.digest 20))
    {p q : Option ObjectId} {c d : Change} (hp : Snapshot.content p c ∈ S)
    (hq : Snapshot.content q d ∈ S) (h : Snapshot.idOf p c = Snapshot.idOf q d) :
    p = q ∧ c = d := by
  have digests : Hash.Blake3.digest 20 (Snapshot.content p c) =
      Hash.Blake3.digest 20 (Snapshot.content q d) := by
    rw [← Snapshot.bytes_idOf, h, Snapshot.bytes_idOf]
  exact Snapshot.content_injective (inj hp hq digests)

theorem collisionless_of_injOn {log : List Snapshot}
    (inj : (hashed log).InjOn (Hash.Blake3.digest 20)) : Collisionless log := by
  intro m n x hx y hy same
  obtain ⟨parent, state⟩ := pair_eq_of_idOf_eq inj ⟨m, x, hx, rfl⟩ ⟨n, y, hy, rfl⟩ same
  exact Prod.ext parent state

theorem injOn_of_collisionless {log : List Snapshot} (unique : Collisionless log) :
    (hashed log).InjOn (Hash.Blake3.digest 20) := by
  rintro _ ⟨m, p, hp, rfl⟩ _ ⟨n, q, hq, rfl⟩ digests
  have ids : Snapshot.idOf p.1 p.2 = Snapshot.idOf q.1 q.2 := by
    apply ObjectId.eq_of_bytes
    rw [Snapshot.bytes_idOf, Snapshot.bytes_idOf, digests]
  rw [unique m n p hp q hq ids]

theorem history_history (log : List Snapshot) (n : ChangeNumber) :
    history (history log n) n = history log n := by
  simp [history, List.filter_filter]

/-- For one change of a log nothing else is hashed than for the log. -/
theorem hashed_history (log : List Snapshot) (m : ChangeNumber) :
    hashed (history log m) ⊆ hashed log := by
  rintro _ ⟨n, p, hp, rfl⟩
  by_cases same : n = m
  · rw [same, history_history] at hp
    exact ⟨m, p, hp, rfl⟩
  · have nothing : history (history log m) n = [] := by
      rw [List.eq_nil_iff_forall_not_mem]
      intro x hx
      rw [mem_history, mem_history] at hx
      exact same (hx.2.symm.trans hx.1.2)
    rw [nothing] at hp
    cases hp

/-- Every id of a chain was computed from bytes of a set. -/
def Within (S : Set (List UInt8)) (h : List Snapshot) : Prop :=
  ∀ p ∈ pairs none h, Snapshot.content p.1 p.2 ∈ S

theorem within_hashed (log : List Snapshot) (n : ChangeNumber) :
    Within (hashed log) (history log n) :=
  fun p hp => ⟨n, p, hp, rfl⟩

theorem Within.mono {S T : Set (List UInt8)} {h : List Snapshot} (within : Within S h)
    (sub : S ⊆ T) : Within T h :=
  fun p hp => sub (within p hp)

theorem Within.snoc {S : Set (List UInt8)} {h : List Snapshot} {x : Snapshot}
    (within : Within S (h ++ [x])) :
    Within S h ∧ Snapshot.content (lastId none h) x.state ∈ S := by
  rw [Within, pairs_snoc] at within
  exact ⟨fun p hp => within p (List.mem_append_left _ hp),
    within (lastId none h, x.state) (List.mem_append_right _ List.mem_cons_self)⟩

theorem mem_pairs_append {parent : Option ObjectId} {h k : List Snapshot}
    {p : Option ObjectId × Change} (hp : p ∈ pairs parent h) : p ∈ pairs parent (h ++ k) := by
  induction h generalizing parent with
  | nil => simp [pairs] at hp
  | cons x xs ih =>
    rcases List.mem_cons.1 hp with rfl | hp
    · exact List.mem_cons_self
    · exact List.mem_cons_of_mem _ (ih hp)

theorem Linked.of_append {parent : Option ObjectId} {h k : List Snapshot}
    (hl : Linked parent (h ++ k)) : Linked parent h := by
  induction h generalizing parent with
  | nil => trivial
  | cons x xs ih => exact ⟨hl.1, ih hl.2⟩

theorem Within.take {S : Set (List UInt8)} {h : List Snapshot} (within : Within S h) (i : Nat) :
    Within S (h.take i) := by
  intro p hp
  have longer := mem_pairs_append (k := h.drop i) hp
  rw [List.take_append_drop] at longer
  exact within p longer

theorem Linked.take {h : List Snapshot} (hl : Linked none h) (i : Nat) :
    Linked none (h.take i) := by
  rw [← List.take_append_drop i h] at hl
  exact hl.of_append

/-- Two chains that come to the same id have the same states: the last ones are the same, and so
are the ids before them. -/
theorem states_eq_of_lastId_eq {S : Set (List UInt8)} (inj : S.InjOn (Hash.Blake3.digest 20))
    {h k : List Snapshot} (hl : Linked none h) (kl : Linked none k) (hs : Within S h)
    (ks : Within S k) (same : lastId none h = lastId none k) :
    h.map Snapshot.state = k.map Snapshot.state := by
  induction h using List.reverseRecOn generalizing k with
  | nil =>
    induction k using List.reverseRecOn with
    | nil => rfl
    | append_singleton k y =>
      rw [lastId_snoc] at same
      cases same
  | append_singleton h x ih =>
    rw [lastId_snoc] at same
    induction k using List.reverseRecOn with
    | nil => cases same
    | append_singleton k y =>
      rw [lastId_snoc, Option.some.injEq] at same
      rw [linked_snoc] at hl kl
      obtain ⟨parents, states⟩ :=
        pair_eq_of_idOf_eq inj hs.snoc.2 ks.snoc.2 (by rw [← hl.2, ← kl.2, same])
      rw [List.map_append, List.map_append, ih hl.1 kl.1 hs.snoc.1 ks.snoc.1 parents,
        List.map_singleton, List.map_singleton, states]

theorem lastId_eq_of_states_eq {h k : List Snapshot} (hl : Linked none h) (kl : Linked none k)
    (same : h.map Snapshot.state = k.map Snapshot.state) : lastId none h = lastId none k := by
  induction h using List.reverseRecOn generalizing k with
  | nil => rw [List.map_eq_nil_iff.1 same.symm]
  | append_singleton h x ih =>
    induction k using List.reverseRecOn with
    | nil => simp at same
    | append_singleton k y =>
      rw [List.map_append, List.map_append, List.map_singleton, List.map_singleton] at same
      obtain ⟨before, last⟩ := List.append_inj' same rfl
      rw [linked_snoc] at hl kl
      rw [lastId_snoc, lastId_snoc, hl.2, kl.2, ih hl.1 kl.1 before, (List.cons.inj last).1]

theorem lastId_take_succ {h : List Snapshot} {i : Nat} (hi : i < h.length) :
    lastId none (h.take (i + 1)) = (h.map Snapshot.metaId)[i]? := by
  rw [List.take_add_one, List.getElem?_eq_getElem hi, Option.toList_some, lastId_snoc,
    List.getElem?_map, List.getElem?_eq_getElem hi, Option.map_some]

/-- The id at a place stands for all states up to there: a state that is changed, left out or put
in changes every id after it. -/
theorem id_eq_iff_states_eq {S : Set (List UInt8)} (inj : S.InjOn (Hash.Blake3.digest 20))
    {h k : List Snapshot} (hl : Linked none h) (kl : Linked none k) (hs : Within S h)
    (ks : Within S k) {i j : Nat} (hi : i < h.length) (hj : j < k.length) :
    (h.map Snapshot.metaId)[i]? = (k.map Snapshot.metaId)[j]? ↔
      (h.map Snapshot.state).take (i + 1) = (k.map Snapshot.state).take (j + 1) := by
  rw [← lastId_take_succ hi, ← lastId_take_succ hj, ← List.map_take, ← List.map_take]
  exact ⟨states_eq_of_lastId_eq inj (hl.take _) (kl.take _) (hs.take _) (ks.take _),
    lastId_eq_of_states_eq (hl.take _) (kl.take _)⟩

namespace Store

/-- All states of a change, the first one first. -/
def statesOf (s : Store) (n : ChangeNumber) : Except StoreError (List Change) := do
  let ids ← s.metaHistory n
  ids.mapM fun id => (s.getChange n (some id)).map Snapshot.state

namespace Reports
variable {s : Store} {log : List Snapshot} {n : ChangeNumber}

theorem known_of_getChange (hr : s.Reports log) {pin : Option ObjectId} {x : Snapshot}
    (hx : s.getChange n pin = .ok x) : history log n ≠ [] := by
  intro hn
  rw [(hr.unknown n hn).2] at hx
  cases hx

theorem last_of_getChange (hr : s.Reports log) {x : Snapshot} (hx : s.getChange n none = .ok x) :
    (history log n).getLast? = some x := by
  obtain ⟨z, hz⟩ := exists_last (hr.known_of_getChange hx)
  rw [hr.current n z hz] at hx
  cases hx
  exact hz

theorem statesOf (hr : s.Reports log) (hn : history log n ≠ []) :
    s.statesOf n = .ok ((history log n).map Snapshot.state) := by
  have each : ∀ h : List Snapshot, (∀ x ∈ h, x ∈ history log n) →
      (h.map Snapshot.metaId).mapM (fun id => (s.getChange n (some id)).map Snapshot.state) =
        .ok (h.map Snapshot.state) := by
    intro h sub
    induction h with
    | nil => rfl
    | cons x h ih =>
      have here := hr.pinned n x (sub x (by simp))
      have rest := ih fun y hy => sub y (by simp [hy])
      rw [List.map_cons, List.mapM_cons, here, rest]
      rfl
  rw [Store.statesOf, hr.metaHistory n hn]
  exact each _ fun _ hx => hx

end Reports

theorem reports_of_play {s : Store} (hs : s = .memory .empty ∨ s = .tables .empty)
    (calls : List ChangeCall)
    (inj : (hashed (recorded calls (s.play calls).1)).InjOn (Hash.Blake3.digest 20)) :
    (s.play calls).2.Reports (recorded calls (s.play calls).1) ∧
      ∀ n, Linked none (history (recorded calls (s.play calls).1) n) := by
  obtain ⟨keeps, linked, -⟩ := play_keeps (keeps_empty hs) (fun _ => trivial) calls
  exact ⟨keeps.reports linked (collisionless_of_injOn inj), linked⟩

/-- Two runs from nothing, on stores of the same kind or not, and two changes in them: where the
newest ids are the same, all states are; and the ids at two places are the same just when the
states up to there are. -/
theorem newest_id_fixes_states {s t : Store} (hs : s = .memory .empty ∨ s = .tables .empty)
    (ht : t = .memory .empty ∨ t = .tables .empty) (calls more : List ChangeCall)
    (inj : (hashed (recorded calls (s.play calls).1) ∪
      hashed (recorded more (t.play more).1)).InjOn (Hash.Blake3.digest 20))
    {m n : ChangeNumber} {x y : Snapshot} (hx : (s.play calls).2.getChange m none = .ok x)
    (hy : (t.play more).2.getChange n none = .ok y) :
    ∃ ids ids' states states',
      (s.play calls).2.metaHistory m = .ok ids ∧ (t.play more).2.metaHistory n = .ok ids' ∧
      (s.play calls).2.statesOf m = .ok states ∧ (t.play more).2.statesOf n = .ok states' ∧
      (x.metaId = y.metaId → states = states') ∧
      ∀ i j, i < states.length → j < states'.length →
        (ids[i]? = ids'[j]? ↔ states.take (i + 1) = states'.take (j + 1)) := by
  obtain ⟨left, linkedLeft⟩ := reports_of_play hs calls (inj.mono Set.subset_union_left)
  obtain ⟨right, linkedRight⟩ := reports_of_play ht more (inj.mono Set.subset_union_right)
  have knownLeft := left.known_of_getChange hx
  have knownRight := right.known_of_getChange hy
  have withinLeft := (within_hashed (recorded calls (s.play calls).1) m).mono
    (Set.subset_union_left (t := hashed (recorded more (t.play more).1)))
  have withinRight := (within_hashed (recorded more (t.play more).1) n).mono
    (Set.subset_union_right (s := hashed (recorded calls (s.play calls).1)))
  refine ⟨_, _, _, _, left.metaHistory m knownLeft, right.metaHistory n knownRight,
    left.statesOf knownLeft, right.statesOf knownRight, ?newest, ?places⟩
  case newest =>
    intro same
    apply states_eq_of_lastId_eq inj (linkedLeft m) (linkedRight n) withinLeft withinRight
    rw [lastId_eq_some none (left.last_of_getChange hx),
      lastId_eq_some none (right.last_of_getChange hy), same]
  case places =>
    intro i j hi hj
    rw [List.length_map] at hi hj
    exact id_eq_iff_states_eq inj (linkedLeft m) (linkedRight n) withinLeft withinRight hi hj

theorem recorded_revision :
    recorded [.insert draft, .update revisedDraft]
      ((tables .empty).play [.insert draft, .update revisedDraft]).1 = history draftLog ⟨7⟩ := by
  have lists : recorded [.insert draft, .update revisedDraft]
      ((memory .empty).play [.insert draft, .update revisedDraft]).1 = history draftLog ⟨7⟩ := by
    have written : recorded [.insert draft, .update revisedDraft]
        ((memory .empty).play [.insert draft, .update revisedDraft]).1 =
        [⟨Snapshot.idOf none draft, draft⟩,
          ⟨Snapshot.idOf (some (Snapshot.idOf none draft)) revisedDraft, revisedDraft⟩] := rfl
    rw [written, idOf_draft, idOf_revisedDraft, history_draft]
  have unique := collisionless_of_injOn
    ((injOn_of_collisionless collisionless_draftLog).mono (hashed_history draftLog ⟨7⟩))
  rw [← lists] at unique
  rw [((play_reports _).2 unique).1, lists]

/-- In lists the sibling is written between the draft and its revision, in tables nothing is. The
ids are the same, and so are the states; the id of the first state is not that of the second. -/
theorem draft_fixed :
    let s := ((memory .empty).play draftCalls).2
    let t := ((tables .empty).play [.insert draft, .update revisedDraft]).2
    s.metaHistory ⟨7⟩ = .ok [draftId, revisionId] ∧
      t.metaHistory ⟨7⟩ = .ok [draftId, revisionId] ∧ draftId ≠ revisionId ∧
      s.statesOf ⟨7⟩ = .ok [draft, revisedDraft] ∧
      t.statesOf ⟨7⟩ = .ok [draft, revisedDraft] := by
  have inj : (hashed (recorded draftCalls ((memory .empty).play draftCalls).1) ∪
      hashed (recorded [.insert draft, .update revisedDraft]
        ((tables .empty).play [.insert draft, .update revisedDraft]).1)).InjOn
      (Hash.Blake3.digest 20) := by
    rw [recorded_draftCalls, recorded_revision, Set.union_eq_left.2 (hashed_history _ _)]
    exact injOn_of_collisionless collisionless_draftLog
  have left := (reports_of_play (.inl rfl) draftCalls (inj.mono Set.subset_union_left)).1
  have right := (reports_of_play (.inr rfl) _ (inj.mono Set.subset_union_right)).1
  rw [recorded_draftCalls] at left
  rw [recorded_revision] at right
  have known : history draftLog ⟨7⟩ ≠ [] := by simp [history_draft]
  have last : (history draftLog ⟨7⟩).getLast? = some ⟨revisionId, revisedDraft⟩ := by
    rw [history_draft, List.getLast?_cons_cons, List.getLast?_singleton]
  have inLists := left.current ⟨7⟩ _ last
  have inRows := right.current ⟨7⟩ _ (by rw [history_history, last])
  obtain ⟨ids, ids', states, states', hids, hids', hstates, hstates', newest, places⟩ :=
    newest_id_fixes_states (.inl rfl) (.inr rfl) draftCalls _ inj inLists inRows
  have toldIds := left.metaHistory ⟨7⟩ known
  have toldIds' := right.metaHistory ⟨7⟩ (by rwa [history_history])
  have toldStates := left.statesOf known
  rw [history_history] at toldIds'
  rw [history_draft, hids, Except.ok.injEq] at toldIds
  rw [history_draft, hids', Except.ok.injEq] at toldIds'
  rw [history_draft, hstates, Except.ok.injEq] at toldStates
  subst toldIds toldIds' toldStates
  rw [← newest rfl] at hstates' places
  refine ⟨hids, hids', ?_, hstates, hstates'⟩
  intro same
  exact absurd ((places 0 1 (by simp) (by simp)).1 (by simpa using same)) (by simp)

end Store

end CodeReview
