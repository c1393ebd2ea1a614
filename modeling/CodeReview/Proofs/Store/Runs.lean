import CodeReview.Proofs.Store.History
set_option autoImplicit false

/-!
Runs of writes on a store of either kind. The log of a run tells what the store answers about
changes afterwards, so both kinds answer alike as long as the ids in the log are distinct.
-/
namespace CodeReview.Store

def Keeps : Store → List Snapshot → Prop
  | .memory m, log => m.Keeps log
  | .tables t, log => t.Keeps log

namespace Keeps
variable {s : Store} {log : List Snapshot} {n : ChangeNumber} {c : Change}

theorem getChange_known (hk : s.Keeps log) (hn : history log n ≠ []) (pin : Option ObjectId) :
    s.getChange n pin = match snapshot? (history log n) pin with
      | some x => .ok x
      | none => .error (.missingMeta n ((pin.map ObjectId.hex).getD "")) := by
  cases s with
  | memory m => exact MemoryStore.Keeps.getChange_known hk hn pin
  | tables t => exact TableStore.Keeps.getChange_known hk hn pin

theorem getChange_unknown (hk : s.Keeps log) (hn : history log n = []) (pin : Option ObjectId) :
    s.getChange n pin = .error (.changeNotFound n) := by
  cases s with
  | memory m =>
    show m.getChange n pin = _
    rw [MemoryStore.getChange, MemoryStore.Keeps.history?_fresh hk hn]
  | tables t =>
    have absent : t.changeExists n = false := by
      rw [← Bool.not_eq_true, TableStore.Keeps.changeExists_iff hk]
      exact not_not.2 hn
    show t.getChange n pin = _
    rw [TableStore.getChange.eq_def, absent, Bool.not_false, if_pos rfl]

theorem metaHistory_known (hk : s.Keeps log) (hn : history log n ≠ []) :
    s.metaHistory n = .ok ((history log n).map Snapshot.metaId) := by
  cases s with
  | memory m =>
    show m.metaHistory n = _
    rw [MemoryStore.metaHistory, MemoryStore.Keeps.history?_known hk hn]
  | tables t => exact TableStore.Keeps.metaHistory_known hk hn

theorem metaHistory_unknown (hk : s.Keeps log) (hn : history log n = []) :
    s.metaHistory n = .error (.changeNotFound n) := by
  cases s with
  | memory m =>
    show m.metaHistory n = _
    rw [MemoryStore.metaHistory, MemoryStore.Keeps.history?_fresh hk hn]
  | tables t =>
    have absent : t.changeExists n = false := by
      rw [← Bool.not_eq_true, TableStore.Keeps.changeExists_iff hk]
      exact not_not.2 hn
    show t.metaHistory n = _
    rw [TableStore.metaHistory, absent, Bool.not_false, if_pos rfl]

theorem mem_findByKey (hk : s.Keeps log) {key : String} :
    n ∈ s.findByKey key ↔ ∃ x, (history log n).getLast? = some x ∧ x.state.key = key := by
  cases s with
  | memory m => exact MemoryStore.Keeps.mem_findByKey hk
  | tables t => exact TableStore.Keeps.mem_findByKey hk

theorem ascending_findByKey (hk : s.Keeps log) (key : String) : Ascending (s.findByKey key) := by
  cases s with
  | memory m => exact MemoryStore.Keeps.ascending_findByKey hk key
  | tables t => exact TableStore.Keeps.ascending_findByKey hk key

theorem insertChange_known (hk : s.Keeps log) (hn : history log c.id ≠ []) :
    s.insertChange c = .error (.duplicateChange c.id) := by
  cases s with
  | memory m => rw [insertChange, MemoryStore.Keeps.insertChange_known hk hn]; rfl
  | tables t => rw [insertChange, TableStore.Keeps.insertChange_known hk hn]; rfl

theorem insertChange_fresh (hk : s.Keeps log) (hn : history log c.id = []) :
    ∃ t, s.insertChange c = .ok (Snapshot.idOf none c, t) ∧
      t.Keeps (log ++ [⟨Snapshot.idOf none c, c⟩]) := by
  cases s with
  | memory m =>
    obtain ⟨t, ht, kept⟩ := MemoryStore.Keeps.insertChange_fresh hk hn
    exact ⟨.memory t, ofMemory_eq_ok.2 ⟨t, ht, rfl⟩, kept⟩
  | tables m =>
    obtain ⟨t, ht, kept⟩ := TableStore.Keeps.insertChange_fresh hk hn
    exact ⟨.tables t, ofTables_eq_ok.2 ⟨t, ht, rfl⟩, kept⟩

theorem updateChange_fresh (hk : s.Keeps log) (hn : history log c.id = []) :
    s.updateChange c = .error (.changeNotFound c.id) := by
  cases s with
  | memory m => rw [updateChange, MemoryStore.Keeps.updateChange_fresh hk hn]; rfl
  | tables t => rw [updateChange, TableStore.Keeps.updateChange_fresh hk hn]; rfl

theorem updateChange_known (hk : s.Keeps log) (hn : history log c.id ≠ [])
    (fresh : Snapshot.idOf (lastId none (history log c.id)) c ∉
      (history log c.id).map Snapshot.metaId) :
    ∃ t, s.updateChange c = .ok (Snapshot.idOf (lastId none (history log c.id)) c, t) ∧
      t.Keeps (log ++ [⟨Snapshot.idOf (lastId none (history log c.id)) c, c⟩]) := by
  cases s with
  | memory m =>
    obtain ⟨t, ht, kept⟩ := MemoryStore.Keeps.updateChange_known hk hn
    exact ⟨.memory t, ofMemory_eq_ok.2 ⟨t, ht, rfl⟩, kept⟩
  | tables m =>
    obtain ⟨t, ht, kept⟩ := TableStore.Keeps.updateChange_known hk hn fresh
    exact ⟨.tables t, ofTables_eq_ok.2 ⟨t, ht, rfl⟩, kept⟩

/-- Only tables refuse an id that the change has already; in lists it is written again. -/
theorem updateChange_repeated (hk : s.Keeps log) (hn : history log c.id ≠ [])
    (repeated : Snapshot.idOf (lastId none (history log c.id)) c ∈
      (history log c.id).map Snapshot.metaId) :
    (∃ e, s.updateChange c = .error e) ∨
      ∃ t, s.updateChange c = .ok (Snapshot.idOf (lastId none (history log c.id)) c, t) ∧
        t.Keeps (log ++ [⟨Snapshot.idOf (lastId none (history log c.id)) c, c⟩]) := by
  cases s with
  | memory m =>
    obtain ⟨t, ht, kept⟩ := MemoryStore.Keeps.updateChange_known hk hn
    exact .inr ⟨.memory t, ofMemory_eq_ok.2 ⟨t, ht, rfl⟩, kept⟩
  | tables m =>
    exact .inl ⟨_, congrArg ofTables (TableStore.Keeps.updateChange_repeated hk hn repeated)⟩

/-- A call is refused or adds one snapshot to the log; the first snapshot of a change comes from
an insertion. -/
theorem write_cases (hk : s.Keeps log) (x : ChangeCall) :
    (∃ e, x.write s = .error e) ∨
      ∃ t, x.write s = .ok (Snapshot.idOf (lastId none (history log x.state.id)) x.state, t) ∧
        t.Keeps (log ++ [⟨Snapshot.idOf (lastId none (history log x.state.id)) x.state, x.state⟩]) ∧
        (history log x.state.id = [] → x = .insert x.state) := by
  cases x with
  | insert c =>
    by_cases hn : history log c.id = []
    · right
      obtain ⟨t, ht, kept⟩ := hk.insertChange_fresh hn
      rw [show (ChangeCall.insert c).state = c from rfl, hn]
      exact ⟨t, ht, kept, fun _ => rfl⟩
    · exact .inl ⟨_, hk.insertChange_known hn⟩
  | update c =>
    by_cases hn : history log c.id = []
    · exact .inl ⟨_, hk.updateChange_fresh hn⟩
    · by_cases repeated : Snapshot.idOf (lastId none (history log c.id)) c ∈
          (history log c.id).map Snapshot.metaId
      · rcases hk.updateChange_repeated hn repeated with refused | ⟨t, ht, kept⟩
        · exact .inl refused
        · exact .inr ⟨t, ht, kept, fun e => absurd e hn⟩
      · obtain ⟨t, ht, kept⟩ := hk.updateChange_known hn repeated
        exact .inr ⟨t, ht, kept, fun e => absurd e hn⟩

end Keeps

theorem call_of_error {s : Store} {x : ChangeCall} {e : StoreError} (h : x.write s = .error e) :
    s.call x = (.error e, s) := by
  rw [call, h]

theorem call_of_ok {s t : Store} {x : ChangeCall} {id : ObjectId} (h : x.write s = .ok (id, t)) :
    s.call x = (.ok id, t) := by
  rw [call, h]

theorem linked_history_snoc {log : List Snapshot} {c : Change}
    (hl : ∀ n, Linked none (history log n)) (n : ChangeNumber) :
    Linked none (history (log ++ [⟨Snapshot.idOf (lastId none (history log c.id)) c, c⟩]) n) := by
  by_cases e : n = c.id
  · subst e
    rw [history_snoc log ⟨_, c⟩, linked_snoc]
    exact ⟨hl c.id, rfl⟩
  · rw [history_snoc_of_ne e]
    exact hl n

/-- After a run the store keeps the log, whose histories are chains and begin with insertions. -/
theorem play_keeps {s : Store} {log : List Snapshot} (hk : s.Keeps log)
    (hl : ∀ n, Linked none (history log n)) (calls : List ChangeCall) :
    (s.play calls).2.Keeps (log ++ recorded calls (s.play calls).1) ∧
      (∀ n, Linked none (history (log ++ recorded calls (s.play calls).1) n)) ∧
      ∀ n, history log n = [] → (∀ c, .insert c ∈ calls → c.id ≠ n) →
        history (log ++ recorded calls (s.play calls).1) n = [] := by
  induction calls generalizing s log with
  | nil =>
    rw [play, recorded, List.append_nil]
    · exact ⟨hk, hl, fun n hn _ => hn⟩
    all_goals simp
  | cons x xs ih =>
    rw [play]
    rcases hk.write_cases x with ⟨e, he⟩ | ⟨t, ht, kept, first⟩
    · rw [call_of_error he, recorded]
      obtain ⟨keeps, linked, begins⟩ := ih hk hl
      exact ⟨keeps, linked, fun n hn other => begins n hn fun c hc => other c (by simp [hc])⟩
    · rw [call_of_ok ht, recorded]
      obtain ⟨keeps, linked, begins⟩ := ih kept (linked_history_snoc hl)
      rw [List.append_assoc, List.singleton_append] at keeps linked begins
      refine ⟨keeps, linked, fun n hn other => begins n ?_ fun c hc => other c (by simp [hc])⟩
      have ne : n ≠ x.state.id := by
        rintro rfl
        exact other x.state (by rw [← first hn]; simp) rfl
      rw [history_snoc_of_ne ne, hn]

/-- Two stores of the same log answer a call alike, if an update gets an id new to its change. -/
theorem write_alike {s t : Store} {log : List Snapshot} (hs : s.Keeps log) (ht : t.Keeps log)
    (x : ChangeCall)
    (fresh : ∀ c, x = .update c → history log c.id ≠ [] →
      Snapshot.idOf (lastId none (history log c.id)) c ∉ (history log c.id).map Snapshot.metaId) :
    (∃ e, x.write s = .error e ∧ x.write t = .error e) ∨
      ∃ id s' t', x.write s = .ok (id, s') ∧ x.write t = .ok (id, t') ∧
        s'.Keeps (log ++ [⟨id, x.state⟩]) ∧ t'.Keeps (log ++ [⟨id, x.state⟩]) := by
  cases x with
  | insert c =>
    by_cases hn : history log c.id = []
    · obtain ⟨s', es, ks⟩ := hs.insertChange_fresh hn
      obtain ⟨t', et, kt⟩ := ht.insertChange_fresh hn
      exact .inr ⟨_, s', t', es, et, ks, kt⟩
    · exact .inl ⟨_, hs.insertChange_known hn, ht.insertChange_known hn⟩
  | update c =>
    by_cases hn : history log c.id = []
    · exact .inl ⟨_, hs.updateChange_fresh hn, ht.updateChange_fresh hn⟩
    · obtain ⟨s', es, ks⟩ := hs.updateChange_known hn (fresh c rfl hn)
      obtain ⟨t', et, kt⟩ := ht.updateChange_known hn (fresh c rfl hn)
      exact .inr ⟨_, s', t', es, et, ks, kt⟩

/-- A store in lists writes an id again, so in its log a repeated id shows. -/
theorem fresh_of_nodup {m : MemoryStore} {log : List Snapshot} (hm : (memory m).Keeps log)
    {x : ChangeCall} {calls : List ChangeCall}
    (distinct : ∀ n, ((history (log ++ recorded (x :: calls) ((memory m).play (x :: calls)).1)
      n).map Snapshot.metaId).Nodup) (c : Change) (hx : x = .update c)
    (hn : history log c.id ≠ []) :
    Snapshot.idOf (lastId none (history log c.id)) c ∉ (history log c.id).map Snapshot.metaId := by
  subst hx
  obtain ⟨m', written, -⟩ := MemoryStore.Keeps.updateChange_known hm hn
  have called : (memory m).call (.update c) =
      (.ok (Snapshot.idOf (lastId none (history log c.id)) c), memory m') :=
    call_of_ok (ofMemory_eq_ok.2 ⟨m', written, rfl⟩)
  have nodup := distinct c.id
  rw [play, called, recorded, ChangeCall.state, ← List.singleton_append, ← List.append_assoc,
    history, List.filter_append, ← history, history_snoc log ⟨_, c⟩, List.map_append,
    List.map_append] at nodup
  intro repeated
  exact (List.nodup_append.1 (List.nodup_append.1 nodup).1).2.2 _ repeated _ (by simp) rfl

theorem write_memory {m : MemoryStore} {x : ChangeCall} {id : ObjectId} {s : Store}
    (h : x.write (memory m) = .ok (id, s)) : ∃ m', s = memory m' := by
  cases x with
  | insert c =>
    obtain ⟨m', -, rfl⟩ := ofMemory_eq_ok.1 h
    exact ⟨m', rfl⟩
  | update c =>
    obtain ⟨m', -, rfl⟩ := ofMemory_eq_ok.1 h
    exact ⟨m', rfl⟩

theorem play_alike {m : MemoryStore} {t : Store} {log : List Snapshot}
    (hm : (memory m).Keeps log) (ht : t.Keeps log) (calls : List ChangeCall)
    (distinct : ∀ n, ((history (log ++ recorded calls ((memory m).play calls).1)
      n).map Snapshot.metaId).Nodup) :
    (t.play calls).1 = ((memory m).play calls).1 := by
  induction calls generalizing m t log with
  | nil => rfl
  | cons x xs ih =>
    obtain ⟨e, es, et⟩ | ⟨id, s', t', es, et, ks, kt⟩ :=
      write_alike hm ht x (fresh_of_nodup hm distinct)
    · rw [play, call_of_error es, recorded] at distinct
      rw [play, play, call_of_error es, call_of_error et, ih hm ht distinct]
    · obtain ⟨m', rfl⟩ := write_memory es
      rw [play, call_of_ok es, recorded, ← List.singleton_append, ← List.append_assoc] at distinct
      rw [play, play, call_of_ok es, call_of_ok et, ih ks kt distinct]

/-- The answers about changes are those of a log: the ids of a change without repetition, its last
state, the state of each id, and the changes by the key of their last state. -/
structure Reports (s : Store) (log : List Snapshot) : Prop where
  unknown : ∀ n, history log n = [] → s.metaHistory n = .error (.changeNotFound n) ∧
    ∀ pin, s.getChange n pin = .error (.changeNotFound n)
  metaHistory : ∀ n, history log n ≠ [] →
    s.metaHistory n = .ok ((history log n).map Snapshot.metaId)
  distinct : ∀ n, ((history log n).map Snapshot.metaId).Nodup
  current : ∀ n x, (history log n).getLast? = some x → s.getChange n none = .ok x
  pinned : ∀ n, ∀ x ∈ history log n, s.getChange n (some x.metaId) = .ok x
  missing : ∀ n id, history log n ≠ [] → id ∉ (history log n).map Snapshot.metaId →
    s.getChange n (some id) = .error (.missingMeta n id.hex)
  foreign : ∀ m n, m ≠ n → ∀ x ∈ history log m, x.metaId ∉ (history log n).map Snapshot.metaId
  findByKey : ∀ key, Ascending (s.findByKey key) ∧ ∀ n, n ∈ s.findByKey key ↔
    ∃ x, (history log n).getLast? = some x ∧ x.state.key = key

/-- Different changes have different ids, since their states differ. -/
theorem foreign_of_collisionless {log : List Snapshot} (hl : ∀ n, Linked none (history log n))
    (unique : Collisionless log) {m n : ChangeNumber} (hmn : m ≠ n) {x : Snapshot}
    (hx : x ∈ history log m) : x.metaId ∉ (history log n).map Snapshot.metaId := by
  intro h
  obtain ⟨y, hy, same⟩ := List.mem_map.1 h
  obtain ⟨p, hp, ep⟩ := (hl m).exists_pair hx
  obtain ⟨q, hq, eq⟩ := (hl n).exists_pair hy
  have pair := unique m n _ hp _ hq (by rw [← ep, ← eq, same])
  have state : x.state = y.state := (Prod.mk.inj pair).2
  rw [← (mem_history.1 hx).2, ← (mem_history.1 hy).2, state] at hmn
  exact hmn rfl

theorem Keeps.reports {s : Store} {log : List Snapshot} (hk : s.Keeps log)
    (hl : ∀ n, Linked none (history log n)) (unique : Collisionless log) : s.Reports log := by
  have distinct : ∀ n, ((history log n).map Snapshot.metaId).Nodup := fun n =>
    (hl n).nodup fun x hx y hy => unique n n x hx y hy
  constructor
  case unknown => exact fun n hn => ⟨hk.metaHistory_unknown hn, hk.getChange_unknown hn⟩
  case metaHistory => exact fun n hn => hk.metaHistory_known hn
  case distinct => exact distinct
  case current =>
    intro n x hx
    have hn : history log n ≠ [] := by
      intro e
      simp [e] at hx
    rw [hk.getChange_known hn, snapshot?, hx]
  case pinned =>
    intro n x hx
    have apart : (history log n).Pairwise fun a b => a.metaId ≠ b.metaId :=
      List.pairwise_map.1 (distinct n)
    rw [hk.getChange_known (List.ne_nil_of_mem hx), snapshot?, find?_of_distinct apart hx]
  case missing =>
    intro n id hn absent
    have none : (history log n).find? (fun x => x.metaId = id) = none := by
      rw [List.find?_eq_none]
      intro x hx e
      exact absent (List.mem_map.2 ⟨x, hx, by simpa using e⟩)
    rw [hk.getChange_known hn, snapshot?, none]
    rfl
  case foreign => exact fun m n hmn x hx => foreign_of_collisionless hl unique hmn hx
  case findByKey => exact fun key => ⟨hk.ascending_findByKey key, fun n => hk.mem_findByKey⟩

structure Agrees (s t : Store) : Prop where
  getChange : ∀ n pin, s.getChange n pin = t.getChange n pin
  metaHistory : ∀ n, s.metaHistory n = t.metaHistory n
  findByKey : ∀ key, s.findByKey key = t.findByKey key

theorem Keeps.agrees {s t : Store} {log : List Snapshot} (hs : s.Keeps log) (ht : t.Keeps log) :
    s.Agrees t where
  getChange n pin := by
    by_cases hn : history log n = []
    · rw [hs.getChange_unknown hn, ht.getChange_unknown hn]
    · rw [hs.getChange_known hn, ht.getChange_known hn]
  metaHistory n := by
    by_cases hn : history log n = []
    · rw [hs.metaHistory_unknown hn, ht.metaHistory_unknown hn]
    · rw [hs.metaHistory_known hn, ht.metaHistory_known hn]
  findByKey key := eq_of_ascending (hs.ascending_findByKey key) (ht.ascending_findByKey key)
    fun n => by rw [hs.mem_findByKey, ht.mem_findByKey]

theorem keeps_empty {s : Store} (h : s = .memory .empty ∨ s = .tables .empty) : s.Keeps [] := by
  rcases h with rfl | rfl
  · exact MemoryStore.keeps_empty
  · exact TableStore.keeps_empty

/-- Without collisions the log of a run tells all answers about changes, where a change that was
never inserted is not in the log. Runs of the same calls on either kind of store answer alike. -/
theorem play_reports (calls : List ChangeCall) :
    (∀ s : Store, s = .memory .empty ∨ s = .tables .empty →
      Collisionless (recorded calls (s.play calls).1) →
      (s.play calls).2.Reports (recorded calls (s.play calls).1) ∧
        ∀ n, (∀ c, .insert c ∈ calls → c.id ≠ n) →
          history (recorded calls (s.play calls).1) n = []) ∧
      (Collisionless (recorded calls ((memory .empty).play calls).1) →
        ((tables .empty).play calls).1 = ((memory .empty).play calls).1 ∧
        ((tables .empty).play calls).2.Agrees ((memory .empty).play calls).2) := by
  have nothing : ∀ n, Linked none (history [] n) := fun _ => trivial
  constructor
  · intro s hs unique
    obtain ⟨keeps, linked, begins⟩ := play_keeps (keeps_empty hs) nothing calls
    exact ⟨keeps.reports linked unique, fun n other => begins n rfl other⟩
  · intro unique
    have lists := keeps_empty (.inl (Eq.refl (memory .empty)))
    have rows := keeps_empty (.inr (Eq.refl (tables .empty)))
    obtain ⟨keepsLists, linked, -⟩ := play_keeps lists nothing calls
    obtain ⟨keepsRows, -, -⟩ := play_keeps rows nothing calls
    have answers : ((tables .empty).play calls).1 = ((memory .empty).play calls).1 :=
      play_alike lists rows calls fun n =>
        (linked n).nodup fun x hx y hy => unique n n x hx y hy
    rw [answers] at keepsRows
    exact ⟨answers, keepsRows.agrees keepsLists⟩

def draft : Change :=
  ⟨⟨7⟩, "p", "main", "I1", "s", .new, ⟨1000⟩, none, [], 0, 0, [], [], []⟩

def revisedDraft : Change :=
  { draft with key := "I2", subject := "t" }

def siblingDraft : Change :=
  { draft with id := ⟨8⟩ }

/-- The draft is inserted and updated, with another change in between. An update before the draft is
there and a second insertion are refused. -/
def draftCalls : List ChangeCall :=
  [.update draft, .insert draft, .insert siblingDraft, .update revisedDraft, .insert draft]

def draftId : ObjectId :=
  ⟨[152, 189, 87, 253, 209, 132, 42, 49, 249, 193, 106, 77, 58, 13, 171, 88, 117, 50, 209, 186],
    rfl⟩

def revisionId : ObjectId :=
  ⟨[153, 119, 253, 198, 175, 97, 135, 185, 24, 66, 103, 81, 191, 65, 125, 177, 99, 215, 104, 133],
    rfl⟩

def siblingId : ObjectId :=
  ⟨[25, 201, 55, 22, 110, 217, 136, 213, 101, 108, 160, 214, 199, 27, 236, 110, 228, 52, 164, 187],
    rfl⟩

-- Each id is computed once and by itself, and from characters, since the hash takes gigabytes to
-- evaluate and a string is slow to take apart.
theorem idOf_draft : Snapshot.idOf none draft = draftId :=
  ObjectId.eq_of_bytes ((Snapshot.bytes_idOf_chars none draft).trans (by decide +kernel))

theorem idOf_revisedDraft : Snapshot.idOf (some draftId) revisedDraft = revisionId :=
  ObjectId.eq_of_bytes ((Snapshot.bytes_idOf_chars _ revisedDraft).trans (by decide +kernel))

theorem idOf_siblingDraft : Snapshot.idOf none siblingDraft = siblingId :=
  ObjectId.eq_of_bytes ((Snapshot.bytes_idOf_chars none siblingDraft).trans (by decide +kernel))

def draftLog : List Snapshot :=
  [⟨draftId, draft⟩, ⟨siblingId, siblingDraft⟩, ⟨revisionId, revisedDraft⟩]

theorem recorded_draftCalls :
    recorded draftCalls ((memory .empty).play draftCalls).1 = draftLog := by
  have written : recorded draftCalls ((memory .empty).play draftCalls).1 =
      [⟨Snapshot.idOf none draft, draft⟩, ⟨Snapshot.idOf none siblingDraft, siblingDraft⟩,
        ⟨Snapshot.idOf (some (Snapshot.idOf none draft)) revisedDraft, revisedDraft⟩] := rfl
  rw [written, idOf_draft, idOf_siblingDraft, idOf_revisedDraft, draftLog]

theorem collisionless_draftLog : Collisionless draftLog := by
  obtain ⟨-, linked, -⟩ := play_keeps (keeps_empty (.inl rfl)) (fun _ => trivial) draftCalls
  rw [List.nil_append, recorded_draftCalls] at linked
  exact collisionless_of_nodup linked (by decide)

theorem history_draftLog (n : ChangeNumber) : history draftLog n =
    if n = ⟨7⟩ then [⟨draftId, draft⟩, ⟨revisionId, revisedDraft⟩]
    else if n = ⟨8⟩ then [⟨siblingId, siblingDraft⟩]
    else [] := by
  have number : draft.id = ⟨7⟩ ∧ revisedDraft.id = ⟨7⟩ ∧ siblingDraft.id = ⟨8⟩ := ⟨rfl, rfl, rfl⟩
  by_cases seven : n = ⟨7⟩
  · simp [history, draftLog, number, seven]
  · by_cases eight : n = ⟨8⟩ <;> simp [history, draftLog, number, seven, eight, eq_comm]

theorem history_draft :
    history draftLog ⟨7⟩ = [⟨draftId, draft⟩, ⟨revisionId, revisedDraft⟩] :=
  (history_draftLog ⟨7⟩).trans (if_pos rfl)

theorem key_draftLog (n : ChangeNumber) (key : String) :
    (∃ x, (history draftLog n).getLast? = some x ∧ x.state.key = key) ↔
      n = ⟨7⟩ ∧ key = "I2" ∨ n = ⟨8⟩ ∧ key = "I1" := by
  rw [history_draftLog]
  by_cases seven : n = ⟨7⟩
  · simp [seven, revisedDraft, eq_comm]
  · by_cases eight : n = ⟨8⟩ <;> simp [seven, eight, siblingDraft, draft, eq_comm]

/-- Both kinds of store tell the same of the draft and its sibling: the ids in the order in which
they were written, the last state and the earlier one by its id, and each change by the key of its
last state. The id of the sibling is none of the draft, and there is no other change. -/
theorem draft_reported :
    let s := ((tables .empty).play draftCalls).2
    s.metaHistory ⟨7⟩ = .ok [draftId, revisionId] ∧
      s.getChange ⟨7⟩ none = .ok ⟨revisionId, revisedDraft⟩ ∧
      s.getChange ⟨7⟩ (some draftId) = .ok ⟨draftId, draft⟩ ∧
      s.getChange ⟨7⟩ (some siblingId) = .error (.missingMeta ⟨7⟩ siblingId.hex) ∧
      s.getChange ⟨9⟩ none = .error (.changeNotFound ⟨9⟩) ∧
      s.findByKey "I1" = [⟨8⟩] ∧ s.findByKey "I2" = [⟨7⟩] ∧
      s.Agrees ((memory .empty).play draftCalls).2 := by
  have collisionless := collisionless_draftLog
  rw [← recorded_draftCalls] at collisionless
  obtain ⟨each, both⟩ := play_reports draftCalls
  obtain ⟨answers, agrees⟩ := both collisionless
  rw [← answers] at collisionless
  have reports := (each (tables .empty) (.inr rfl) collisionless).1
  rw [answers, recorded_draftCalls] at reports
  have known : history draftLog ⟨7⟩ ≠ [] := by simp [history_draft]
  have byKey (key : String) (n : ChangeNumber)
      (only : ∀ m, m = ⟨7⟩ ∧ key = "I2" ∨ m = ⟨8⟩ ∧ key = "I1" ↔ m = n) :
      ((tables .empty).play draftCalls).2.findByKey key = [n] :=
    eq_of_ascending (reports.findByKey key).1 (List.pairwise_singleton _ n) fun m => by
      rw [(reports.findByKey key).2, key_draftLog, only, List.mem_singleton]
  refine ⟨?ids, reports.current ⟨7⟩ _ ?current, reports.pinned ⟨7⟩ ⟨_, draft⟩ ?pinned,
    reports.missing ⟨7⟩ _ known ?missing, (reports.unknown ⟨9⟩ (history_draftLog ⟨9⟩)).2 none,
    byKey "I1" ⟨8⟩ (by simp), byKey "I2" ⟨7⟩ (by simp), agrees⟩
  case ids => rw [reports.metaHistory ⟨7⟩ known, history_draft, List.map_cons, List.map_singleton]
  case current => rw [history_draft, List.getLast?_cons_cons, List.getLast?_singleton]
  case pinned =>
    rw [history_draft]
    exact List.mem_cons_self
  case missing =>
    rw [history_draft]
    decide

end CodeReview.Store
