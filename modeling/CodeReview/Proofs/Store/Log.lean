import Mathlib.Data.List.Induction
import Mathlib.Data.List.Nodup
import CodeReview.Store.Basic
set_option autoImplicit false

/-!
The log of a run: every write of a change that succeeded, with the id that was returned. The ids
of a change form a chain, each computed from the one before it. Where different parents and
states have different ids, the chain never comes back to an id.
-/
namespace CodeReview

theorem ObjectId.eq_of_bytes {p q : ObjectId} (h : p.bytes = q.bytes) : p = q := by
  cases p
  cases q
  cases h
  rfl

namespace Snapshot

theorem bytes_idOf (parent : Option ObjectId) (c : Change) :
    (idOf parent c).bytes = Hash.Blake3.digest 20 (content parent c) := by
  rw [idOf]

/-- What is hashed of a state are its characters as they are written. -/
theorem bytes_idOf_chars (parent : Option ObjectId) (c : Change) :
    (idOf parent c).bytes = Hash.Blake3.digest 20
      (parent.elim [0] (fun p => 1 :: p.bytes) ++ Text.Utf8.encode c.toJson.chars) := by
  have text : Text.Utf8.bytes (stateText c) = Text.Utf8.encode c.toJson.chars := by
    rw [stateText, Text.Utf8.bytes, Json.compact, String.toList_ofList]
  cases parent with
  | none => rw [bytes_idOf, content, text, Option.elim_none]
  | some p => rw [bytes_idOf, content, text, Option.elim_some]

end Snapshot

def history (log : List Snapshot) (n : ChangeNumber) : List Snapshot :=
  log.filter fun x => x.state.id = n

theorem mem_history {log : List Snapshot} {n : ChangeNumber} {x : Snapshot} :
    x ∈ history log n ↔ x ∈ log ∧ x.state.id = n := by
  simp [history]

theorem history_snoc (log : List Snapshot) (x : Snapshot) :
    history (log ++ [x]) x.state.id = history log x.state.id ++ [x] := by
  simp [history]

theorem history_snoc_of_ne {log : List Snapshot} {x : Snapshot} {n : ChangeNumber}
    (h : n ≠ x.state.id) : history (log ++ [x]) n = history log n := by
  simp [history, h.symm]

theorem exists_last {h : List Snapshot} (hn : h ≠ []) : ∃ x, h.getLast? = some x :=
  ⟨h.getLast hn, List.getLast?_eq_some_getLast hn⟩

/-- The id that the next snapshot is computed from. -/
def lastId (parent : Option ObjectId) : List Snapshot → Option ObjectId
  | [] => parent
  | x :: xs => lastId (some x.metaId) xs

theorem lastId_snoc (parent : Option ObjectId) (h : List Snapshot) (x : Snapshot) :
    lastId parent (h ++ [x]) = some x.metaId := by
  induction h generalizing parent with
  | nil => rfl
  | cons y ys ih => exact ih (some y.metaId)

theorem lastId_eq_some {h : List Snapshot} {x : Snapshot} (parent : Option ObjectId)
    (hx : h.getLast? = some x) : lastId parent h = some x.metaId := by
  obtain ⟨ys, rfl⟩ := List.getLast?_eq_some_iff.1 hx
  exact lastId_snoc parent ys x

theorem lastId_none (h : List Snapshot) : lastId none h = h.getLast?.map Snapshot.metaId := by
  cases hx : h.getLast? with
  | some x => exact lastId_eq_some none hx
  | none => rw [List.getLast?_eq_none_iff.1 hx, lastId, Option.map_none]

/-- The states of a chain, each with the id before it. -/
def pairs (parent : Option ObjectId) : List Snapshot → List (Option ObjectId × Change)
  | [] => []
  | x :: xs => (parent, x.state) :: pairs (some x.metaId) xs

theorem pairs_snoc (parent : Option ObjectId) (h : List Snapshot) (x : Snapshot) :
    pairs parent (h ++ [x]) = pairs parent h ++ [(lastId parent h, x.state)] := by
  induction h generalizing parent with
  | nil => rfl
  | cons y ys ih => rw [List.cons_append, pairs, ih, pairs, lastId, List.cons_append]

/-- Every id is computed from the state and the id before it. -/
def Linked (parent : Option ObjectId) : List Snapshot → Prop
  | [] => True
  | x :: xs => x.metaId = Snapshot.idOf parent x.state ∧ Linked (some x.metaId) xs

theorem linked_snoc (parent : Option ObjectId) (h : List Snapshot) (x : Snapshot) :
    Linked parent (h ++ [x]) ↔
      Linked parent h ∧ x.metaId = Snapshot.idOf (lastId parent h) x.state := by
  induction h generalizing parent with
  | nil => simp [Linked, lastId]
  | cons y ys ih => rw [List.cons_append, Linked, ih, Linked, lastId, and_assoc]

theorem Linked.exists_pair {parent : Option ObjectId} {h : List Snapshot} (hl : Linked parent h)
    {x : Snapshot} (hx : x ∈ h) :
    ∃ p, (p, x.state) ∈ pairs parent h ∧ x.metaId = Snapshot.idOf p x.state := by
  induction h generalizing parent with
  | nil => simp at hx
  | cons y ys ih =>
    rcases List.mem_cons.1 hx with rfl | hx
    · exact ⟨parent, List.mem_cons_self, hl.1⟩
    · obtain ⟨p, hp, e⟩ := ih hl.2 hx
      exact ⟨p, List.mem_cons_of_mem _ hp, e⟩

/-- Different parents or states have different ids, as far as they are recorded. -/
def Collisionless (log : List Snapshot) : Prop :=
  ∀ m n, ∀ x ∈ pairs none (history log m), ∀ y ∈ pairs none (history log n),
    Snapshot.idOf x.1 x.2 = Snapshot.idOf y.1 y.2 → x = y

theorem Linked.exists_snapshot {parent : Option ObjectId} {h : List Snapshot} (hl : Linked parent h)
    {p : Option ObjectId × Change} (hp : p ∈ pairs parent h) :
    ∃ x ∈ h, x.state = p.2 ∧ x.metaId = Snapshot.idOf p.1 p.2 := by
  induction h generalizing parent with
  | nil => simp [pairs] at hp
  | cons y ys ih =>
    rcases List.mem_cons.1 hp with rfl | hp
    · exact ⟨y, List.mem_cons_self, rfl, hl.1⟩
    · obtain ⟨x, hx, e⟩ := ih hl.2 hp
      exact ⟨x, List.mem_cons_of_mem _ hx, e⟩

/-- Where no id of a chain comes again, there is one pair for each id. -/
theorem Linked.pair_eq {parent : Option ObjectId} {h : List Snapshot} (hl : Linked parent h)
    (distinct : (h.map Snapshot.metaId).Nodup) {p q : Option ObjectId × Change}
    (hp : p ∈ pairs parent h) (hq : q ∈ pairs parent h)
    (same : Snapshot.idOf p.1 p.2 = Snapshot.idOf q.1 q.2) : p = q := by
  induction h generalizing parent with
  | nil => simp [pairs] at hp
  | cons y ys ih =>
    rw [List.map_cons, List.nodup_cons] at distinct
    have later {r : Option ObjectId × Change} (hr : r ∈ pairs (some y.metaId) ys) :
        Snapshot.idOf parent y.state ≠ Snapshot.idOf r.1 r.2 := by
      obtain ⟨x, hx, -, id⟩ := hl.2.exists_snapshot hr
      rw [← id, ← hl.1]
      exact fun e => distinct.1 (e ▸ List.mem_map_of_mem hx)
    rcases List.mem_cons.1 hp with rfl | hp
    · rcases List.mem_cons.1 hq with rfl | hq
      · rfl
      · exact absurd same (later hq)
    · rcases List.mem_cons.1 hq with rfl | hq
      · exact absurd same.symm (later hp)
      · exact ih hl.2 distinct.2 hp hq

/-- A log without a repeated id is one without collisions. -/
theorem collisionless_of_nodup {log : List Snapshot} (hl : ∀ n, Linked none (history log n))
    (distinct : (log.map Snapshot.metaId).Nodup) : Collisionless log := by
  intro m n p hp q hq same
  obtain ⟨x, hx, -, ex⟩ := (hl m).exists_snapshot hp
  obtain ⟨y, hy, -, ey⟩ := (hl n).exists_snapshot hq
  rw [mem_history] at hx hy
  obtain rfl := List.inj_on_of_nodup_map distinct hx.1 hy.1 (by rw [ex, ey, same])
  obtain rfl : m = n := hx.2.symm.trans hy.2
  exact (hl m).pair_eq (distinct.sublist (List.filter_sublist.map _)) hp hq same

/-- Nothing is recorded on top of the last id when the ids are distinct. -/
theorem parent_ne_last {parent : Option ObjectId} {h : List Snapshot}
    (fresh : ∀ i ∈ parent, i ∉ h.map Snapshot.metaId) (distinct : (h.map Snapshot.metaId).Nodup)
    {x : Snapshot} (hx : h.getLast? = some x) : ∀ p ∈ pairs parent h, p.1 ≠ some x.metaId := by
  have last := List.mem_map_of_mem (f := Snapshot.metaId) (List.mem_of_getLast? hx)
  induction h generalizing parent with
  | nil => simp at hx
  | cons y ys ih =>
    rw [List.map_cons, List.nodup_cons] at distinct
    intro p hp
    rcases List.mem_cons.1 hp with rfl | hp
    · intro e
      exact fresh _ e last
    · cases ys with
      | nil => simp [pairs] at hp
      | cons z zs =>
        have rest : (z :: zs).getLast? = some x := by simpa using hx
        refine ih ?_ distinct.2 rest (List.mem_map_of_mem (List.mem_of_getLast? rest)) p hp
        rintro i ⟨⟩
        exact distinct.1

/-- A chain that came back to an id would record two pairs under it, or the same parent twice and
so an earlier id twice. -/
theorem Linked.nodup {h : List Snapshot} (hl : Linked none h)
    (unique : ∀ x ∈ pairs none h, ∀ y ∈ pairs none h,
      Snapshot.idOf x.1 x.2 = Snapshot.idOf y.1 y.2 → x = y) :
    (h.map Snapshot.metaId).Nodup := by
  induction h using List.reverseRecOn with
  | nil => simp
  | append_singleton h x ih =>
    rw [linked_snoc] at hl
    rw [pairs_snoc] at unique
    have distinct := ih hl.1 fun p hp q hq =>
      unique p (List.mem_append_left _ hp) q (List.mem_append_left _ hq)
    rw [List.map_append, List.nodup_append]
    refine ⟨distinct, by simp, ?_⟩
    rintro i hi j hj rfl
    obtain ⟨y, hy, e⟩ := List.mem_map.1 hi
    rw [List.map_singleton, List.mem_singleton] at hj
    obtain ⟨p, hp, he⟩ := hl.1.exists_pair hy
    have same : (p, y.state) = (lastId none h, x.state) :=
      unique _ (List.mem_append_left _ hp) _ (by simp) (by rw [← he, e, hj, hl.2])
    obtain ⟨z, hz⟩ := exists_last (List.ne_nil_of_mem hy)
    have parent := (Prod.mk.inj same).1
    rw [lastId_eq_some none hz] at parent
    exact parent_ne_last (by simp) distinct hz _ hp parent

inductive ChangeCall where
  | insert (c : Change)
  | update (c : Change)

namespace ChangeCall

def state : ChangeCall → Change
  | .insert c => c
  | .update c => c

def write (s : Store) : ChangeCall → Except StoreError (ObjectId × Store)
  | .insert c => s.insertChange c
  | .update c => s.updateChange c

end ChangeCall

namespace Store

def call (s : Store) (x : ChangeCall) : Except StoreError ObjectId × Store :=
  match x.write s with
  | .ok (id, t) => (.ok id, t)
  | .error e => (.error e, s)

/-- The answers to calls one after the other, and the store after them. -/
def play (s : Store) : List ChangeCall → List (Except StoreError ObjectId) × Store
  | [] => ([], s)
  | x :: xs => ((s.call x).1 :: ((s.call x).2.play xs).1, ((s.call x).2.play xs).2)

end Store

/-- The states that were written, each with the id that its call returned. -/
def recorded : List ChangeCall → List (Except StoreError ObjectId) → List Snapshot
  | x :: xs, .ok id :: answers => ⟨id, x.state⟩ :: recorded xs answers
  | _ :: xs, .error _ :: answers => recorded xs answers
  | _, _ => []

end CodeReview
