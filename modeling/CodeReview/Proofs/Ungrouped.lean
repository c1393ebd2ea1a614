import CodeReview.Proofs.Action
import CodeReview.Proofs.Store.View
set_option autoImplicit false

/-!
Actions that read but never look at groups. They end alike in worlds that differ only in groups,
and so does every action put together from such ones.
-/
namespace CodeReview

/-- As far as reading goes, the worlds differ in groups alone. -/
structure World.SameButGroups (w v : World) : Prop where
  failing : v.failing = w.failing
  accounts : v.store.accounts = w.store.accounts
  changes : v.store.changes = w.store.changes

namespace Store
variable {s t : Store}

theorem getAccount_congr (h : t.accounts = s.accounts) (id : AccountId) :
    t.getAccount id = s.getAccount id := by
  rw [getAccount_eq, getAccount_eq, h]

theorem findByUsername_congr (h : t.accounts = s.accounts) (name : String) :
    t.findByUsername name = s.findByUsername name := by
  rw [findByUsername_eq, findByUsername_eq, h]

/-- The kinds of store compare mail addresses each in its way, and only stores of one kind can have
the same changes. -/
theorem findByEmail_congr (h : t.accounts = s.accounts) (k : t.changes = s.changes)
    (email : String) : t.findByEmail email = s.findByEmail email := by
  cases s with
  | memory m =>
    cases t with
    | memory n => exact congrArg (List.filter _) h
    | tables n => cases k
  | tables m =>
    cases t with
    | memory n => cases k
    | tables n => exact congrArg (List.filter _) h

theorem findByFullName_congr (h : t.accounts = s.accounts) (name : String) :
    t.findByFullName name = s.findByFullName name := by
  cases s <;> cases t <;> exact congrArg (List.filter _) h

/-- Whatever reads the changes of a store reads them off lists, or off tables. -/
theorem changes_cases {α : Type} {f : Store → α} (h : t.changes = s.changes)
    (lists : ∀ m n : MemoryStore, n.changes = m.changes → f (.memory n) = f (.memory m))
    (rows : ∀ m n : TableStore, n.changes = m.changes → n.metas = m.metas →
      f (.tables n) = f (.tables m)) : f t = f s := by
  cases s with
  | memory m =>
    cases t with
    | memory n => exact lists m n (Sum.inl.inj h)
    | tables n => cases h
  | tables m =>
    cases t with
    | memory n => cases h
    | tables n =>
      obtain ⟨changes, metas⟩ := Prod.mk.inj (Sum.inr.inj h)
      exact rows m n changes metas

theorem getChange_congr (h : t.changes = s.changes) (n : ChangeNumber) (pin : Option ObjectId) :
    t.getChange n pin = s.getChange n pin := by
  refine changes_cases (f := fun s => s.getChange n pin) h ?_ ?_
  · rintro ⟨_, _, _, _, _⟩ ⟨_, _, _, _, _⟩ rfl
    rfl
  · rintro ⟨_, _, _, _, _⟩ ⟨_, _, _, _, _⟩ rfl rfl
    rfl

theorem findByKey_congr (h : t.changes = s.changes) (key : String) :
    t.findByKey key = s.findByKey key := by
  refine changes_cases (f := fun s => s.findByKey key) h ?_ ?_
  · rintro ⟨_, _, _, _, _⟩ ⟨_, _, _, _, _⟩ rfl
    rfl
  · rintro ⟨_, _, _, _, _⟩ ⟨_, _, _, _, _⟩ rfl -
    rfl

end Store

namespace Act
variable {ε δ α β : Type}

structure Ungrouped (x : Act ε α) : Prop where
  reads : Reads x
  same : ∀ w v, w.SameButGroups v → (x.run v).1 = (x.run w).1

namespace Ungrouped

theorem pure (a : α) : Ungrouped (Pure.pure a : Act ε α) :=
  ⟨Reads.pure a, fun _ _ _ => rfl⟩

theorem fail (e : ε) : Ungrouped (Act.fail e : Act ε α) :=
  ⟨Reads.fail e, fun _ _ _ => rfl⟩

theorem ofExcept (r : Except ε α) : Ungrouped (Act.ofExcept r) :=
  ⟨Reads.ofExcept r, fun _ _ _ => rfl⟩

theorem outcome {x : Act ε α} (h : Ungrouped x) :
    Ungrouped (x.outcome : Act δ (Except ε α)) :=
  ⟨h.reads.outcome, fun w v alike => congrArg Except.ok (h.same w v alike)⟩

theorem mapError {x : Act ε α} (h : Ungrouped x) (f : ε → δ) : Ungrouped (x.mapError f) :=
  ⟨h.reads.mapError f, fun w v alike => congrArg (Except.mapError f) (h.same w v alike)⟩

theorem bind {x : Act ε α} {f : α → Act ε β} (hx : Ungrouped x) (hf : ∀ a, Ungrouped (f a)) :
    Ungrouped (x >>= f) where
  reads := hx.reads.bind fun a => (hf a).reads
  same w v alike := by
    rw [run_bind, run_bind, hx.reads.run_eq w, hx.reads.run_eq v, hx.same w v alike]
    cases (x.run w).1 with
    | ok a => exact (hf a).same w v alike
    | error e => rfl

theorem map {x : Act ε α} (f : α → β) (h : Ungrouped x) : Ungrouped (f <$> x) :=
  h.bind fun a => pure (f a)

theorem ite {p : Prop} [Decidable p] {x y : Act ε α} (hx : Ungrouped x) (hy : Ungrouped y) :
    Ungrouped (if p then x else y) := by
  split
  · exact hx
  · exact hy

/-- Reading something only on demand. -/
theorem optional {p : Prop} [Decidable p] {x : Act ε α} {f : Option α → Act ε β}
    (hx : Ungrouped x) (hf : ∀ o, Ungrouped (f o)) :
    Ungrouped (if p then some <$> x >>= f else Pure.pure none >>= f) :=
  ite ((hx.map some).bind hf) ((pure none).bind hf)

/-- A store call that is answered alike by stores that differ in groups alone. -/
theorem read (call : StoreCall) {f : Store → Except StoreError α}
    (h : ∀ s t : Store, t.accounts = s.accounts → t.changes = s.changes → f t = f s) :
    Ungrouped (Act.read call f) where
  reads := Reads.read call f
  same w v alike := by
    rw [run_read, run_read, alike.failing, h w.store v.store alike.accounts alike.changes]

end Ungrouped

theorem ungrouped_getAccount (id : AccountId) : Ungrouped (getAccount id) :=
  .read _ fun _ _ h _ => Store.getAccount_congr h id

theorem ungrouped_findByUsername (name : String) : Ungrouped (findByUsername name) :=
  .read _ fun _ _ h _ => congrArg Except.ok (Store.findByUsername_congr h name)

theorem ungrouped_findByEmail (email : String) : Ungrouped (findByEmail email) :=
  .read _ fun _ _ h k => congrArg Except.ok (Store.findByEmail_congr h k email)

theorem ungrouped_findByFullName (name : String) : Ungrouped (findByFullName name) :=
  .read _ fun _ _ h _ => congrArg Except.ok (Store.findByFullName_congr h name)

theorem ungrouped_getChange (n : ChangeNumber) (pin : Option ObjectId) :
    Ungrouped (getChange n pin) :=
  .read _ fun _ _ _ k => Store.getChange_congr k n pin

theorem ungrouped_findByKey (key : String) : Ungrouped (findByKey key) :=
  .read _ fun _ _ _ k => congrArg Except.ok (Store.findByKey_congr k key)

end Act

end CodeReview
