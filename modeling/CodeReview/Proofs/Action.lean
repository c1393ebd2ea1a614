import CodeReview.World
set_option autoImplicit false

/-!
Actions on the world, one step at a time. An action that only reads leaves the world as it was,
whatever it answers, and so does every action put together from such ones.
-/
namespace CodeReview.Act

section
variable {ε δ α β : Type}

@[simp] theorem run_pure (a : α) (w : World) : (pure a : Act ε α).run w = (.ok a, w) := rfl

@[simp] theorem run_fail (e : ε) (w : World) : (fail e : Act ε α).run w = (.error e, w) := rfl

@[simp] theorem run_ofExcept (r : Except ε α) (w : World) : (ofExcept r).run w = (r, w) := rfl

@[simp] theorem run_now (w : World) : (now : Act ε Int64).run w = (.ok w.now, w) := rfl

@[simp] theorem run_outcome (x : Act ε α) (w : World) :
    (x.outcome : Act δ (Except ε α)).run w = (.ok (x.run w).1, (x.run w).2) := rfl

@[simp] theorem run_mapError (f : ε → δ) (x : Act ε α) (w : World) :
    (x.mapError f).run w = ((x.run w).1.mapError f, (x.run w).2) := rfl

theorem run_bind (x : Act ε α) (f : α → Act ε β) (w : World) :
    (x >>= f).run w = match x.run w with
      | (.ok a, v) => (f a).run v
      | (.error e, v) => (.error e, v) := by
  simp only [bind, run, ExceptT.bind, ExceptT.mk, StateT.bind, ExceptT.bindCont]
  generalize x w = p
  obtain ⟨r, v⟩ := p
  cases r <;> rfl

theorem run_bind_of_ok {x : Act ε α} {f : α → Act ε β} {w v : World} {a : α}
    (h : x.run w = (.ok a, v)) : (x >>= f).run w = (f a).run v := by
  rw [run_bind, h]

theorem run_bind_eq_ok {x : Act ε α} {f : α → Act ε β} {w w' : World} {b : β} :
    (x >>= f).run w = (.ok b, w') ↔
      ∃ a v, x.run w = (.ok a, v) ∧ (f a).run v = (.ok b, w') := by
  rw [run_bind]
  constructor
  · intro h
    match hx : x.run w with
    | (.ok a, v) => exact ⟨a, v, rfl, by simpa [hx] using h⟩
    | (.error e, v) => simp [hx] at h
  · intro found
    obtain ⟨a, v, hx, hf⟩ := found
    rw [hx]
    exact hf

theorem run_bind_eq_error {x : Act ε α} {f : α → Act ε β} {w w' : World} {e : ε} :
    (x >>= f).run w = (.error e, w') ↔
      x.run w = (.error e, w') ∨
        ∃ a v, x.run w = (.ok a, v) ∧ (f a).run v = (.error e, w') := by
  rw [run_bind]
  constructor
  · intro h
    match hx : x.run w with
    | (.ok a, v) => exact .inr ⟨a, v, rfl, by simpa [hx] using h⟩
    | (.error d, v) => exact .inl (by simpa [hx] using h)
  · intro either
    rcases either with hx | ⟨a, v, hx, hf⟩
    · rw [hx]
    · rw [hx]
      exact hf

theorem mapError_eq_ok {f : ε → δ} {r : Except ε α} {a : α} :
    r.mapError f = .ok a ↔ r = .ok a := by
  cases r with
  | error e =>
    show (.error (f e) : Except δ α) = .ok a ↔ _
    simp
  | ok b =>
    show (.ok b : Except δ α) = .ok a ↔ _
    simp

theorem run_mapError_eq_ok {f : ε → δ} {x : Act ε α} {w w' : World} {a : α} :
    (x.mapError f).run w = (.ok a, w') ↔ x.run w = (.ok a, w') := by
  rw [run_mapError, Prod.mk.injEq, mapError_eq_ok, ← Prod.mk.injEq]

theorem mapError_bind (x : Act ε α) (f : α → Act ε β) (g : ε → δ) :
    (x >>= f).mapError g = x.mapError g >>= fun a => (f a).mapError g := by
  funext w
  show ((x >>= f).mapError g).run w = (x.mapError g >>= fun a => (f a).mapError g).run w
  rw [run_mapError, run_bind, run_bind, run_mapError]
  cases x.run w with
  | mk r v => cases r <;> rfl

end

section
variable {α : Type} {call : StoreCall} {w w' : World}

theorem run_read (f : Store → Except StoreError α) :
    (read call f).run w =
      (if call ∈ w.failing then .error .lockPoisoned else f w.store, w) := by
  simp only [read, run]
  split <;> rfl

theorem run_read_eq_ok {f : Store → Except StoreError α} {a : α} :
    (read call f).run w = (.ok a, w') ↔ call ∉ w.failing ∧ f w.store = .ok a ∧ w' = w := by
  rw [run_read]
  split <;> simp [*, eq_comm]

theorem run_write (f : Store → Except StoreError (α × Store)) :
    (write call f).run w =
      if call ∈ w.failing then (.error .lockPoisoned, w)
      else match f w.store with
        | .ok (a, s) =>
          if w.readOnly ∧ s ≠ w.store then
            (.error (.database "attempt to write a readonly database"), w)
          else (.ok a, { w with store := s })
        | .error e => (.error e, w) := rfl

/-- A writing call changes nothing but the store, and that only when it succeeds. -/
theorem run_write_eq_ok {f : Store → Except StoreError (α × Store)} {a : α} :
    (write call f).run w = (.ok a, w') ↔
      call ∉ w.failing ∧ ∃ s, f w.store = .ok (a, s) ∧ (w.readOnly = true → s = w.store) ∧
        w' = { w with store := s } := by
  rw [run_write]
  by_cases hc : call ∈ w.failing
  · simp [hc]
  rw [if_neg hc]
  cases hf : f w.store with
  | error e => simp
  | ok p =>
    obtain ⟨b, s⟩ := p
    show (if w.readOnly = true ∧ s ≠ w.store then _ else _) = _ ↔ _
    split
    · next hr =>
      constructor
      · intro h
        simp at h
      · intro found
        obtain ⟨-, t, ht, hs, -⟩ := found
        cases ht
        exact absurd (hs hr.1) hr.2
    · next hr =>
      constructor
      · intro h
        cases h
        exact ⟨hc, s, rfl, fun h => by simpa [h] using hr, rfl⟩
      · intro found
        obtain ⟨-, t, ht, -, rfl⟩ := found
        cases ht
        rfl

theorem world_of_write_error {f : Store → Except StoreError (α × Store)} {e : StoreError}
    (h : (write call f).run w = (.error e, w')) : w' = w := by
  rw [run_write] at h
  split at h
  · exact (Prod.mk.inj h).2.symm
  · split at h
    · split at h
      · exact (Prod.mk.inj h).2.symm
      · simp at h
    · exact (Prod.mk.inj h).2.symm

end

section
variable {ε α β : Type} {R : World → World → Prop}

/-- One action after the other leads from world to world as each of them does. -/
theorem leads_bind (trans : ∀ {u v w : World}, R u v → R v w → R u w) {x : Act ε α}
    {f : α → Act ε β} (hx : ∀ w, R w (x.run w).2) (hf : ∀ a w, R w ((f a).run w).2) (w : World) :
    R w ((x >>= f).run w).2 := by
  have first := hx w
  rw [run_bind]
  cases run : x.run w with
  | mk r v =>
    rw [run] at first
    cases r with
    | ok a => exact trans first (hf a v)
    | error e => exact first

end

/-- The action leaves every world as it was. -/
def Reads {ε α : Type} (x : Act ε α) : Prop :=
  ∀ w, (x.run w).2 = w

namespace Reads
variable {ε δ α β : Type}

theorem world_eq {x : Act ε α} (h : Reads x) {w w' : World} {r : Except ε α}
    (hx : x.run w = (r, w')) : w' = w := by
  have := h w
  rw [hx] at this
  exact this

theorem run_eq {x : Act ε α} (h : Reads x) (w : World) : x.run w = ((x.run w).1, w) :=
  Prod.ext rfl (h w)

theorem pure (a : α) : Reads (Pure.pure a : Act ε α) := fun _ => rfl

theorem fail (e : ε) : Reads (Act.fail e : Act ε α) := fun _ => rfl

theorem ofExcept (r : Except ε α) : Reads (Act.ofExcept r) := fun _ => rfl

theorem read (call : StoreCall) (f : Store → Except StoreError α) : Reads (Act.read call f) :=
  fun w => by rw [run_read]

theorem outcome {x : Act ε α} (h : Reads x) : Reads (x.outcome : Act δ (Except ε α)) := h

theorem mapError {x : Act ε α} (h : Reads x) (f : ε → δ) : Reads (x.mapError f) := h

theorem bind {x : Act ε α} {f : α → Act ε β} (hx : Reads x) (hf : ∀ a, Reads (f a)) :
    Reads (x >>= f) :=
  leads_bind (R := fun w v => v = w) (fun h k => k.trans h) hx hf

/-- What follows on reading happens in the same world, or not at all. -/
theorem bind_cases {x : Act ε α} {f : α → Act ε β} {w w' : World} {r : Except ε β} (hx : Reads x)
    (h : (x >>= f).run w = (r, w')) :
    w' = w ∨ ∃ a, x.run w = (.ok a, w) ∧ (f a).run w = (r, w') := by
  rw [run_bind] at h
  split at h
  · next a v ha =>
    obtain rfl := hx.world_eq ha
    exact .inr ⟨a, ha, h⟩
  · next e v he =>
    obtain rfl := hx.world_eq he
    exact .inl (Prod.mk.inj h).2.symm

theorem run_of_bind {x : Act ε α} {f : α → Act ε β} {w w' : World} {r : Except ε β}
    (hf : ∀ a, Reads (f a)) (h : (x >>= f).run w = (r, w')) : ∃ q, x.run w = (q, w') := by
  rw [run_bind] at h
  split at h
  · next a v ha =>
    obtain rfl := (hf a).world_eq h
    exact ⟨.ok a, ha⟩
  · next e v he =>
    cases h
    exact ⟨.error e, he⟩

theorem map {x : Act ε α} (f : α → β) (h : Reads x) : Reads (f <$> x) :=
  h.bind fun a => Reads.pure (f a)

theorem ite {p : Prop} [Decidable p] {x y : Act ε α} (hx : Reads x) (hy : Reads y) :
    Reads (if p then x else y) := by
  split
  · exact hx
  · exact hy

/-- Reading something only on demand. -/
theorem optional {p : Prop} [Decidable p] {x : Act ε α} {f : Option α → Act ε β} (hx : Reads x)
    (hf : ∀ o, Reads (f o)) :
    Reads (if p then some <$> x >>= f else Pure.pure none >>= f) :=
  ite ((hx.map some).bind hf) ((pure none).bind hf)

end Reads

end CodeReview.Act
