import CodeReview.Account.Provision
import CodeReview.Proofs.Account.Lookup
import CodeReview.Proofs.Store.Reachable
set_option autoImplicit false

/-!
What making an account from the directory does to the world. Asking the directory moves it on;
the store stays as it is, or it gains the one account that the directory's entry gives.
-/
namespace CodeReview
open Act

/-- The directories that lookups lead to. -/
inductive Directory.After (d : Directory) : Directory → Prop where
  | refl : After d d
  | lookup {e : Directory} (h : After d e) (name : String) : After d (e.lookup name).2

theorem Directory.After.trans {d e f : Directory} (h : d.After e) (k : e.After f) : d.After f := by
  induction k with
  | refl => exact h
  | lookup _ name ih => exact ih.lookup name

theorem run_lookupUser (name : String) (w : World) :
    (lookupUser name).run w =
      ((w.directory.lookup name).1, { w with directory := (w.directory.lookup name).2 }) := rfl

def World.asked (w : World) (name : String) : World :=
  { w with directory := (w.directory.lookup name).2 }

@[simp] theorem World.asked_store (w : World) (name : String) :
    (w.asked name).store = w.store := rfl

@[simp] theorem World.asked_failing (w : World) (name : String) :
    (w.asked name).failing = w.failing := rfl

theorem ungrouped_checkEmailFree (email : Option String) : Ungrouped (checkEmailFree email) := by
  cases email with
  | none => exact .pure _
  | some e =>
    refine ((ungrouped_findByEmail e).mapError _).bind fun found => ?_
    cases found with
    | nil => exact .pure _
    | cons a as => exact .fail _

section
variable {name : String} {w w' : World} {r : Except ProvisionError Provisioned}

theorem createFromEntry_cases {e : DirectoryEntry} (h : (createFromEntry e).run w = (r, w')) :
    (w' = w ∧ ∀ p, r ≠ .ok p) ∨
      ∃ a s, .createAccount ∉ w.failing ∧ w.store.createAccount (e.newAccount w.now) = .ok (a, s) ∧
        (w.readOnly = true → s = w.store) ∧ w' = { w with store := s } ∧ r = .ok ⟨a.id, true⟩ := by
  cases r with
  | error d =>
    obtain hx | ⟨_, v, hx, k⟩ := run_bind_eq_error.1 h
    · exact .inl ⟨(ungrouped_checkEmailFree _).reads.world_eq hx, by simp⟩
    · obtain rfl := (ungrouped_checkEmailFree _).reads.world_eq hx
      rw [run_bind_of_ok (run_now v)] at k
      obtain hc | ⟨a, u, -, k⟩ := run_bind_eq_error.1 k
      · rw [run_mapError, Prod.mk.injEq] at hc
        obtain ⟨he, hw⟩ := hc
        cases hr : (createAccount (e.newAccount v.now)).run v with
        | mk q u =>
          rw [hr] at he hw
          cases q with
          | ok a => cases (he : Except.ok a = .error d)
          | error q => exact .inl ⟨hw.symm.trans (world_of_write_error hr), by simp⟩
      · simp at k
  | ok p =>
    obtain ⟨_, v, hx, k⟩ := run_bind_eq_ok.1 h
    obtain rfl := (ungrouped_checkEmailFree _).reads.world_eq hx
    rw [run_bind_of_ok (run_now v)] at k
    obtain ⟨a, u, hc, k⟩ := run_bind_eq_ok.1 k
    obtain ⟨hf, s, hs, hr, rfl⟩ := run_write_eq_ok.1 (run_mapError_eq_ok.1 hc)
    cases k
    exact .inr ⟨a, s, hf, hs, hr, rfl, rfl⟩

theorem accountOfEntry_cases {e : DirectoryEntry}
    (h : (accountOfEntry name .trusted e).run w = (r, w')) :
    (w' = w ∧ ∀ p, r = .ok p → ∃ a, .findByUsername ∉ w.failing ∧
        w.store.findByUsername name = some a ∧ p = ⟨a.id, false⟩) ∨
      (w.store.findByUsername name = none ∧ (createFromEntry e).run w = (r, w')) := by
  rw [accountOfEntry, checkCredentials, run_bind_of_ok (run_pure () w), run_bind, run_mapError,
    findByUsername, run_read] at h
  by_cases hc : .findByUsername ∈ w.failing
  · simp only [hc, if_true] at h
    cases h
    exact .inl ⟨rfl, by simp⟩
  · simp only [hc, if_false] at h
    cases hu : w.store.findByUsername name with
    | none =>
      rw [hu] at h
      exact .inr ⟨rfl, h⟩
    | some a =>
      rw [hu] at h
      cases h
      exact .inl ⟨rfl, fun p hp => ⟨a, hc, rfl, (Except.ok.inj hp).symm⟩⟩

theorem accountOfEntry_of_existing {e : DirectoryEntry} {a : Account}
    (hf : .findByUsername ∉ w.failing) (hu : w.store.findByUsername name = some a) :
    (accountOfEntry name .trusted e).run w = (.ok ⟨a.id, false⟩, w) := by
  rw [accountOfEntry, checkCredentials, run_bind_of_ok (run_pure () w), run_bind, run_mapError,
    findByUsername, run_read, if_neg hf, hu]
  rfl

theorem run_provision (hv : isValidUsername name = true) :
    (provision name .trusted).run w = match (w.directory.lookup name).1 with
      | .ok (some e) => (accountOfEntry name .trusted e).run (w.asked name)
      | .ok none => (.error (.noSuchUser name), w.asked name)
      | .error d => (.error (.directory d), w.asked name) := by
  rw [provision, hv, Bool.not_true, if_neg Bool.false_ne_true, run_bind, run_mapError,
    run_lookupUser]
  cases (w.directory.lookup name).1 with
  | error d => rfl
  | ok found => cases found <;> rfl

theorem provision_cases (h : (provision name .trusted).run w = (r, w')) :
    ((w' = w ∨ w' = w.asked name) ∧ ∀ p, r ≠ .ok p) ∨
      ∃ e, (w.directory.lookup name).1 = .ok (some e) ∧
        (accountOfEntry name .trusted e).run (w.asked name) = (r, w') := by
  cases hv : isValidUsername name with
  | false =>
    rw [provision, hv] at h
    cases h
    exact .inl ⟨.inl rfl, by simp⟩
  | true =>
    rw [run_provision hv] at h
    split at h
    · next e he => exact .inr ⟨e, he, h⟩
    · cases h
      exact .inl ⟨.inr rfl, by simp⟩
    · cases h
      exact .inl ⟨.inr rfl, by simp⟩

end

/-- Accounts are created one after the other, and nothing else happens. -/
inductive Store.Creates (s : Store) : List Account → Store → Prop where
  | nil : Creates s [] s
  | snoc {created : List Account} {t u : Store} {n : NewAccount} {a : Account}
    (h : Creates s created t) (hn : t.createAccount n = .ok (a, u)) :
    Creates s (created ++ [a]) u

namespace Store.Creates
variable {s t u : Store} {created more : List Account}

theorem trans (h : s.Creates created t) (k : t.Creates more u) :
    s.Creates (created ++ more) u := by
  induction k with
  | nil => simpa using h
  | snoc _ hn ih =>
    rw [← List.append_assoc]
    exact ih.snoc hn

theorem accounts (h : s.Creates created t) : t.accounts = s.accounts ++ created := by
  induction h with
  | nil => simp
  | snoc _ hn ih => rw [(createAccount_eq_ok hn).2.1, ih, List.append_assoc]

theorem groups (h : s.Creates created t) : t.groups = s.groups := by
  induction h with
  | nil => rfl
  | snoc _ hn ih => rw [(createAccount_eq_ok hn).2.2.1, ih]

theorem changes (h : s.Creates created t) : t.changes = s.changes := by
  induction h with
  | nil => rfl
  | snoc _ hn ih => rw [(createAccount_eq_ok hn).2.2.2, ih]

theorem eq_of_nil (h : s.Creates [] t) : t = s := by
  generalize hn : ([] : List Account) = created at h
  cases h with
  | nil => rfl
  | snoc _ _ => simp at hn

theorem reachable (h : s.Creates created t) (hs : s.Reachable) : t.Reachable := by
  induction h with
  | nil => exact hs
  | snoc _ hn ih => exact ih.write (.createAccount hn)

end Store.Creates

/-- The account holds what some reply of a directory says, at a time. -/
def Account.Known (a : Account) (d : Directory) (now : Int64) : Prop :=
  ∃ f name e, d.After f ∧ (f.lookup name).1 = .ok (some e) ∧ a = (e.newAccount now).withId a.id

/-- The directory moves on and the store gains accounts that the directory knows. -/
structure World.Provisions (w : World) (created : List Account) (w' : World) : Prop where
  failing : w'.failing = w.failing
  now : w'.now = w.now
  readOnly : w'.readOnly = w.readOnly
  directory : w.directory.After w'.directory
  store : w.store.Creates created w'.store
  known : ∀ a ∈ created, a.Known w.directory w.now

namespace World.Provisions
variable {w v w' : World} {created more : List Account}

theorem refl (w : World) : w.Provisions [] w :=
  ⟨rfl, rfl, rfl, .refl, .nil, by simp⟩

theorem asked (w : World) (name : String) : w.Provisions [] (w.asked name) :=
  ⟨rfl, rfl, rfl, .lookup .refl name, .nil, by simp⟩

theorem trans (h : w.Provisions created v) (k : v.Provisions more w') :
    w.Provisions (created ++ more) w' where
  failing := k.failing.trans h.failing
  now := k.now.trans h.now
  readOnly := k.readOnly.trans h.readOnly
  directory := h.directory.trans k.directory
  store := h.store.trans k.store
  known a ha := by
    obtain ha | ha := List.mem_append.1 ha
    · exact h.known a ha
    · obtain ⟨f, name, e, hf, he, hn⟩ := k.known a ha
      exact ⟨f, name, e, h.directory.trans hf, he, h.now ▸ hn⟩

end World.Provisions

/-- Whatever comes of it, the world after `provision` has gained one account or none. -/
theorem provisions_of_provision {name : String} {w w' : World}
    {r : Except ProvisionError Provisioned} (h : (provision name .trusted).run w = (r, w')) :
    ∃ created, w.Provisions created w' := by
  obtain ⟨rfl | rfl, -⟩ | ⟨e, he, h⟩ := provision_cases h
  · exact ⟨[], .refl _⟩
  · exact ⟨[], .asked w name⟩
  obtain ⟨rfl, -⟩ | ⟨-, h⟩ := accountOfEntry_cases h
  · exact ⟨[], .asked w name⟩
  obtain ⟨rfl, -⟩ | ⟨a, s, -, hs, -, rfl, -⟩ := createFromEntry_cases h
  · exact ⟨[], .asked w name⟩
  · refine ⟨[a], rfl, rfl, rfl, .lookup .refl name, Store.Creates.nil.snoc hs, ?_⟩
    intro b hb
    obtain rfl := List.mem_singleton.1 hb
    exact ⟨w.directory, name, e, .refl, he, (Store.createAccount_eq_ok hs).1⟩

end CodeReview
