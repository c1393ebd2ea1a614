import CodeReview.Account.Resolve
import CodeReview.Proofs.Account.Provisioning
set_option autoImplicit false

/-!
Which names a directory is asked about. Wherever an account is looked for, the directory is asked
about the text that the account was asked for by, and only where that text is a username.
-/
namespace CodeReview
open Act

/-- The directories that look-ups of certain names lead to. No password is checked on the way. -/
inductive Directory.Asked (named : String → Prop) (d : Directory) : Directory → Prop where
  | refl : Asked named d d
  | lookup {e : Directory} (h : Asked named d e) {name : String} (known : named name) :
    Asked named d (e.lookup name).2

namespace Directory.Asked
variable {named : String → Prop} {d e f : Directory}

theorem trans (h : d.Asked named e) (k : e.Asked named f) : d.Asked named f := by
  induction k with
  | refl => exact h
  | lookup _ known ih => exact ih.lookup known

theorem mono {more : String → Prop} (h : d.Asked named e)
    (all : ∀ name, named name → more name) : d.Asked more e := by
  induction h with
  | refl => exact .refl
  | lookup _ known ih => exact ih.lookup (all _ known)

end Directory.Asked

/-- Whatever comes of it, the action asks the directory about certain names, and for no more. -/
def Act.AsksOnly {ε α : Type} (named : String → Prop) (x : Act ε α) : Prop :=
  ∀ w : World, w.directory.Asked named (x.run w).2.directory

namespace Act.AsksOnly
variable {ε δ α β : Type} {named : String → Prop}

theorem of_reads {x : Act ε α} (h : Reads x) : AsksOnly named x := by
  intro w
  rw [h w]
  exact .refl

theorem mono {more : String → Prop} {x : Act ε α} (h : AsksOnly named x)
    (all : ∀ name, named name → more name) : AsksOnly more x :=
  fun w => (h w).mono all

theorem mapError {x : Act ε α} (h : AsksOnly named x) (f : ε → δ) :
    AsksOnly named (x.mapError f) := h

theorem outcome {x : Act ε α} (h : AsksOnly named x) :
    AsksOnly named (x.outcome : Act δ (Except ε α)) := h

theorem bind {x : Act ε α} {f : α → Act ε β} (hx : AsksOnly named x)
    (hf : ∀ a, AsksOnly named (f a)) : AsksOnly named (x >>= f) :=
  leads_bind (R := fun w v => w.directory.Asked named v.directory) (fun h k => h.trans k) hx hf

theorem bind_ofExcept {q : Except ε α} {f : α → Act ε β}
    (hf : ∀ a, q = .ok a → AsksOnly named (f a)) : AsksOnly named (Act.ofExcept q >>= f) := by
  cases q with
  | error e => exact fun _ => .refl
  | ok a => exact hf a rfl

/-- Writing calls leave the directory alone. -/
theorem write (call : StoreCall) (f : Store → Except StoreError (α × Store)) :
    AsksOnly named (Act.write call f) := by
  intro w
  cases run : (Act.write call f).run w with
  | mk r v =>
    cases r with
    | error e =>
      obtain rfl := world_of_write_error run
      exact .refl
    | ok a =>
      obtain ⟨-, s, -, -, rfl⟩ := run_write_eq_ok.1 run
      exact .refl

theorem lookupUser {name : String} (known : named name) : AsksOnly named (lookupUser name) :=
  fun _ => .lookup .refl known

end Act.AsksOnly

section
variable {named : String → Prop} {name : String}

theorem asksOnly_createFromEntry (e : DirectoryEntry) : AsksOnly named (createFromEntry e) :=
  (AsksOnly.of_reads (ungrouped_checkEmailFree e.email).reads).bind fun _ =>
    (AsksOnly.of_reads fun _ => rfl).bind fun _ =>
      ((AsksOnly.write _ _).mapError _).bind fun _ => .of_reads (.pure _)

/-- Users who need no password are looked up and not checked. -/
theorem asksOnly_provision (known : named name) : AsksOnly named (provision name .trusted) := by
  unfold provision
  split
  · exact .of_reads (.fail _)
  · refine ((AsksOnly.lookupUser known).mapError _).bind fun found => ?_
    cases found with
    | none => exact .of_reads (.fail _)
    | some e =>
      refine (AsksOnly.of_reads (.pure ())).bind fun _ => ?_
      refine (AsksOnly.of_reads ((ungrouped_findByUsername name).reads.mapError _)).bind ?_
      intro existing
      cases existing with
      | none => exact asksOnly_createFromEntry e
      | some a => exact .of_reads (.pure _)

theorem asksOnly_resolveInDirectory (known : named name) (missing : ApiError) :
    AsksOnly named (resolveInDirectory name missing) := by
  refine (AsksOnly.lookupUser known).outcome.bind fun reply => ?_
  split
  · exact .of_reads (.fail _)
  · exact .of_reads (.fail _)
  · exact .of_reads (.fail _)
  · refine (asksOnly_provision known).outcome.bind fun made => ?_
    split
    · exact .of_reads ((ungrouped_getAccount _).reads.mapError _)
    · exact .of_reads (.fail _)
    · exact .of_reads (.fail _)

end

/-- The directory is asked about a token without the blanks around it, if that is a username. -/
theorem asksOnly_resolveAccount (settings : Settings) (caller : Caller) (token : String) :
    AsksOnly (fun name => name = Text.trim token ∧ isValidUsername name = true)
      (resolveAccount settings caller token) := by
  refine (AsksOnly.of_reads (reads_lookupAccounts settings caller _)).bind fun found => ?_
  split
  · exact .of_reads (.pure _)
  · split
    · next asks =>
      simp only [Bool.and_eq_true] at asks
      exact asksOnly_resolveInDirectory ⟨rfl, asks.2⟩ _
    · exact .of_reads (.fail _)

end CodeReview
