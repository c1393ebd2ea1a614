import CodeReview.Proofs.Account.Admission
set_option autoImplicit false

/-!
Coming back to an account. Whoever was served before is served again with the same account, after
any number of other requests, unless the account was created under another name than the one that
was asked: an account is looked up by the name of the request and created under the name of the
directory's entry.
-/
namespace CodeReview
open Act

/-- The directories that lookups and checks of passwords lead to. -/
inductive Directory.Later (d : Directory) : Directory → Prop where
  | refl : Later d d
  | lookup {e : Directory} (h : Later d e) (name : String) : Later d (e.lookup name).2
  | authenticate {e : Directory} (h : Later d e) (name password : String) :
    Later d (e.authenticate name password).2

theorem Directory.Later.trans {d e f : Directory} (h : d.Later e) (k : e.Later f) : d.Later f := by
  induction k with
  | refl => exact h
  | lookup _ name ih => exact ih.lookup name
  | authenticate _ name password ih => exact ih.authenticate name password

/-- Whenever it is asked about the name, the directory has the entry. -/
def Directory.Answers (d : Directory) (name : String) (e : DirectoryEntry) : Prop :=
  ∀ f, d.Later f → (f.lookup name).1 = .ok (some e)

/-- The directory has been asked and accounts have been added; nothing else has happened that a
request for an account could notice, but for the time. -/
structure World.Serves (w v : World) : Prop where
  failing : v.failing = w.failing
  directory : w.directory.Later v.directory
  grows : w.store.Grows id v.store

namespace World.Serves
variable {u v w : World}

theorem refl (w : World) : w.Serves w :=
  ⟨rfl, .refl, .refl w.store⟩

theorem trans (h : u.Serves v) (k : v.Serves w) : u.Serves w :=
  ⟨k.failing.trans h.failing, h.directory.trans k.directory, h.grows.trans k.grows⟩

theorem at_time (w : World) (now : Int64) : w.Serves { w with now := now } :=
  ⟨rfl, .refl, .refl w.store⟩

end World.Serves

/-- Whatever comes of it, the action asks the directory and adds accounts, and does no more. -/
def Act.Enrolls {ε α : Type} (x : Act ε α) : Prop :=
  ∀ w : World, w.Serves (x.run w).2

namespace Act.Enrolls
variable {ε δ α β : Type}

theorem of_reads {x : Act ε α} (h : Reads x) : Enrolls x := by
  intro w
  rw [h w]
  exact .refl w

theorem mapError {x : Act ε α} (h : Enrolls x) (f : ε → δ) : Enrolls (x.mapError f) := h

theorem bind {x : Act ε α} {f : α → Act ε β} (hx : Enrolls x) (hf : ∀ a, Enrolls (f a)) :
    Enrolls (x >>= f) :=
  leads_bind (R := World.Serves) (fun h k => h.trans k) hx hf

end Act.Enrolls

theorem enrolls_lookupUser (name : String) : Enrolls (lookupUser name) :=
  fun w => ⟨rfl, .lookup .refl name, .refl w.store⟩

theorem enrolls_checkPassword (name password : String) : Enrolls (checkPassword name password) :=
  fun w => ⟨rfl, .authenticate .refl name password, .refl w.store⟩

theorem enrolls_createAccount (n : NewAccount) : Enrolls (createAccount n) := by
  intro w
  cases run : (createAccount n).run w with
  | mk r v =>
    cases r with
    | error e =>
      obtain rfl := world_of_write_error run
      exact .refl v
    | ok a =>
      obtain ⟨-, s, created, -, rfl⟩ := run_write_eq_ok.1 run
      exact ⟨rfl, .refl, (Store.Creates.nil.snoc created).grows⟩

theorem enrolls_checkCredentials (name : String) (credentials : Credentials) :
    Enrolls (checkCredentials name credentials) := by
  cases credentials with
  | trusted => exact .of_reads (.pure _)
  | password text =>
    exact ((enrolls_checkPassword name text).mapError _).bind fun fits =>
      .of_reads (.ite (.pure _) (.fail _))

theorem enrolls_createFromEntry (e : DirectoryEntry) : Enrolls (createFromEntry e) :=
  (Enrolls.of_reads (ungrouped_checkEmailFree e.email).reads).bind fun _ =>
    (Enrolls.of_reads fun _ => rfl).bind fun now =>
      ((enrolls_createAccount (e.newAccount now)).mapError _).bind fun _ => .of_reads (.pure _)

theorem enrolls_provision (name : String) (credentials : Credentials) :
    Enrolls (provision name credentials) := by
  unfold provision
  split
  · exact .of_reads (.fail _)
  · refine ((enrolls_lookupUser name).mapError _).bind fun found => ?_
    cases found with
    | none => exact .of_reads (.fail _)
    | some e =>
      refine (enrolls_checkCredentials name credentials).bind fun _ => ?_
      refine (Enrolls.of_reads ((ungrouped_findByUsername name).reads.mapError _)).bind ?_
      intro existing
      cases existing with
      | none => exact enrolls_createFromEntry e
      | some a => exact .of_reads (.pure _)

/-- A request for the account of a user. -/
structure Visit where
  name : String
  credentials : Credentials
  now : Int64

/-- The world after requests for accounts, whatever came of each. -/
def World.afterVisits (w : World) : List Visit → World
  | [] => w
  | v :: rest =>
    ((provision v.name v.credentials).run { w with now := v.now }).2.afterVisits rest

theorem World.serves_afterVisits (w : World) (visits : List Visit) :
    w.Serves (w.afterVisits visits) := by
  induction visits generalizing w with
  | nil => exact .refl w
  | cons v rest ih =>
    exact ((World.Serves.at_time w v.now).trans
      (enrolls_provision v.name v.credentials { w with now := v.now })).trans (ih _)

/-- From now on, after any requests for accounts and at any time, the name leads to the account,
which is not a new one, and the store stays as it is. -/
def World.Returns (w : World) (name : String) (id : AccountId) : Prop :=
  ∀ visits now, ∃ v,
    (provision name .trusted).run { w.afterVisits visits with now := now } = (.ok ⟨id, false⟩, v) ∧
      v.store = (w.afterVisits visits).store

section
variable {name : String} {w w' : World} {p : Provisioned} {e : DirectoryEntry}

theorem valid_of_provision {credentials : Credentials}
    (h : (provision name credentials).run w = (.ok p, w')) : isValidUsername name = true := by
  rw [← Bool.not_eq_false]
  intro invalid
  rw [provision, invalid] at h
  cases h

/-- An account that has the name is found in any world that follows. -/
theorem provision_of_existing {v : World} {a : Account} (valid : isValidUsername name = true)
    (answers : w.directory.Answers name e) (works : .findByUsername ∉ w.failing)
    (found : w.store.findByUsername name = some a) (serves : w.Serves v) :
    (provision name .trusted).run v = (.ok ⟨a.id, false⟩, v.asked name) := by
  rw [run_provision valid, answers v.directory serves.directory]
  refine accountOfEntry_of_existing ?_ (serves.grows.findByUsername found)
  rw [World.asked_failing, serves.failing]
  exact works

theorem returns_of_existing {a : Account} (valid : isValidUsername name = true)
    (answers : w.directory.Answers name e) (works : .findByUsername ∉ w.failing)
    (found : w.store.findByUsername name = some a) : w.Returns name a.id :=
  fun visits now => ⟨_, provision_of_existing valid answers works found
    ((w.serves_afterVisits visits).trans (.at_time _ now)), rfl⟩

/-- What being served for the first time says: the account was there under the name, or it was
created from the entry. -/
theorem provision_served (h : (provision name .trusted).run w = (.ok p, w'))
    (answers : w.directory.Answers name e) :
    .findByUsername ∉ w.failing ∧
      ((∃ a, w.store.findByUsername name = some a ∧ w' = w.asked name ∧ p = ⟨a.id, false⟩) ∨
        ∃ a s, w.store.findByUsername name = none ∧ .createAccount ∉ w.failing ∧
          w.store.createAccount (e.newAccount w.now) = .ok (a, s) ∧
          w' = { w.asked name with store := s } ∧ p = ⟨a.id, true⟩) := by
  obtain ⟨-, none⟩ | ⟨f, entry, made⟩ := provision_cases h
  · exact absurd rfl (none p)
  rw [answers w.directory .refl] at entry
  cases entry
  have works : .findByUsername ∉ w.failing := by
    intro fails
    rw [accountOfEntry, checkCredentials, run_bind_of_ok (run_pure () _), run_bind, run_mapError,
      findByUsername, run_read, World.asked_failing, if_pos fails] at made
    cases made
  refine ⟨works, ?_⟩
  obtain ⟨rfl, existing⟩ | ⟨absent, created⟩ := accountOfEntry_cases made
  · obtain ⟨a, -, found, rfl⟩ := existing p rfl
    exact .inl ⟨a, found, rfl, rfl⟩
  · obtain ⟨-, none⟩ | ⟨a, s, works, creation, -, rfl, result⟩ := createFromEntry_cases created
    · exact absurd rfl (none p)
    cases result
    exact .inr ⟨a, s, absent, works, creation, rfl, rfl⟩

/-- Whoever was served is served again for ever, exactly where the account was there before or
was created under the name that was asked. -/
theorem returns_iff_named (first : (provision name .trusted).run w = (.ok p, w'))
    (answers : w.directory.Answers name e) :
    w'.Returns name p.account ↔ (p.isNew = true → e.username = name) := by
  have valid := valid_of_provision first
  have serves : w.Serves w' := by
    have enrolls := enrolls_provision name .trusted w
    rwa [first] at enrolls
  have still : w'.directory.Answers name e :=
    fun f later => answers f (serves.directory.trans later)
  obtain ⟨works, served⟩ := provision_served first answers
  have unfailing : .findByUsername ∉ w'.failing := by
    rw [serves.failing]
    exact works
  obtain ⟨a, found, -, rfl⟩ | ⟨a, s, absent, -, creation, rfl, rfl⟩ := served
  · have again := returns_of_existing valid still unfailing (serves.grows.findByUsername found)
    exact ⟨fun _ new => absurd new Bool.false_ne_true, fun _ => again⟩
  · constructor
    · intro returns _
      by_contra renamed
      -- Nothing has happened in between, and still the name leads nowhere.
      obtain ⟨v, again, -⟩ := returns [] w.now
      obtain ⟨-, ⟨b, found, -⟩ | ⟨b, t, -, -, -, -, result⟩⟩ := provision_served again still
      · have none := Store.findByUsername_createAccount absent creation
        have other : (e.newAccount w.now).username ≠ some name :=
          fun same => renamed (Option.some.inj same)
        rw [show s.findByUsername name = some b from found, if_neg other] at none
        cases none
      · exact absurd (congrArg Provisioned.isNew result) Bool.false_ne_true
    · intro named
      have found : s.findByUsername name = some a := by
        rw [Store.findByUsername_createAccount absent creation]
        exact if_pos (congrArg some (named rfl))
      exact returns_of_existing valid still unfailing found

end

/-- Scripts keep their replies. -/
theorem Directory.Later.eq_scripted {s : Script} {f : Directory}
    (h : (Directory.scripted s).Later f) :
    ∃ t : Script, f = .scripted t ∧ t.lookups = s.lookups := by
  induction h with
  | refl => exact ⟨s, rfl, rfl⟩
  | lookup _ name ih =>
    obtain ⟨t, rfl, same⟩ := ih
    exact ⟨_, rfl, same⟩
  | authenticate _ name password ih =>
    obtain ⟨t, rfl, same⟩ := ih
    exact ⟨_, rfl, same⟩

theorem scriptedReply_singleton {α : Type} (r : α) (earlier : Nat) :
    scriptedReply [r] earlier = some r := by
  cases earlier <;> rfl

/-- A name with one reply in the script has that reply for ever. -/
theorem Directory.answers_scripted {s : Script} {name : String} {e : DirectoryEntry}
    (h : s.lookups.find? (fun p => p.1 = name) = some (name, [.ok (some e)])) :
    (Directory.scripted s).Answers name e := by
  intro f later
  obtain ⟨t, rfl, same⟩ := later.eq_scripted
  show (scriptedReply (((t.lookups.find? fun p => p.1 = name).map Prod.snd).getD []) _).getD _ = _
  rw [same, h, Option.map_some, Option.getD_some, scriptedReply_singleton, Option.getD_some]

/-- An empty store and a directory that knows one user, under any spelling of the name. -/
def anySpelling : World where
  store := .memory .empty
  failing := []
  directory := .scripted
    { lookups := [("dana", [.ok (some ⟨"dana", none, none⟩)]),
        ("Dana", [.ok (some ⟨"dana", none, none⟩)])]
      passwords := []
      lookedUp := []
      checked := [] }
  now := 0
  readOnly := false

/-- Dana is given an account that she does not find again. -/
theorem capital_not_returned :
    anySpelling.directory.Answers "Dana" ⟨"dana", none, none⟩ ∧
      ∃ w', (provision "Dana" .trusted).run anySpelling = (.ok ⟨⟨1000⟩, true⟩, w') ∧
        ((provision "Dana" .trusted).run w').1 = .error (.duplicateUsername "dana") ∧
        ¬w'.Returns "Dana" ⟨1000⟩ := by
  have again : ((provision "Dana" .trusted).run
      ((provision "Dana" .trusted).run anySpelling).2).1 = .error (.duplicateUsername "dana") := by
    decide
  refine ⟨Directory.answers_scripted rfl, _, rfl, again, fun returns => ?_⟩
  obtain ⟨v, run, -⟩ := returns [] 0
  exact absurd (again.symm.trans (congrArg Prod.fst run)) (by simp)

/-- In the spelling of the directory she does. -/
theorem small_letters_returned :
    ∃ w', (provision "dana" .trusted).run anySpelling = (.ok ⟨⟨1000⟩, true⟩, w') ∧
      w'.Returns "dana" ⟨1000⟩ := by
  have first : (provision "dana" .trusted).run anySpelling =
      (.ok ⟨⟨1000⟩, true⟩, ((provision "dana" .trusted).run anySpelling).2) := rfl
  have answers : anySpelling.directory.Answers "dana" ⟨"dana", none, none⟩ :=
    Directory.answers_scripted rfl
  exact ⟨_, first, (returns_iff_named first answers).2 fun _ => rfl⟩

end CodeReview
