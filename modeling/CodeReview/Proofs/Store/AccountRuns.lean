import CodeReview.Proofs.Account.Admission
import CodeReview.Proofs.Store.GroupRuns
set_option autoImplicit false

/-!
Runs of calls about accounts, in lists and in tables. Lists number a new account by a counter and
tables by the greatest number that is there. Accounts are never deleted, so the two are the same
number as long as there is one, and the answers are the same for mail addresses without NUL
characters, at which only tables stop to compare.
-/
namespace CodeReview

inductive AccountCall where
  | create (n : NewAccount)
  | get (id : AccountId)
  | findByUsername (name : String)
  | findByEmail (email : String)
  | findByFullName (name : String)
  | setActive (id : AccountId) (active : Bool)

inductive AccountAnswer where
  | created (a : Account)
  | account (a : Account)
  | found (a : Option Account)
  | accounts (as : List Account)
  | marked

namespace Store

/-- The answer to a call and the store after it. -/
def callAccount (s : Store) : AccountCall → Except StoreError (AccountAnswer × Store)
  | .create n => (s.createAccount n).map fun p => (.created p.1, p.2)
  | .get id => (s.getAccount id).map fun a => (.account a, s)
  | .findByUsername name => .ok (.found (s.findByUsername name), s)
  | .findByEmail email => .ok (.accounts (s.findByEmail email), s)
  | .findByFullName name => .ok (.accounts (s.findByFullName name), s)
  | .setActive id active => (s.setActive id active).map fun p => (.marked, p.2)

/-- The answers to calls made one after the other; a refused call leaves the store as it was. -/
def playAccounts (s : Store) : List AccountCall → List (Except StoreError AccountAnswer)
  | [] => []
  | c :: cs =>
    match s.callAccount c with
    | .ok (a, t) => .ok a :: t.playAccounts cs
    | .error e => .error e :: s.playAccounts cs

def isCreation : Except StoreError AccountAnswer → Bool
  | .ok (.created _) => true
  | _ => false

theorem foldl_max_append (ks : List UInt32) (n : UInt32) (m : Nat)
    (greater : ks.foldl (fun m k => max m k.toNat) m ≤ n.toNat) :
    (ks ++ [n]).foldl (fun m k => max m k.toNat) m = n.toNat := by
  rw [List.foldl_append, List.foldl_cons, List.foldl_nil]
  exact Nat.max_eq_right greater

/-- After the next number is given, the one after it comes next. -/
theorem nextNumber_snoc {first : Nat} {ns : List UInt32} {n : UInt32}
    (next : nextNumber first ns = n.toNat) : nextNumber first (ns ++ [n]) = n.toNat + 1 := by
  cases ns with
  | nil => rfl
  | cons k ks =>
    have greatest : ks.foldl (fun m k => max m k.toNat) k.toNat + 1 = n.toNat := next
    show (ks ++ [n]).foldl (fun m k => max m k.toNat) k.toNat + 1 = n.toNat + 1
    rw [foldl_max_append ks n k.toNat (by omega)]

/-- Lists and tables with the same accounts, which the counter of the lists has counted. -/
structure Tallies (m : MemoryStore) (t : TableStore) : Prop where
  accounts : t.accounts = m.accounts
  next : nextNumber firstAccount.toNat (m.accounts.map fun a => a.id.number) = m.nextAccount.toNat

namespace Tallies
variable {m : MemoryStore} {t : TableStore}

theorem empty : Tallies .empty .empty :=
  ⟨rfl, rfl⟩

theorem usernameTaken (h : Tallies m t) : t.usernameTaken = m.usernameTaken := by
  funext name
  rw [TableStore.usernameTaken, MemoryStore.usernameTaken, h.accounts]

/-- Tables give a new account the number that the counter stands at. -/
theorem createAccount_tables (h : Tallies m t) {n : NewAccount}
    (free : n.username.filter m.usernameTaken = none) :
    t.createAccount n = .ok (n.withId ⟨m.nextAccount⟩,
      { t with accounts := t.accounts ++ [n.withId ⟨m.nextAccount⟩] }) := by
  have number : column32 (nextNumber firstAccount.toNat (t.accounts.map fun a => a.id.number)) =
      .ok m.nextAccount := by
    rw [column32_eq_ok, h.accounts, h.next]
  rw [TableStore.createAccount, h.usernameTaken, free]
  dsimp only
  rw [number]

theorem create (h : Tallies m t) (n : NewAccount)
    (room : ∀ p, t.createAccount n = .ok p → m.nextAccount.toNat + 1 < UInt32.size) :
    (∃ e, m.createAccount n = .error e ∧ t.createAccount n = .error e) ∨
      ∃ a m' t', m.createAccount n = .ok (a, m') ∧ t.createAccount n = .ok (a, t') ∧
        Tallies m' t' ∧ m'.nextAccount.toNat = m.nextAccount.toNat + 1 := by
  cases taken : n.username.filter m.usernameTaken with
  | some name =>
    left
    refine ⟨.duplicateUsername name, ?_, ?_⟩
    · rw [MemoryStore.createAccount, taken]
    · rw [TableStore.createAccount, h.usernameTaken, taken]
  | none =>
    right
    have rows := h.createAccount_tables taken
    have more : m.nextAccount.toNat + 1 < UInt32.size := room _ rows
    have counted : (m.nextAccount + 1).toNat = m.nextAccount.toNat + 1 := by
      rw [UInt32.toNat_add, UInt32.toNat_one, Nat.mod_eq_of_lt more]
    let m' : MemoryStore := { m with
      accounts := m.accounts ++ [n.withId ⟨m.nextAccount⟩]
      nextAccount := m.nextAccount + 1 }
    refine ⟨_, m', _, ?_, rows, ⟨congrArg (· ++ _) h.accounts, ?_⟩, counted⟩
    · rw [MemoryStore.createAccount, taken]
      dsimp only
      rw [if_neg (Nat.ne_of_lt more)]
    · rw [List.map_append, counted]
      exact nextNumber_snoc h.next

theorem setActive (h : Tallies m t) (id : AccountId) (active : Bool) :
    (∃ e, m.setActive id active = .error e ∧ t.setActive id active = .error e) ∨
      ∃ m' t', m.setActive id active = .ok ((), m') ∧ t.setActive id active = .ok ((), t') ∧
        Tallies m' t' ∧ m'.nextAccount = m.nextAccount := by
  have known : (t.accounts.any fun a => a.id = id) = (m.account? id).isSome := by
    rw [h.accounts, MemoryStore.account?, List.isSome_find?]
  rw [MemoryStore.setActive, TableStore.setActive, known, h.accounts]
  cases m.account? id with
  | none => exact .inl ⟨_, rfl, rfl⟩
  | some a =>
    refine .inr ⟨_, _, rfl, rfl, ⟨rfl, ?_⟩, rfl⟩
    -- Marking an account leaves its number.
    rw [← h.next, List.map_map]
    congr 2
    funext b
    dsimp only [Function.comp_apply]
    split <;> rfl

theorem findByEmail (h : Tallies m t) {email : String} (plain : '\x00' ∉ email.toList) :
    t.findByEmail email = m.findByEmail email := by
  rw [TableStore.findByEmail, MemoryStore.findByEmail, h.accounts]
  refine List.filter_congr fun a _ => ?_
  congr 1
  funext mail
  rw [Bool.eq_iff_iff]
  constructor
  · intro same
    obtain folded | ⟨-, -, nul⟩ := sameFolded_of_sameMail (s := .tables t) same
    · exact folded
    · exact absurd nul plain
  · exact sameMail_of_sameFolded (.tables t)

/-- Both kinds of store refuse a call alike, or answer it alike and tally afterwards. -/
theorem step (h : Tallies m t) (c : AccountCall)
    (plain : ∀ email, c = .findByEmail email → '\x00' ∉ email.toList)
    (room : ∀ a s, (tables t).callAccount c = .ok (a, s) → isCreation (.ok a) = true →
      m.nextAccount.toNat + 1 < UInt32.size) :
    (∃ e, (memory m).callAccount c = .error e ∧ (tables t).callAccount c = .error e) ∨
      ∃ a m' t', (memory m).callAccount c = .ok (a, .memory m') ∧
        (tables t).callAccount c = .ok (a, .tables t') ∧ Tallies m' t' ∧
        m'.nextAccount.toNat = m.nextAccount.toNat + if isCreation (.ok a) then 1 else 0 := by
  cases c with
  | create n =>
    have creates : ∀ p, t.createAccount n = .ok p → m.nextAccount.toNat + 1 < UInt32.size := by
      intro p made
      refine room (.created p.1) (.tables p.2) ?_ rfl
      rw [callAccount, createAccount, made]
      rfl
    rw [callAccount, callAccount, createAccount, createAccount]
    obtain ⟨e, left, right⟩ | ⟨a, m', t', left, right, tallies, counted⟩ := h.create n creates
    · rw [left, right]
      exact .inl ⟨e, rfl, rfl⟩
    · rw [left, right]
      exact .inr ⟨.created a, m', t', rfl, rfl, tallies, counted⟩
  | get id =>
    rw [callAccount, callAccount, getAccount_congr (s := .memory m) (t := .tables t) h.accounts]
    cases (memory m).getAccount id with
    | error e => exact .inl ⟨e, rfl, rfl⟩
    | ok a => exact .inr ⟨.account a, m, t, rfl, rfl, h, rfl⟩
  | findByUsername name =>
    rw [callAccount, callAccount,
      findByUsername_congr (s := .memory m) (t := .tables t) h.accounts]
    exact .inr ⟨_, m, t, rfl, rfl, h, rfl⟩
  | findByEmail email =>
    have same : (tables t).findByEmail email = (memory m).findByEmail email :=
      h.findByEmail (plain email rfl)
    rw [callAccount, callAccount, same]
    exact .inr ⟨_, m, t, rfl, rfl, h, rfl⟩
  | findByFullName name =>
    rw [callAccount, callAccount,
      findByFullName_congr (s := .memory m) (t := .tables t) h.accounts]
    exact .inr ⟨_, m, t, rfl, rfl, h, rfl⟩
  | setActive id active =>
    rw [callAccount, callAccount, Store.setActive, Store.setActive]
    obtain ⟨e, left, right⟩ | ⟨m', t', left, right, tallies, same⟩ := h.setActive id active
    · rw [left, right]
      exact .inl ⟨e, rfl, rfl⟩
    · rw [left, right]
      exact .inr ⟨.marked, m', t', rfl, rfl, tallies, congrArg UInt32.toNat same⟩

theorem playAccounts_alike (h : Tallies m t) (calls : List AccountCall)
    (plain : ∀ email, .findByEmail email ∈ calls → '\x00' ∉ email.toList)
    (room : m.nextAccount.toNat + ((tables t).playAccounts calls).countP isCreation <
      UInt32.size) :
    (memory m).playAccounts calls = (tables t).playAccounts calls := by
  induction calls generalizing m t with
  | nil => rfl
  | cons c cs ih =>
    have later : ∀ email, .findByEmail email ∈ cs → '\x00' ∉ email.toList :=
      fun email asked => plain email (List.mem_cons_of_mem c asked)
    have first := h.step c (fun email e => plain email (e ▸ List.mem_cons_self)) ?_
    · obtain ⟨e, left, right⟩ | ⟨a, m', t', left, right, tallies, counted⟩ := first
      · rw [playAccounts, right] at room
        rw [playAccounts, playAccounts, left, right]
        exact congrArg (_ :: ·) (ih h later (by simpa [isCreation] using room))
      · rw [playAccounts, right] at room
        rw [playAccounts, playAccounts, left, right]
        refine congrArg (_ :: ·) (ih tallies later ?_)
        rw [List.countP_cons] at room
        omega
    · intro a s made creates
      rw [playAccounts, made, List.countP_cons, if_pos creates] at room
      omega

end Tallies

/-- The two kinds of store give every account call of a run the same answer, from the first number
to the last but one. -/
theorem accounts_alike (calls : List AccountCall)
    (plain : ∀ email, .findByEmail email ∈ calls → '\x00' ∉ email.toList)
    (room : firstAccount.toNat + ((tables .empty).playAccounts calls).countP isCreation <
      UInt32.size) :
    (memory .empty).playAccounts calls = (tables .empty).playAccounts calls :=
  Tallies.empty.playAccounts_alike calls plain room

/-- Two accounts, with one refused in between, and looking for them after one is marked. -/
def annAndAnother : List AccountCall :=
  [.create ⟨some "ann", none, some "A@x", true, 0⟩, .create ⟨some "ann", none, none, true, 0⟩,
    .create ⟨none, some "Ann", some "a@X", true, 0⟩, .setActive ⟨1001⟩ false,
    .findByEmail "a@x", .get ⟨1002⟩]

theorem annAndAnother_alike :
    (memory .empty).playAccounts annAndAnother = (tables .empty).playAccounts annAndAnother :=
  accounts_alike annAndAnother (by simp [annAndAnother]) (by decide)

end Store

end CodeReview
