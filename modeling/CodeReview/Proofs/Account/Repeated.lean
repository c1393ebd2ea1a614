import CodeReview.Proofs.Account.Matching
import CodeReview.Proofs.Account.Returning
set_option autoImplicit false

/-!
Resolving a token once more, after a request that resolved it has added accounts and members. The
token leads to the same account again, unless an account that is new or newly seen matches it as
well, or the account itself cannot be seen or does not answer to the token.
-/
namespace CodeReview
open Act

/-- The same question has the same answer at any time. -/
def Directory.Steady (d : Directory) : Prop :=
  ∀ e, d.After e → ∀ name, (e.lookup name).1 = (d.lookup name).1

theorem Directory.After.eq_of_listed {users : List ListedUser} {e : Directory}
    (h : (Directory.listed users).After e) : e = .listed users := by
  induction h with
  | refl => rfl
  | lookup _ name ih =>
    rw [ih]
    rfl

theorem Directory.steady_listed (users : List ListedUser) : (Directory.listed users).Steady :=
  fun _ after name => by rw [after.eq_of_listed]

theorem Directory.Steady.after {d e : Directory} (h : d.Steady) (after : d.After e) : e.Steady :=
  fun f hf name => (h f (after.trans hf) name).trans (h e after name).symm

theorem Directory.After.later {d e : Directory} (h : d.After e) : d.Later e := by
  induction h with
  | refl => exact .refl
  | lookup _ name ih => exact ih.lookup name

/-- A script with one reply for each name does not change its answers. -/
theorem Directory.steady_scripted {s : Script}
    (single : ∀ p ∈ s.lookups, ∃ reply, p.2 = [reply]) : (Directory.scripted s).Steady := by
  intro e after name
  obtain ⟨t, rfl, same⟩ := after.later.eq_scripted
  have reply (u : Script) : ((Directory.scripted u).lookup name).1 = (u.lookup name).1 := rfl
  rw [reply, reply, Script.lookup, Script.lookup, same]
  dsimp only
  cases found : s.lookups.find? fun p => p.1 = name with
  | none => rfl
  | some p =>
    obtain ⟨only, one⟩ := single p (List.mem_of_find?_eq_some found)
    simp only [Option.map_some, Option.getD_some, one, scriptedReply_singleton]

/-- The account is one of those that a token other than `self` matches in a world. -/
def World.Matches (w : World) (token : String) (a : Account) : Prop :=
  Text.trim token ≠ "self" ∧
    ∃ found, (candidates (Text.trim token)).run w = (.ok found, w) ∧ a ∈ found

/-- The accounts that are new or newly seen in the later world do not come between a token and the
account that it was resolved to: none of them is seen to match the token besides that account, and
a new one matches the token only if that account does too and is seen. Where nothing matches the
token, the account has it as its username, so that the directory leads to the account again. -/
structure Settled (settings : Settings) (caller : Caller) (w later : World) (token : String)
    (a : Account) : Prop where
  alone : ∀ b, later.Matches token b → Sees settings caller later b →
    (b ∉ w.store.accounts ∨ ¬Sees settings caller w b) → b = a
  present : ∀ b, later.Matches token b → b ∉ w.store.accounts →
    later.Matches token a ∧ Sees settings caller later a
  known : Text.trim token ≠ "self" → (∀ b, ¬later.Matches token b) →
    later.store.findByUsername (Text.trim token) = some a

/-- Nothing comes between a token and the one account that matches it and is seen. -/
theorem Settled.of_single {settings : Settings} {caller : Caller} {w later : World}
    {token : String} {a : Account} (other : Text.trim token ≠ "self")
    (single : ((candidates (Text.trim token)).run later).1 = .ok [a])
    (seen : Sees settings caller later a) : Settled settings caller w later token a where
  alone b matched _ _ := by
    obtain ⟨-, found, run, mem⟩ := matched
    rw [run] at single
    obtain rfl := Except.ok.inj single
    exact List.mem_singleton.1 mem
  present _ _ _ :=
    ⟨⟨other, [a], Prod.ext single ((ungrouped_candidates _).reads later),
      List.mem_singleton_self a⟩, seen⟩
  known _ none :=
    absurd ⟨other, [a], Prod.ext single ((ungrouped_candidates _).reads later),
      List.mem_singleton_self a⟩ (none a)

/-- The same, told by the stores. -/
structure Store.Settled (settings : Settings) (caller : Caller) (s t : Store) (token : String)
    (a : Account) : Prop where
  alone : ∀ b ∈ t.matching (Text.trim token), t.shows settings caller b = true →
    (b ∉ s.accounts ∨ s.shows settings caller b = false) → b = a
  present : ∀ b ∈ t.matching (Text.trim token), b ∉ s.accounts →
    a ∈ t.matching (Text.trim token) ∧ t.shows settings caller a = true
  known : t.matching (Text.trim token) = [] → t.findByUsername (Text.trim token) = some a

section
variable {settings : Settings} {caller : Caller} {token : String} {w v v' x : World} {a : Account}

theorem matches_iff (hf : w.failing = []) :
    w.Matches token a ↔
      Text.trim token ≠ "self" ∧ a ∈ w.store.matching (Text.trim token) := by
  simp only [World.Matches, run_candidates hf, Prod.mk.injEq, Except.ok.injEq, and_true,
    exists_eq_left']

theorem Settled.stores (h : Settled settings caller w x token a) (hw : w.failing = [])
    (hx : x.failing = []) (other : Text.trim token ≠ "self") :
    w.store.Settled settings caller x.store token a where
  alone b hb seen new := by
    refine h.alone b ((matches_iff hx).2 ⟨other, hb⟩) ((sees_iff hx b).2 seen) ?_
    rwa [sees_iff hw, Bool.not_eq_true]
  present b hb new := by
    obtain ⟨matched, seen⟩ := h.present b ((matches_iff hx).2 ⟨other, hb⟩) new
    exact ⟨((matches_iff hx).1 matched).2, (sees_iff hx a).1 seen⟩
  known none := by
    refine h.known other fun b matched => ?_
    have mem := ((matches_iff hx).1 matched).2
    rw [none] at mem
    cases mem

theorem filter_eq_singleton {l : List Account} {p : Account → Bool} (nodup : l.Nodup)
    (ha : a ∈ l) (hp : p a = true) (only : ∀ b ∈ l, p b = true → b = a) : l.filter p = [a] := by
  have same : l.filter p = l.filter fun b => b = a := by
    refine List.filter_congr fun b hb => ?_
    rw [Bool.eq_iff_iff, decide_eq_true_iff]
    exact ⟨only b hb, fun e => e ▸ hp⟩
  rw [same, List.filter_eq, nodup.count, if_pos ha, List.replicate_one]

end

namespace Store
variable {settings : Settings} {caller : Caller} {token : String} {widen : Group → Group}
  {r s t : Store} {a : Account}

theorem Numbered.nodup (hs : s.Numbered) : s.accounts.Nodup :=
  hs.distinct.imp fun ne e => ne (congrArg Account.id e)

theorem nodup_matching (hs : s.Numbered) (token : String) : (s.matching token).Nodup :=
  hs.nodup.sublist ((lasting_search s.sameMail token).sublist s.accounts)

/-- Stores of one kind compare mail addresses alike. -/
theorem sameMail_of_inLists (kind : t.inLists = s.inLists) : t.sameMail = s.sameMail := by
  cases s with
  | memory m =>
    cases t with
    | memory n => rfl
    | tables n => cases kind
  | tables m =>
    cases t with
    | memory n => cases kind
    | tables n => rfl

theorem Grows.sameMail (h : s.Grows widen t) : t.sameMail = s.sameMail :=
  sameMail_of_inLists h.kind

/-- An account that was there and matches later has matched before. -/
theorem Grows.old (h : s.Grows widen t) {token : String} (ha : a ∈ t.matching token)
    (hs : a ∈ s.accounts) : a ∈ s.matching token := by
  obtain ⟨more, accounts⟩ := h.accounts
  rw [matching, accounts, h.sameMail] at ha
  exact (lasting_search s.sameMail token).old s.accounts more a ha hs

/-- A match is only lost to an account that is new. -/
theorem Grows.kept (h : s.Grows widen t) (ht : t.Numbered) {token : String}
    (ha : a ∈ s.matching token) :
    a ∈ t.matching token ∨ ∃ b ∈ t.matching token, b ∉ s.accounts := by
  obtain ⟨more, accounts⟩ := h.accounts
  have nodup := ht.nodup
  rw [accounts] at nodup
  rw [matching, accounts, h.sameMail]
  rcases (lasting_search s.sameMail token).kept s.accounts more a ha with same | ⟨b, hm, hb⟩
  · exact .inl same
  · exact .inr ⟨b, hb, fun hs => (List.nodup_append.1 nodup).2.2 b hs b hm rfl⟩

/-- The one match that was shown is the one that is shown later. -/
theorem Grows.shown_again (h : s.Grows widen t) (hs : s.Tidy) (ht : t.Tidy) (numbered : t.Numbered)
    (sub : ∀ b ∈ r.accounts, b ∈ s.accounts)
    (same : ∀ b, s.shows settings caller b = r.shows settings caller b)
    (settled : r.Settled settings caller t token a)
    (shown : (s.matching (Text.trim token)).filter (s.shows settings caller) = [a]) :
    (t.matching (Text.trim token)).filter (t.shows settings caller) = [a] := by
  have one : a ∈ (s.matching (Text.trim token)).filter (s.shows settings caller) := by simp [shown]
  obtain ⟨matched, seen⟩ := List.mem_filter.1 one
  refine filter_eq_singleton (nodup_matching numbered _) ?_
    (shows_of_widens hs ht h.widens h.groups seen) ?_
  · rcases h.kept numbered matched with still | ⟨b, hb, new⟩
    · exact still
    · exact (settled.present b hb fun hr => new (sub b hr)).1
  · intro b hb visible
    by_cases there : b ∈ r.accounts
    · cases before : r.shows settings caller b with
      | false => exact settled.alone b hb visible (.inr before)
      | true =>
        have earlier := h.old hb (sub b there)
        have mem := List.mem_filter.2 ⟨earlier, (same b).trans before⟩
        rw [shown] at mem
        exact List.mem_singleton.1 mem
    · exact settled.alone b hb visible (.inl there)

/-- Where nothing matched, either nothing matches later or just one account is seen to match. -/
theorem Grows.nothing_or_shown (h : s.Grows widen t) (numbered : t.Numbered)
    (sub : ∀ b ∈ r.accounts, b ∈ s.accounts) (settled : r.Settled settings caller t token a)
    (nothing : s.matching (Text.trim token) = []) :
    t.matching (Text.trim token) = [] ∨
      (t.matching (Text.trim token)).filter (t.shows settings caller) = [a] := by
  have new : ∀ b ∈ t.matching (Text.trim token), b ∉ r.accounts := by
    intro b hb hr
    have old := h.old hb (sub b hr)
    rw [nothing] at old
    cases old
  by_cases none : t.matching (Text.trim token) = []
  · exact .inl none
  · right
    obtain ⟨b, hb⟩ := List.exists_mem_of_ne_nil _ none
    obtain ⟨matched, seen⟩ := settled.present b hb (new b hb)
    exact filter_eq_singleton (nodup_matching numbered _) matched seen
      fun c hc visible => settled.alone c hc visible (.inl (new c hc))

end Store

section
variable {settings : Settings} {caller : Caller} {token name : String} {widen : Group → Group}
  {w w' v v' x : World} {a : Account}

theorem resolveAccount_of_shown {m : Matches}
    (lookup : (lookupAccounts settings caller token).run x = (.ok m, x)) (one : m.visible = [a]) :
    (resolveAccount settings caller token).run x = (.ok a, x) := by
  have found : m.unique (Text.trim token) = .ok a := unique_eq_ok.2 one
  rw [run_resolveAccount, lookupAccounts_trim, lookup]
  dsimp only
  rw [found]

theorem visible_of_lookup {m : Matches} (hf : w.failing = []) (other : Text.trim token ≠ "self")
    (h : (lookupAccounts settings caller token).run w = (.ok m, w)) :
    m.visible = (w.store.matching (Text.trim token)).filter (w.store.shows settings caller) := by
  rw [run_lookupAccounts hf other] at h
  rw [← Except.ok.inj (Prod.mk.inj h).1]

theorem resolveAccount_of_match (hf : x.failing = []) (other : Text.trim token ≠ "self")
    (one : (x.store.matching (Text.trim token)).filter (x.store.shows settings caller) = [a]) :
    (resolveAccount settings caller token).run x = (.ok a, x) := by
  have lookup : (lookupAccounts settings caller token).run x = _ := run_lookupAccounts hf other
  rw [one] at lookup
  exact resolveAccount_of_shown lookup rfl

/-- Where no account is created, the directory leads to the account that has the name. -/
theorem named_of_resolveInDirectory {missing : ApiError} (hs : v.store.Reachable)
    (h : (resolveInDirectory name missing).run v = (.ok a, v')) (same : v'.store = v.store) :
    v.store.findByUsername name = some a := by
  obtain ⟨-, p, provisioned, -, known⟩ := resolveInDirectory_eq_ok.1 h
  obtain ⟨-, none⟩ | ⟨e, entry, made⟩ := provision_cases provisioned
  · exact absurd rfl (none p)
  obtain ⟨rfl, existing⟩ | ⟨absent, created⟩ := accountOfEntry_cases made
  · obtain ⟨b, -, found, rfl⟩ := existing p rfl
    have mem := (Store.mem_of_findByUsername found).1
    have stored : v.store.getAccount b.id = .ok b := hs.numbered.getAccount_of_mem mem
    rw [show v.store.getAccount b.id = .ok a from known] at stored
    cases stored
    exact found
  · obtain ⟨-, none⟩ | ⟨b, s, -, creation, -, rfl, -⟩ := createFromEntry_cases created
    · exact absurd rfl (none p)
    obtain ⟨-, accounts, -, -⟩ := Store.createAccount_eq_ok creation
    have longer : s.accounts = v.store.accounts := congrArg Store.accounts same
    rw [accounts] at longer
    simpa using congrArg List.length longer

/-- Two worlds between which requests were answered, with a directory that does not change its
answers and no call that fails. -/
structure World.Past (w x : World) : Prop where
  before : w.store.Reachable
  after : x.store.Reachable
  accounts : ∃ created, x.store.accounts = w.store.accounts ++ created
  works : w.failing = [] ∧ x.failing = []
  steady : w.directory.Steady
  directory : w.directory.After x.directory

theorem World.Past.next (h : w.Past x) {x' : World} (same : x.Provisions [] x') : w.Past x' where
  before := h.before
  after := same.store.reachable h.after
  accounts := by rw [same.store.eq_of_nil]; exact h.accounts
  works := ⟨h.works.1, same.failing.trans h.works.2⟩
  steady := h.steady
  directory := h.directory.trans same.directory

theorem settled_of_shown {s t : Store}
    (shown : (t.matching (Text.trim token)).filter (t.shows settings caller) = [a]) :
    s.Settled settings caller t token a where
  alone b hb seen _ := by
    have mem := List.mem_filter.2 ⟨hb, seen⟩
    rw [shown] at mem
    exact List.mem_singleton.1 mem
  present b hb new := by
    have mem : a ∈ (t.matching (Text.trim token)).filter (t.shows settings caller) := by
      simp [shown]
    exact List.mem_filter.1 mem
  known none := by
    rw [none] at shown
    cases shown

theorem no_match_of_lookup (hf : w.failing = [])
    (h : (lookupAccounts settings caller (Text.trim token)).run w = (.ok ⟨[], 0⟩, w')) :
    Text.trim token ≠ "self" ∧ w.store.matching (Text.trim token) = [] := by
  rw [lookupAccounts_trim] at h
  have found := no_candidates_of_lookup h
  rw [run_candidates hf] at found
  refine ⟨fun self => ?_, Except.ok.inj (Prod.mk.inj found).1⟩
  rcases lookupAccounts_eq_ok h with ⟨-, c, -, empty⟩ | ⟨other, -⟩
  · cases empty
  · exact other self

/-- A token that a world met on the way resolved is resolved to the same account later exactly
where no account has come between. The store stays as it is then. -/
theorem resolveAccount_again_iff {created : List Account} (past : w.Past x)
    (way : w.Provisions created v) (grows : v'.store.Grows widen x.store)
    (h : (resolveAccount settings caller token).run v = (.ok a, v')) :
    (∃ x', (resolveAccount settings caller token).run x = (.ok a, x') ∧ x.Provisions [] x') ↔
      (Text.trim token ≠ "self" → w.store.Settled settings caller x.store token a) := by
  have hx : x.failing = [] := past.works.2
  constructor
  · rintro ⟨x', again, made⟩ other
    rcases resolveAccount_eq_ok again with ⟨-, m, lookup, one⟩ | ⟨-, -, nothing, _, led⟩
    · rw [lookupAccounts_trim] at lookup
      rw [visible_of_lookup hx other lookup] at one
      exact settled_of_shown one
    · have none := (no_match_of_lookup hx nothing).2
      exact ⟨by simp [none], by simp [none], fun _ =>
        named_of_resolveInDirectory past.after led made.store.eq_of_nil⟩
  intro settled
  have hs : v.store.Reachable := way.store.reachable past.before
  have hv : v.failing = [] := way.failing.trans past.works.1
  have sub : ∀ b ∈ w.store.accounts, b ∈ v.store.accounts := fun b hb => by
    simp [way.store.accounts, hb]
  rcases resolveAccount_eq_ok h with ⟨rfl, m, lookup, one⟩ | ⟨uses, valid, nothing, missing, made⟩
  · refine ⟨x, ?_, .refl x⟩
    rw [lookupAccounts_trim] at lookup
    by_cases self : Text.trim token = "self"
    · rcases lookupAccounts_eq_ok lookup with ⟨-, c, rfl, rfl⟩ | ⟨other, -⟩
      · obtain rfl := List.singleton_inj.1 one
        refine resolveAccount_of_shown (m := ⟨[c], 0⟩) ?_ rfl
        rw [lookupAccounts, if_pos self]
        rfl
      · exact absurd self other
    · rw [visible_of_lookup hv self lookup] at one
      have same := Store.shows_of_groups past.before.tidy hs.tidy way.store.groups settings caller
      have shown := grows.shown_again hs.tidy past.after.tidy past.after.numbered sub same
        (settled self) one
      exact resolveAccount_of_match hx self shown
  · obtain ⟨other, none⟩ := no_match_of_lookup hv nothing
    obtain ⟨more, gained⟩ := provisions_of_resolveInDirectory made
    have growth : v.store.Grows widen x.store := gained.store.grows.trans grows
    -- A number that is nobody's id finds nothing even when an account has it as its username.
    rcases growth.nothing_or_shown past.after.numbered sub (settled other) none with empty | one
    · have lookup : (lookupAccounts settings caller token).run x = _ :=
        run_lookupAccounts hx other
      rw [empty] at lookup
      obtain ⟨⟨e, entry⟩, -⟩ := resolveInDirectory_eq_ok.1 made
      have answers : ∀ d, w.directory.After d →
          (d.lookup (Text.trim token)).1 = .ok (some e) := fun d after => by
        rw [past.steady d after, ← past.steady _ way.directory, entry]
      exact resolveAccount_of_named (by simp [hx]) past.after.numbered uses valid lookup
        ⟨e, answers _ past.directory⟩ ⟨e, answers _ (past.directory.lookup _)⟩
        ((settled other).known empty)
    · exact ⟨x, resolveAccount_of_match hx other one, .refl x⟩

end

end CodeReview
