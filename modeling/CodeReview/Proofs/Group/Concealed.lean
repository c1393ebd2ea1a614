import CodeReview.Proofs.Group.Membership
import CodeReview.Proofs.Group.Opening
import CodeReview.Proofs.Store.Deletion
set_option autoImplicit false

/-!
A group that the caller may not see. What the caller sees of the store, opens in it and may do
there is the same when the group is deleted: the caller is no member of it, owns nothing by it and
cannot have it as the group of administrators.
-/
namespace CodeReview
open Act

/-- A group of a store that the caller may not see. No other group has its number, or a name that
reads as its number. -/
structure Store.Conceals (settings : Settings) (caller : Caller) (s : Store) (g : Group) :
    Prop where
  reachable : s.Reachable
  there : g ∈ s.groups
  number : ∀ h ∈ s.groups, h.id = g.id → h = g
  name : ∀ h ∈ s.groups, GroupNumber.parse? h.name = some g.id → h = g
  unseen : (s.accessTo settings caller g).isVisible = false

namespace Store.Conceals
variable {settings : Settings} {caller : Caller} {s : Store} {g h : Group} {viewer : AccountId}

theorem eq_of_uuid (c : s.Conceals settings caller g) (hh : h ∈ s.groups) (e : h.uuid = g.uuid) :
    h = g :=
  eq_of_distinct c.reachable.distinct.uuids hh c.there e

theorem eq_of_name (c : s.Conceals settings caller g) (hh : h ∈ s.groups) (e : h.name = g.name) :
    h = g :=
  eq_of_distinct c.reachable.distinct.names hh c.there e

/-- Without the group the first of some kind is the same, unless the group is of that kind. -/
theorem find?_without (c : s.Conceals settings caller g) {p : Group → Bool} (other : p g = false) :
    (s.without g.uuid).groups.find? p = s.groups.find? p := by
  rw [groups_without]
  refine find?_filter_of_imp fun h hh hp => ?_
  have ne : h.uuid ≠ g.uuid := fun e => by
    rw [c.eq_of_uuid hh e, other] at hp
    cases hp
  simpa using ne

/-- A group that is the only one of some kind leaves none of it. -/
theorem find?_only (c : s.Conceals settings caller g) {p : Group → Bool} (here : p g = true)
    (only : ∀ h ∈ s.groups, p h = true → h = g) :
    s.groups.find? p = some g ∧ (s.without g.uuid).groups.find? p = none := by
  constructor
  · cases found : s.groups.find? p with
    | none => exact absurd here (List.find?_eq_none.1 found g c.there)
    | some h => rw [only h (List.mem_of_find?_eq_some found) (List.find?_some found)]
  · refine List.find?_eq_none.2 fun h hh hp => ?_
    obtain ⟨hh, ne⟩ := mem_groups_without.1 hh
    exact ne (congrArg Group.uuid (only h hh hp))

/-- By a key that no other group shares the same group is found as before, or it was the hidden
group and none is found. -/
theorem find?_key (c : s.Conceals settings caller g) {β : Type} [DecidableEq β] {key : Group → β}
    (only : ∀ h ∈ s.groups, key h = key g → h = g) (k : β) :
    (s.groups.find? (fun h => key h = k) = some g ∧
        (s.without g.uuid).groups.find? (fun h => key h = k) = none) ∨
      (s.without g.uuid).groups.find? (fun h => key h = k) =
        s.groups.find? (fun h => key h = k) ∧ s.groups.find? (fun h => key h = k) ≠ some g := by
  by_cases here : key g = k
  · refine .inl (c.find?_only (by simpa using here) fun h hh e => only h hh ?_)
    exact (of_decide_eq_true e).trans here.symm
  · refine .inr ⟨c.find?_without (by simpa using here), fun found => here ?_⟩
    simpa using List.find?_some found

theorem reachable_without (c : s.Conceals settings caller g) : (s.without g.uuid).Reachable :=
  c.reachable.write (.deleteGroup (deleteGroup_eq_ok_iff.2 ⟨⟨g, c.there, rfl⟩, rfl⟩))

theorem not_member (c : s.Conceals settings caller g) (user : caller.accountId? = some viewer) :
    g.hasMember viewer = false ∧ s.owns settings viewer g = false := by
  have unseen := c.unseen
  unfold accessTo GroupAccess.isVisible at unseen
  rw [user] at unseen
  simp only [Bool.or_eq_false_iff] at unseen
  exact ⟨unseen.2, unseen.1.2⟩

theorem administers_without (c : s.Conceals settings caller g)
    (user : caller.accountId? = some viewer) :
    (s.without g.uuid).administers settings.adminGroup viewer =
      s.administers settings.adminGroup viewer := by
  unfold administers
  rw [findGroupByName_eq, findGroupByName_eq]
  rcases c.find?_key (fun h => c.eq_of_name) settings.adminGroup with ⟨found, gone⟩ | ⟨same, -⟩
  · rw [found, gone]
    exact (c.not_member user).1.symm
  · rw [same]

theorem mem_groupsContaining_without (c : s.Conceals settings caller g) {a : AccountId} {v : Uuid} :
    v ∈ (s.without g.uuid).groupsContaining a ↔ v ∈ s.groupsContaining a ∧ v ≠ g.uuid := by
  rw [mem_groupsContaining c.reachable_without.tidy, mem_groupsContaining c.reachable.tidy]
  simp only [mem_groups_without]
  constructor
  · rintro ⟨h, ⟨hh, ne⟩, rfl, member⟩
    exact ⟨⟨h, hh, rfl, member⟩, ne⟩
  · rintro ⟨⟨h, hh, rfl, member⟩, ne⟩
    exact ⟨h, ⟨hh, ne⟩, rfl, member⟩

theorem shows_without (c : s.Conceals settings caller g) (a : Account) :
    (s.without g.uuid).shows settings caller a = s.shows settings caller a := by
  unfold shows
  cases user : caller.accountId? with
  | none => rfl
  | some viewer =>
    dsimp only
    rw [c.administers_without user]
    congr 2
    -- The caller is not in the group, so no account is seen by it.
    have outside : g.uuid ∉ s.groupsContaining viewer := by
      rw [mem_groupsContaining c.reachable.tidy]
      rintro ⟨h, hh, e, member⟩
      rw [c.eq_of_uuid hh e, (c.not_member user).1] at member
      cases member
    rw [Bool.eq_iff_iff]
    simp only [List.any_eq_true, List.contains_iff_mem, c.mem_groupsContaining_without]
    constructor
    · rintro ⟨v, ⟨mine, -⟩, theirs, -⟩
      exact ⟨v, mine, theirs⟩
    · rintro ⟨v, mine, theirs⟩
      have ne : v ≠ g.uuid := fun e => outside (e ▸ mine)
      exact ⟨v, ⟨mine, ne⟩, theirs, ne⟩

theorem owns_without (c : s.Conceals settings caller g) (user : caller.accountId? = some viewer)
    (h : Group) :
    (s.without g.uuid).owns settings viewer h = s.owns settings viewer h := by
  unfold owns
  rw [c.administers_without user]
  congr 1
  split
  · rfl
  · rcases c.find?_key (fun o => c.eq_of_uuid) h.owner with ⟨found, gone⟩ | ⟨same, -⟩
    · rw [found, gone]
      exact (c.not_member user).1.symm
    · rw [same]

theorem accessTo_without (c : s.Conceals settings caller g) (h : Group) :
    (s.without g.uuid).accessTo settings caller h = s.accessTo settings caller h := by
  unfold accessTo
  cases user : caller.accountId? with
  | none => rfl
  | some viewer =>
    dsimp only
    rw [c.owns_without user]

/-- A text names the same group without the hidden one, or it names the hidden one and then none. -/
theorem groupNamed_without (c : s.Conceals settings caller g) (id : String) :
    (s.groupNamed id = some g ∧ (s.without g.uuid).groupNamed id = none) ∨
      ((s.without g.uuid).groupNamed id = s.groupNamed id ∧ s.groupNamed id ≠ some g) := by
  have byName := c.find?_key (fun h => c.eq_of_name) id
  unfold groupNamed
  cases Uuid.parse? id with
  | some uuid => exact c.find?_key (fun h => c.eq_of_uuid) uuid
  | none =>
    cases number : GroupNumber.parse? id with
    | none => exact byName
    | some n =>
      dsimp only
      rcases c.find?_key c.number n with ⟨found, gone⟩ | ⟨same, other⟩
      · left
        have here : g.id = n := by simpa using List.find?_some found
        -- The number of the hidden group is no other group's name.
        have unnamed : (s.without g.uuid).groups.find? (fun h => h.name = id) = none := by
          refine List.find?_eq_none.2 fun h hh e => ?_
          obtain ⟨hh, ne⟩ := mem_groups_without.1 hh
          rw [← of_decide_eq_true e, ← here] at number
          exact ne (congrArg Group.uuid (c.name h hh number))
        rw [found, gone, unnamed]
        exact ⟨rfl, rfl⟩
      · rw [same]
        cases found : s.groups.find? fun h => h.id = n with
        | some h =>
          rw [found] at other
          exact .inr ⟨rfl, other⟩
        | none => simpa only [Option.none_or] using byName

end Store.Conceals

def World.without (w : World) (u : Uuid) : World :=
  { w with store := w.store.without u }

/-- The action ends alike in the world without the group, and leaves the world it leaves without
the group. -/
def Act.Overlooks {ε α : Type} (u : Uuid) (x : Act ε α) (w : World) : Prop :=
  x.run (w.without u) = ((x.run w).1, (x.run w).2.without u)

namespace Act
variable {ε δ α β : Type} {u : Uuid} {w : World}

theorem Ungrouped.overlooks {x : Act ε α} (h : Ungrouped x) (u : Uuid) (w : World) :
    Overlooks u x w := by
  have alike : w.SameButGroups (w.without u) :=
    ⟨rfl, Store.accounts_without w.store u, Store.changes_without w.store u⟩
  rw [Overlooks, h.reads.run_eq (w.without u), h.same w (w.without u) alike, h.reads w]

namespace Overlooks

theorem pure (a : α) : Overlooks u (Pure.pure a : Act ε α) w := rfl

theorem fail (e : ε) : Overlooks u (Act.fail e : Act ε α) w := rfl

theorem ofExcept (r : Except ε α) : Overlooks u (Act.ofExcept r) w := rfl

theorem outcome {x : Act ε α} (h : Overlooks u x w) :
    Overlooks u (x.outcome : Act δ (Except ε α)) w := by
  rw [Overlooks, run_outcome, run_outcome, h]

theorem mapError {x : Act ε α} (h : Overlooks u x w) (f : ε → δ) :
    Overlooks u (x.mapError f) w := by
  rw [Overlooks, run_mapError, run_mapError, h]

theorem bind {x : Act ε α} {f : α → Act ε β} (hx : Overlooks u x w)
    (hf : ∀ a v, x.run w = (.ok a, v) → Overlooks u (f a) v) : Overlooks u (x >>= f) w := by
  unfold Overlooks at hx ⊢
  rw [run_bind, run_bind, hx]
  cases hr : x.run w with
  | mk r v =>
    cases r with
    | ok a => exact hf a v hr
    | error e => rfl

/-- A writing call that comes to the same in the store without the group, also where the store may
not be changed. -/
theorem write {call : StoreCall} {f : Store → Except StoreError (α × Store)}
    (same : f (w.store.without u) = Store.lacking u (f w.store))
    (still : ∀ a t, f w.store = .ok (a, t) → t.without u = w.store.without u → t = w.store) :
    Overlooks u (Act.write call f) w := by
  have store : (w.without u).store = w.store.without u := rfl
  unfold Overlooks
  rw [run_write, run_write]
  show (if call ∈ w.failing then _ else _) = _
  split
  · rfl
  · rw [store, same]
    cases written : f w.store with
    | error e => rfl
    | ok p =>
      obtain ⟨a, t⟩ := p
      have changed : t.without u = w.store.without u ↔ t = w.store :=
        ⟨still a t written, fun e => e ▸ rfl⟩
      show (if w.readOnly = true ∧ t.without u ≠ w.store.without u then _ else _) = _
      dsimp only
      by_cases refused : w.readOnly = true ∧ t ≠ w.store
      · rw [if_pos refused, if_pos ⟨refused.1, fun e => refused.2 (changed.1 e)⟩]
      · rw [if_neg refused, if_neg fun h => refused ⟨h.1, fun e => h.2 (changed.2 e)⟩]
        rfl

end Overlooks

theorem overlooks_createAccount (n : NewAccount) : Overlooks u (createAccount n) w := by
  refine .write (Store.createAccount_without w.store u n) fun a t created same => ?_
  have accounts := congrArg Store.accounts same
  rw [Store.accounts_without, Store.accounts_without,
    (Store.createAccount_eq_ok created).2.1] at accounts
  exact absurd accounts (by simp)

theorem overlooks_updateMembers {v : Uuid} (ne : v ≠ u) (modify : AccountSet → AccountSet) :
    Overlooks u (updateMembers v modify) w :=
  .write (Store.updateMembers_without ne w.store modify) fun _ _ written same =>
    Store.eq_of_updateMembers_without ne written same

end Act

section
variable {u : Uuid} {w : World}

theorem overlooks_lookupUser (name : String) : Overlooks u (lookupUser name) w := rfl

theorem overlooks_now : Overlooks u (Act.now : Act ProvisionError Int64) w := rfl

theorem overlooks_createFromEntry (e : DirectoryEntry) : Overlooks u (createFromEntry e) w :=
  ((ungrouped_checkEmailFree e.email).overlooks u w).bind fun _ _ _ =>
    overlooks_now.bind fun _ _ _ =>
      ((overlooks_createAccount _).mapError _).bind fun _ _ _ => .pure _

theorem overlooks_accountOfEntry (name : String) (e : DirectoryEntry) :
    Overlooks u (accountOfEntry name .trusted e) w := by
  refine .bind (.pure _) fun _ v _ =>
    (((ungrouped_findByUsername name).mapError _).overlooks u v).bind fun found x _ => ?_
  cases found with
  | some a => exact .pure _
  | none => exact overlooks_createFromEntry e

theorem overlooks_provision (name : String) : Overlooks u (provision name .trusted) w := by
  unfold provision
  split
  · exact .fail _
  · refine ((overlooks_lookupUser name).mapError _).bind fun found v _ => ?_
    cases found with
    | none => exact .fail _
    | some e => exact overlooks_accountOfEntry name e

theorem overlooks_resolveInDirectory (token : String) (missing : ApiError) :
    Overlooks u (resolveInDirectory token missing) w := by
  refine (overlooks_lookupUser token).outcome.bind fun found v _ => ?_
  split
  · exact .fail _
  · exact .fail _
  · exact .fail _
  · refine (overlooks_provision token).outcome.bind fun made x _ => ?_
    split
    · exact ((ungrouped_getAccount _).mapError _).overlooks u x
    · exact .fail _
    · exact .fail _

end

namespace Store

theorem matching_without (s : Store) (u : Uuid) (token : String) :
    (s.without u).matching token = s.matching token := by
  have mail : (s.without u).sameMail = s.sameMail := by cases s <;> rfl
  rw [matching, matching, mail, accounts_without]

theorem accessTo_of_groups {s t : Store} (groups : t.groups = s.groups) (settings : Settings)
    (caller : Caller) (g : Group) :
    t.accessTo settings caller g = s.accessTo settings caller g := by
  unfold accessTo owns administers
  simp only [findGroupByName_eq, groups]

theorem Conceals.of_creates {settings : Settings} {caller : Caller} {s t : Store} {g : Group}
    {created : List Account} (c : s.Conceals settings caller g) (h : s.Creates created t) :
    t.Conceals settings caller g where
  reachable := h.reachable c.reachable
  there := h.groups ▸ c.there
  number := h.groups ▸ c.number
  name := h.groups ▸ c.name
  unseen := by rw [accessTo_of_groups h.groups, c.unseen]

end Store

section
variable {settings : Settings} {caller : Caller} {g : Group} {w : World}

theorem overlooks_lookupAccounts (hf : w.failing = []) (c : w.store.Conceals settings caller g)
    (token : String) : Overlooks g.uuid (lookupAccounts settings caller token) w := by
  by_cases other : Text.trim token = "self"
  · unfold lookupAccounts
    dsimp only
    rw [if_pos other]
    exact (Overlooks.ofExcept _).bind fun _ _ _ => .pure _
  · have shows : (w.without g.uuid).store.shows settings caller =
        w.store.shows settings caller := funext c.shows_without
    have matching : (w.without g.uuid).store.matching (Text.trim token) =
        w.store.matching (Text.trim token) := Store.matching_without w.store g.uuid _
    have works : (w.without g.uuid).failing = [] := hf
    rw [Overlooks, run_lookupAccounts works other, run_lookupAccounts hf other, shows, matching]

theorem overlooks_parseAccount (hf : w.failing = []) (c : w.store.Conceals settings caller g)
    (token : String) : Overlooks g.uuid (parseAccount settings caller token) w :=
  (overlooks_lookupAccounts hf c token).bind fun _ _ _ => .ofExcept _

theorem overlooks_resolveAccount (hf : w.failing = []) (c : w.store.Conceals settings caller g)
    (token : String) : Overlooks g.uuid (resolveAccount settings caller token) w := by
  refine (overlooks_lookupAccounts hf c _).bind fun m v _ => ?_
  split
  · exact .pure _
  · split
    · exact overlooks_resolveInDirectory _ _
    · exact .fail _

theorem overlooks_resolveActive (hf : w.failing = []) (c : w.store.Conceals settings caller g)
    (token : String) : Overlooks g.uuid (resolveActive settings caller token) w := by
  refine (overlooks_resolveAccount hf c token).bind fun a v _ => ?_
  split
  · exact .pure _
  · exact .fail _

/-- Each token of a batch is resolved in a world that still has the group, and hides it. -/
theorem overlooks_resolveAll (hf : w.failing = []) (c : w.store.Conceals settings caller g)
    (found : List AccountId) (tokens : List String) :
    Overlooks g.uuid (resolveAll settings caller found tokens) w := by
  induction tokens generalizing found w with
  | nil => exact .pure _
  | cons token tokens ih =>
    refine (overlooks_resolveActive hf c token).bind fun id v resolved => ?_
    obtain ⟨created, way⟩ := provisions_of_resolveActive resolved
    exact ih (way.failing.trans hf) (c.of_creates way.store) _

theorem overlooks_addIds {u v : Uuid} (ne : v ≠ u) (ids : List AccountId) :
    Overlooks u (addIds v ids) w := by
  unfold addIds
  split
  · exact .pure _
  · exact ((overlooks_updateMembers ne _).mapError _).bind fun _ _ _ => .pure _

theorem overlooks_addMembers (hf : w.failing = []) (c : w.store.Conceals settings caller g)
    {r : OpenGroup} (other : r.uuid? ≠ some g.uuid) (tokens : List String) :
    Overlooks g.uuid (addMembers settings caller r tokens) w := by
  refine (Overlooks.ofExcept _).bind fun h v stored => ?_
  rw [run_ofExcept, Prod.mk.injEq] at stored
  obtain ⟨stored, rfl⟩ := stored
  have ne : h.uuid ≠ g.uuid := fun same => other (same ▸ OpenGroup.uuid?_of_stored stored)
  refine (Overlooks.ofExcept _).bind fun viewer v user => ?_
  obtain ⟨-, rfl⟩ := Prod.mk.inj user
  split
  · exact .fail _
  · refine (overlooks_resolveAll hf c [] tokens).bind fun ids v _ =>
      (overlooks_addIds ne ids).bind fun _ x _ => ?_
    exact (ungrouped_summaries (ungrouped_requiredSummary true) ids).overlooks _ x

theorem overlooks_findMember (hf : w.failing = []) (c : w.store.Conceals settings caller g)
    (r : OpenGroup) (token : String) : Overlooks g.uuid (findMember settings caller r token) w := by
  refine (Overlooks.ofExcept _).bind fun h v stored => ?_
  obtain ⟨-, rfl⟩ := Prod.mk.inj stored
  refine (overlooks_parseAccount hf c token).outcome.bind fun parsed v _ => ?_
  split
  · split
    · exact ((ungrouped_requiredSummary true _).overlooks _ v).bind fun _ _ _ => .pure _
    · exact .pure _
  · split
    · exact .pure _
    · exact .fail _

theorem overlooks_putMember (hf : w.failing = []) (c : w.store.Conceals settings caller g)
    {r : OpenGroup} (other : r.uuid? ≠ some g.uuid) (token : String) :
    Overlooks g.uuid (putMember settings caller r token) w := by
  refine (overlooks_findMember hf c r token).bind fun found v read => ?_
  obtain rfl := (reads_findMember settings caller r token).world_eq read
  cases found with
  | some s => exact .pure _
  | none =>
    refine (overlooks_addMembers hf c other [token]).outcome.bind fun added x _ => ?_
    cases added with
    | ok infos =>
      dsimp only
      split
      · exact .pure _
      · exact .fail _
    | error e =>
      dsimp only
      split
      · exact .fail _
      · exact .fail _

theorem ungrouped_listMembers (r : OpenGroup) : Ungrouped (listMembers r) :=
  (Ungrouped.ofExcept _).bind fun _ => .ite (.fail _)
    ((ungrouped_summaries (ungrouped_summaryOf true) _).bind fun _ => .pure _)

/-- Opening a group that is hidden fails like opening one that is missing, and no other group is
opened in its place. -/
theorem overlooks_openGroup (hf : w.failing = []) (c : w.store.Conceals settings caller g)
    (id : String) : Overlooks g.uuid (openGroup settings caller id) w := by
  have works : (w.without g.uuid).failing = [] := hf
  cases outside : GroupReference.external? id with
  | some reference =>
    obtain ⟨name, -, rfl⟩ := Option.map_eq_some_iff.1 outside
    unfold openGroup findGroupReference
    rw [outside]
    rfl
  | none =>
    rw [Overlooks, openGroup, run_bind_of_ok (run_findGroupReference works outside),
      run_bind_of_ok (run_findGroupReference hf outside)]
    have groups : (w.without g.uuid).store.groupNamed id =
        (w.store.without g.uuid).groupNamed id := rfl
    rcases c.groupNamed_without id with ⟨named, gone⟩ | ⟨same, -⟩
    · rw [groups, gone, named, Option.map_none, Option.map_some]
      dsimp only
      rw [run_bind_of_ok (run_groupAccess hf g), c.unseen]
      rfl
    · rw [groups, same]
      cases w.store.groupNamed id with
      | none => rfl
      | some h =>
        rw [Option.map_some]
        dsimp only
        have access : (w.without g.uuid).store.accessTo settings caller h =
            w.store.accessTo settings caller h := c.accessTo_without h
        rw [run_bind_of_ok (run_groupAccess works h), run_bind_of_ok (run_groupAccess hf h), access]
        split
        · rfl
        · rfl

/-- The group that is opened is not the hidden one. -/
theorem uuid?_of_openGroup (hf : w.failing = []) (c : w.store.Conceals settings caller g)
    {id : String} {r : OpenGroup} {w' : World}
    (h : (openGroup settings caller id).run w = (.ok r, w')) : r.uuid? ≠ some g.uuid := by
  intro here
  obtain rfl := (reads_openGroup _ _ _).world_eq h
  obtain ⟨o, access, rfl, same⟩ := OpenGroup.eq_some_uuid? here
  obtain ⟨-, named, rfl, visible⟩ := (openGroup_eq_stored hf).1 h
  obtain ⟨-, found, -⟩ := openGroup_eq_ok h
  rw [c.eq_of_uuid (mem_of_findGroupReference found) same, c.unseen] at visible
  cases visible

end

end CodeReview
