import CodeReview.Proofs.Store.View
set_option autoImplicit false

/-!
The stores that calls lead to from an empty one, in lists or in tables. In all of them an account
is found under its id, because an id is given to one account only.
-/
namespace CodeReview.Store

inductive Write (s : Store) : Store → Prop where
  | insertChange {c : Change} {id : ObjectId} {t : Store} (h : s.insertChange c = .ok (id, t)) :
    Write s t
  | updateChange {c : Change} {id : ObjectId} {t : Store} (h : s.updateChange c = .ok (id, t)) :
    Write s t
  | createAccount {n : NewAccount} {a : Account} {t : Store}
    (h : s.createAccount n = .ok (a, t)) : Write s t
  | setActive {id : AccountId} {active : Bool} {u : Unit} {t : Store}
    (h : s.setActive id active = .ok (u, t)) : Write s t
  | createGroup {uuid : Uuid} {n : NewGroup} {g : Group} {t : Store}
    (h : s.createGroup uuid n = .ok (g, t)) : Write s t
  | updateMembers {uuid : Uuid} {modify : AccountSet → AccountSet} {g : Group} {t : Store}
    (h : s.updateMembers uuid modify = .ok (g, t)) : Write s t
  | deleteGroup {uuid : Uuid} {u : Unit} {t : Store} (h : s.deleteGroup uuid = .ok (u, t)) :
    Write s t

inductive Reachable : Store → Prop where
  | memory : Reachable (.memory .empty)
  | tables : Reachable (.tables .empty)
  | write {s t : Store} (hs : Reachable s) (ht : s.Write t) : Reachable t

/-- No two accounts share an id, and a counter is past all of them. -/
structure Numbered (s : Store) : Prop where
  distinct : s.accounts.Pairwise fun a b => a.id ≠ b.id
  below : ∀ n ∈ s.counter?, ∀ a ∈ s.accounts, a.id.number < n

theorem toNat_lt_nextNumber (first : Nat) {ns : List UInt32} {n : UInt32} (h : n ∈ ns) :
    n.toNat < nextNumber first ns := by
  have fold : ∀ (ks : List UInt32) (m : Nat),
      m ≤ ks.foldl (fun m k => max m k.toNat) m ∧
        ∀ k ∈ ks, k.toNat ≤ ks.foldl (fun m k => max m k.toNat) m := by
    intro ks
    induction ks with
    | nil => simp
    | cons k ks ih =>
      intro m
      have hk := ih (max m k.toNat)
      simp only [List.foldl_cons, List.mem_cons, forall_eq_or_imp]
      exact ⟨by omega, by omega, hk.2⟩
  cases ns with
  | nil => simp at h
  | cons m ms =>
    have hm := fold ms m.toNat
    simp only [nextNumber]
    rcases List.mem_cons.1 h with rfl | hn
    · omega
    · have := hm.2 n hn
      omega

/-- A new account gets an id that no account has, and a counter moves past it. -/
theorem createAccount_fresh {s t : Store} {n : NewAccount} {a : Account} (hs : s.Numbered)
    (h : s.createAccount n = .ok (a, t)) :
    (∀ b ∈ s.accounts, b.id ≠ a.id) ∧
      ∀ k ∈ t.counter?, a.id.number < k ∧ ∀ b ∈ s.accounts, b.id.number < k := by
  cases s with
  | memory m =>
    obtain ⟨m', hm, rfl⟩ := ofMemory_eq_ok.1 h
    unfold MemoryStore.createAccount at hm
    split at hm
    · simp at hm
    · split at hm
      · simp at hm
      · next hc =>
        cases hm
        have below := hs.below m.nextAccount rfl
        have next : m.nextAccount < m.nextAccount + 1 := by
          rw [UInt32.lt_iff_toNat_lt, UInt32.toNat_add]
          have := m.nextAccount.toNat_lt
          simp only [UInt32.size] at hc
          simp only [UInt32.reduceToNat]
          omega
        refine ⟨fun b hb e => ?_, fun k hk => ?_⟩
        · have := below b hb
          rw [e] at this
          exact UInt32.lt_irrefl _ this
        · cases hk
          exact ⟨next, fun b hb => UInt32.lt_trans (below b hb) next⟩
  | tables m =>
    obtain ⟨m', hm, rfl⟩ := ofTables_eq_ok.1 h
    unfold TableStore.createAccount at hm
    split at hm
    · simp at hm
    · split at hm
      · simp at hm
      · next id hid =>
        cases hm
        refine ⟨fun b hb e => ?_, by simp [counter?]⟩
        have hn : b.id.number ∈ m.accounts.map fun a => a.id.number :=
          List.mem_map.2 ⟨b, hb, rfl⟩
        have hlt := toNat_lt_nextNumber firstAccount.toNat hn
        unfold column32 at hid
        split at hid
        · next hr =>
          cases hid
          have he : b.id.number.toNat = nextNumber firstAccount.toNat
              (m.accounts.map fun a => a.id.number) := by
            rw [e]
            exact UInt32.toNat_ofNat_of_lt hr
          omega
        · simp at hid

/-- Only two calls touch accounts: one appends an account and one marks an account. -/
theorem Write.accounts_cases {s t : Store} (h : s.Write t) :
    (t.accounts = s.accounts ∧ t.counter? = s.counter?) ∨
      (∃ n a, s.createAccount n = .ok (a, t)) ∨
      (∃ id active, t.counter? = s.counter? ∧
        t.accounts = s.accounts.map fun a =>
          if a.id = id then { a with active := active } else a) := by
  cases h with
  | insertChange h =>
    obtain ⟨ha, -, hc⟩ := insertChange_eq_ok h
    exact .inl ⟨ha, hc⟩
  | updateChange h =>
    obtain ⟨ha, -, hc⟩ := updateChange_eq_ok h
    exact .inl ⟨ha, hc⟩
  | createAccount h => exact .inr (.inl ⟨_, _, h⟩)
  | setActive h =>
    obtain ⟨ha, -, -, hc⟩ := setActive_eq_ok h
    exact .inr (.inr ⟨_, _, hc, ha⟩)
  | createGroup h =>
    obtain ⟨ha, -, hc⟩ := createGroup_eq_ok h
    exact .inl ⟨ha, hc⟩
  | updateMembers h =>
    obtain ⟨-, ha, -, hc⟩ := updateMembers_eq_ok h
    exact .inl ⟨ha, hc⟩
  | deleteGroup h =>
    obtain ⟨ha, -, hc⟩ := deleteGroup_eq_ok h
    exact .inl ⟨ha, hc⟩

theorem Write.numbered {s t : Store} (h : s.Write t) (hs : s.Numbered) : t.Numbered := by
  rcases h.accounts_cases with ⟨ha, hc⟩ | ⟨n, a, ha⟩ | ⟨id, active, hc, ha⟩
  · exact ⟨ha ▸ hs.distinct, by rw [ha, hc]; exact hs.below⟩
  · obtain ⟨fresh, counter⟩ := createAccount_fresh hs ha
    obtain ⟨-, accounts, -, -⟩ := createAccount_eq_ok ha
    constructor
    · rw [accounts, List.pairwise_append]
      exact ⟨hs.distinct, List.pairwise_singleton _ _, by simpa using fresh⟩
    · intro k hk b hb
      rw [accounts, List.mem_append, List.mem_singleton] at hb
      rcases hb with hb | rfl
      · exact (counter k hk).2 b hb
      · exact (counter k hk).1
  · have ids : ∀ a : Account, (if a.id = id then { a with active := active } else a).id = a.id := by
      intro a
      split <;> rfl
    constructor
    · rw [ha, List.pairwise_map]
      refine hs.distinct.imp fun {b c} hbc => ?_
      rw [ids, ids]
      exact hbc
    · rw [ha, hc]
      intro k hk b hb
      obtain ⟨a, hm, rfl⟩ := List.mem_map.1 hb
      rw [ids]
      exact hs.below k hk a hm

theorem Reachable.numbered {s : Store} (h : s.Reachable) : s.Numbered := by
  induction h with
  | memory => exact ⟨.nil, by simp [accounts, MemoryStore.empty]⟩
  | tables => exact ⟨.nil, by simp [accounts, TableStore.empty]⟩
  | write _ ht ih => exact ht.numbered ih

theorem Numbered.getAccount_of_mem {s : Store} (hs : s.Numbered) {a : Account}
    (h : a ∈ s.accounts) : s.getAccount a.id = .ok a :=
  getAccount_eq_ok.2 (find?_of_distinct hs.distinct h)

end CodeReview.Store
