import CodeReview.Proofs.Group.Membership
import CodeReview.Proofs.Group.Opening
import CodeReview.Proofs.Store.Keys
import CodeReview.Proofs.Text.Numeral
import CodeReview.Proofs.Uuid
set_option autoImplicit false

/-!
The texts that open a group: its uuid in each written form, its number, and its name, unless the
name is taken for one of the others or for a group of a directory. Nothing else opens it.
-/
namespace CodeReview
open Act Text.Numeral

theorem GroupReference.external?_eq_none_iff {id : String} :
    external? id = none ↔ ¬externalMark <+: id.toList := by
  rw [external?, Option.map_eq_none_iff]
  constructor
  · rintro missing ⟨rest, written⟩
    rw [← written, Text.stripStart_append] at missing
    cases missing
  · intro internal
    rw [Option.eq_none_iff_forall_ne_some]
    exact fun rest stripped => internal ⟨rest, (Text.eq_append_of_stripStart stripped).symm⟩

/-- The mark of a group of a directory starts with a letter that no uuid has. -/
theorem Uuid.Spells.internal {u : Uuid} {id : String} (h : u.Spells id.toList) :
    ¬externalMark <+: id.toList := by
  intro marked
  have letter : 'l' ∈ id.toList := marked.subset (by decide)
  exact absurd (h.mem_writtenChars letter) (by decide)

theorem denotes_internal {id : String} {n : Nat} (h : Denotes id.toList n) :
    ¬externalMark <+: id.toList := by
  intro marked
  have letter : 'l' ∈ id.toList := marked.subset (by decide)
  have digit : ∀ d < 10, Nat.digitChar d ≠ 'l' := by decide
  obtain ⟨ds, -, small, -, written⟩ := h
  have absent : 'l' ∉ ds.map Nat.digitChar := fun there => by
    obtain ⟨d, inside, same⟩ := List.mem_map.1 there
    exact digit d (small d inside) same
  rcases written with same | same
  · exact absent (same ▸ letter)
  · rw [same] at letter
    exact absent ((List.mem_cons.1 letter).resolve_left (by decide))

/-- A number without zeros in front is too short for a uuid. -/
theorem GroupNumber.not_spells_text (n : GroupNumber) (u : Uuid) : ¬u.Spells n.text.toList := by
  intro spelled
  have long := spelled.length_le
  have short : (Nat.toDigits 10 n.number.toNat).length ≤ 10 := by
    rw [Nat.length_toDigits_le_iff (by decide) (by decide)]
    exact Nat.lt_of_lt_of_le n.number.toNat_lt (by decide)
  rw [text, decimalText, String.toList_ofList, decimal] at long
  omega

theorem GroupNumber.denotes_text (n : GroupNumber) : Denotes n.text.toList n.number.toNat :=
  parse?_eq_some_iff.1 (parse?_text n)

/-- The text is the uuid of the group in some form, its number or its name. -/
def Group.Carries (g : Group) (id : String) : Prop :=
  g.uuid.Spells id.toList ∨ Denotes id.toList g.id.number.toNat ∨ g.name = id

namespace Store
variable {s : Store} {g : Group} {id : String}

theorem groupNamed_of_uuid (distinct : s.Distinct) (there : g ∈ s.groups)
    (spelled : g.uuid.Spells id.toList) : s.groupNamed id = some g := by
  rw [groupNamed, Uuid.parse?_eq_some_iff.2 spelled]
  exact find?_of_distinct distinct.uuids there

theorem groupNamed_of_number (only : ∀ h ∈ s.groups, h.id = g.id → h = g)
    (there : g ∈ s.groups) (word : ∀ u : Uuid, ¬u.Spells id.toList)
    (reads : Denotes id.toList g.id.number.toNat) : s.groupNamed id = some g := by
  rw [groupNamed, Uuid.parse?_eq_none_iff.2 word, GroupNumber.parse?_eq_some_iff.2 reads]
  dsimp only
  cases found : s.groups.find? fun h => h.id = g.id with
  | none => exact absurd (List.find?_eq_none.1 found g there) (by simp)
  | some h =>
    have same : h.id = g.id := by simpa using List.find?_some found
    rw [only h (List.mem_of_find?_eq_some found) same, Option.some_or]

theorem groupNamed_of_name (distinct : s.Distinct) (there : g ∈ s.groups)
    (word : ∀ u : Uuid, ¬u.Spells g.name.toList)
    (other : ∀ h ∈ s.groups, Denotes g.name.toList h.id.number.toNat → h = g) :
    s.groupNamed g.name = some g := by
  have byName := find?_of_distinct distinct.names there
  rw [groupNamed, Uuid.parse?_eq_none_iff.2 word]
  cases number : GroupNumber.parse? g.name with
  | none => exact byName
  | some n =>
    dsimp only
    cases found : s.groups.find? fun h => h.id = n with
    | none => rw [Option.none_or, byName]
    | some h =>
      have same : h.id = n := by simpa using List.find?_some found
      have reads : Denotes g.name.toList h.id.number.toNat :=
        GroupNumber.parse?_eq_some_iff.1 (same ▸ number)
      rw [other h (List.mem_of_find?_eq_some found) reads, Option.some_or]

/-- A group that a text names has it as a key. -/
theorem carries_of_groupNamed (h : s.groupNamed id = some g) : g ∈ s.groups ∧ g.Carries id := by
  have byName (found : (s.groups.find? fun g => g.name = id) = some g) :
      g ∈ s.groups ∧ g.Carries id :=
    ⟨List.mem_of_find?_eq_some found, .inr (.inr (by simpa using List.find?_some found))⟩
  unfold groupNamed at h
  split at h
  · next uuid read =>
    have same : g.uuid = uuid := by simpa using List.find?_some h
    exact ⟨List.mem_of_find?_eq_some h, .inl (same ▸ Uuid.parse?_eq_some_iff.1 read)⟩
  · split at h
    · exact byName h
    · next n read =>
      rcases Option.or_eq_some_iff.1 h with found | ⟨-, found⟩
      · have same : g.id = n := by simpa using List.find?_some found
        exact ⟨List.mem_of_find?_eq_some found,
          .inr (.inl (GroupNumber.parse?_eq_some_iff.1 (same ▸ read)))⟩
      · exact byName found

end Store

section
variable {settings : Settings} {caller : Caller} {w : World}

/-- A group that the caller may see is opened by its uuid in each form, by its number where no other
group has it, and by its name where that is nothing else; whatever else is opened than a group of a
directory has the text as a key. Lists count their groups with 32 bits and go round after that, so
no two groups have one number as long as fewer groups were made. -/
theorem openGroup_finds (hs : w.store.Reachable) (hf : w.failing = []) :
    ((∃ k, Store.Founded k w.store) ∧ ∀ k, Store.Founded k w.store →
      (w.store.inLists = true → k < UInt32.size) →
      ∀ g ∈ w.store.groups, ∀ h ∈ w.store.groups, h.id = g.id → h = g) ∧
    (∀ g ∈ w.store.groups, ∀ access,
      (groupAccess settings caller (.stored g)).run w = (.ok access, w) →
      access.isVisible = true →
      (∀ id : String, (Uuid.parse? id = some g.uuid ↔ g.uuid.Spells id.toList) ∧
        (g.uuid.Spells id.toList →
          (openGroup settings caller id).run w = (.ok ⟨.stored g, access⟩, w))) ∧
      ((∀ h ∈ w.store.groups, h.id = g.id → h = g) →
        (openGroup settings caller g.id.text).run w = (.ok ⟨.stored g, access⟩, w) ∧
        ∀ id : String, Denotes id.toList g.id.number.toNat →
          (∀ u : Uuid, ¬u.Spells id.toList) →
          (openGroup settings caller id).run w = (.ok ⟨.stored g, access⟩, w)) ∧
      (¬externalMark <+: g.name.toList → (∀ u : Uuid, ¬u.Spells g.name.toList) →
        (∀ h ∈ w.store.groups, Denotes g.name.toList h.id.number.toNat → h = g) →
        (openGroup settings caller g.name).run w = (.ok ⟨.stored g, access⟩, w))) ∧
    ∀ (id : String) o x, ¬externalMark <+: id.toList →
      (openGroup settings caller id).run w = (.ok o, x) →
      ∃ g ∈ w.store.groups, o.group = .stored g ∧ g.Carries id ∧
        (groupAccess settings caller (.stored g)).run w = (.ok o.access, w) ∧
        o.access.isVisible = true := by
  have distinct := hs.distinct
  refine ⟨⟨hs.founded, fun k founded few g hg h hh => ?_⟩, fun g there access given visible => ?_,
    fun id o x internal opened => ?_⟩
  · exact Store.eq_of_distinct (founded.numbers few) hh hg
  · have same : access = w.store.accessTo settings caller g := by
      rw [run_groupAccess hf] at given
      exact (Except.ok.inj (Prod.mk.inj given).1).symm
    have opens {id : String} (internal : ¬externalMark <+: id.toList)
        (named : w.store.groupNamed id = some g) :
        (openGroup settings caller id).run w = (.ok ⟨.stored g, access⟩, w) :=
      (openGroup_eq_stored hf).2
        ⟨GroupReference.external?_eq_none_iff.2 internal, named, same, visible⟩
    refine ⟨fun id => ⟨Uuid.parse?_eq_some_iff, fun spelled => ?_⟩, fun only => ?_,
      fun internal word other => ?_⟩
    · exact opens spelled.internal (Store.groupNamed_of_uuid distinct there spelled)
    · have byNumber {id : String} (reads : Denotes id.toList g.id.number.toNat)
          (word : ∀ u : Uuid, ¬u.Spells id.toList) :=
        opens (denotes_internal reads) (Store.groupNamed_of_number only there word reads)
      exact ⟨byNumber g.id.denotes_text g.id.not_spells_text, fun id => byNumber⟩
    · exact opens internal (Store.groupNamed_of_name distinct there word other)
  · obtain ⟨rfl, named, given⟩ := openGroup_eq_ok opened
    obtain ⟨reference, access⟩ := o
    rw [run_findGroupReference hf (GroupReference.external?_eq_none_iff.2 internal)] at named
    obtain ⟨g, found, rfl⟩ :=
      Option.map_eq_some_iff.1 (Except.ok.inj (Prod.mk.inj named).1)
    obtain ⟨there, carries⟩ := Store.carries_of_groupNamed found
    obtain ⟨-, -, -, visible⟩ := (openGroup_eq_stored hf).1 opened
    exact ⟨g, there, rfl, carries, given, visible⟩

end

/-- A group whose name is the number of the other group. -/
def namesake2 : Group :=
  ⟨Store.sampleUuid 0xcd, ⟨1⟩, "2", none, Store.sampleUuid 0xcd, .empty, true, 0⟩

/-- A group whose name is a number that no group has. -/
def team2 : Group :=
  ⟨Store.sampleUuid 0xab, ⟨2⟩, "7", none, Store.sampleUuid 0xab, .empty, true, 0⟩

def team2World : World where
  store := .memory ⟨[], firstAccount, [namesake2, team2], 3, []⟩
  failing := []
  directory := .listed []
  now := 0
  readOnly := false

theorem reachable_team2World : team2World.store.Reachable :=
  (Store.Reachable.memory.write (.createGroup (show _ from rfl :
    Store.createGroup _ (Store.sampleUuid 0xcd) ⟨"2", none, none, .empty, true, 0⟩ =
      .ok (_, _)))).write
    (.createGroup (show _ from rfl :
      Store.createGroup _ (Store.sampleUuid 0xab) ⟨"7", none, none, .empty, true, 0⟩ = .ok (_, _)))

/-- Anyone opens it by its uuid in braces and capitals, by its number with zeros in front, although
the other group has the number as its name, and by its name. -/
theorem team2_opened :
    (∀ id ∈ ["\x7bABABABAB-ABAB-ABAB-ABAB-ABABABABABAB\x7d", "2", "002", "7"],
      (openGroup .default .anonymous id).run team2World =
        (.ok ⟨.stored team2, ⟨false, false, true, true⟩⟩, team2World)) ∧
    ∃ g ∈ team2World.store.groups, g.Carries "7" := by
  obtain ⟨-, opens, carried⟩ :=
    @openGroup_finds .default .anonymous team2World reachable_team2World rfl
  obtain ⟨byUuid, byNumber, byName⟩ :=
    opens team2 (List.mem_cons_of_mem _ List.mem_cons_self) ⟨false, false, true, true⟩ rfl rfl
  obtain ⟨number, numeral⟩ := byNumber (by decide)
  have unread : ∀ h ∈ team2World.store.groups, GroupNumber.parse? team2.name ≠ some h.id := by
    decide
  have named := byName (by decide) (Uuid.parse?_eq_none_iff.1 (by decide)) fun h there reads =>
    absurd (GroupNumber.parse?_eq_some_iff.2 reads) (unread h there)
  constructor
  · intro id listed
    simp only [List.mem_cons, List.not_mem_nil, or_false] at listed
    rcases listed with rfl | rfl | rfl | rfl
    · exact (byUuid _).2 ((byUuid _).1.1 (by decide))
    · exact number
    · exact numeral _ ⟨[0, 0, 2], by decide, by decide, rfl, .inl rfl⟩
        (Uuid.parse?_eq_none_iff.1 (by decide))
    · exact named
  · obtain ⟨g, there, -, carries, -⟩ := carried _ _ _ (by decide) named
    exact ⟨g, there, carries⟩

def visitor : Account :=
  ⟨⟨1001⟩, some "visitor", none, none, true, 0⟩

/-- A club that was given the number of the team again, since the counter had gone round. -/
def laterClub : Group :=
  ⟨Store.sampleUuid 8, ⟨1⟩, "club", none, Store.sampleUuid 8, .ofList [⟨1001⟩], false, 0⟩

def roundStore : MemoryStore :=
  ⟨[⟨⟨1000⟩, some "owner", none, none, true, 0⟩, visitor], 1002, [soloTeam, laterClub], 2, []⟩

def roundWorld : World :=
  { soloWorld with store := .memory roundStore }

theorem reachable_roundWorld : roundWorld.store.Reachable := by
  have visited := reachable_soloWorld.write (.createAccount
    (show _ from rfl : Store.createAccount _ ⟨some "visitor", none, none, true, 0⟩ = .ok (_, _)))
  have round := @Store.Reachable.counts_to _ (Store.sampleUuid 9) "guild" visited (by decide) 1
  exact round.write (.createGroup (show _ from rfl : Store.createGroup _ (Store.sampleUuid 8)
    ⟨"club", none, none, .ofList [⟨1001⟩], false, 0⟩ = .ok (_, _)))

/-- The number of the club leads to the team, which the visitor of the club may not see, and a
number is also read with a mark in front, which no key of the group has. -/
theorem numbers_otherwise :
    (roundWorld.store.Reachable ∧ laterClub ∈ roundWorld.store.groups ∧
      (∃ access, (groupAccess .default (.user visitor) (.stored laterClub)).run roundWorld =
        (.ok access, roundWorld) ∧ access.isVisible = true) ∧
      laterClub.id.text = "1" ∧
      ((openGroup .default (.user visitor) "1").run roundWorld).1 = .error (.groupMissing "1")) ∧
    team2World.store.Reachable ∧
      (openGroup .default .anonymous "+2").run team2World =
        (.ok ⟨.stored team2, ⟨false, false, true, true⟩⟩, team2World) ∧
      Uuid.parse? "+2" = none ∧ team2.id.text ≠ "+2" ∧ team2.name ≠ "+2" :=
  ⟨⟨reachable_roundWorld, .tail _ (.head _), ⟨_, rfl, rfl⟩, by decide, rfl⟩,
    reachable_team2World, rfl, by decide, by decide, by decide⟩

end CodeReview
