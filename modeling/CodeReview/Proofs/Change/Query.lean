import CodeReview.Change.Query
import CodeReview.Proofs.ObjectId
import CodeReview.Proofs.OutputOption
set_option autoImplicit false

/-!
The parameters of a read. A list of parameters is read exactly when each of them is valid by
itself. The options are those that some parameter asks for, and the pin is what the last parameter
for it says, so that only the order of these parameters counts.
-/
namespace CodeReview.ChangeQuery

/-- A parameter that a read takes. -/
def Valid (pair : String × String) : Prop :=
  (pair.1 = "o" ∧ ∃ o : OutputOption, Text.sameFolded o.name pair.2 = true) ∨
    (pair.1 = "O" ∧ ∃ s, OptionSet.ofHex pair.2 = .ok s) ∨
    (pair.1 = "meta" ∧ (pair.2 = "" ∨ ObjectId.IsDigits pair.2))

/-- The parameter is a mask that has the bit of an option. -/
def Masks (o : OutputOption) (pair : String × String) : Prop :=
  pair.1 = "O" ∧ ∃ s, OptionSet.ofHex pair.2 = .ok s ∧ s.mask.testBit o.bit = true

/-- The parameter asks for an option, by its name or by its bit. -/
def Asks (o : OutputOption) (pair : String × String) : Prop :=
  (pair.1 = "o" ∧ Text.sameFolded o.name pair.2 = true) ∨ Masks o pair

/-- The values of the parameters with a key, in order. -/
def valuesOf (key : String) (pairs : List (String × String)) : List String :=
  (pairs.filter fun pair => pair.1 = key).map Prod.snd

/-- What the last parameter for the pin says. -/
def lastPin (pairs : List (String × String)) : Option String :=
  (valuesOf "meta" pairs).getLast?

variable {key value : String} {pair : String × String} {pairs : List (String × String)}

theorem mem_valuesOf : value ∈ valuesOf key pairs ↔ (key, value) ∈ pairs := by
  simp [valuesOf]

theorem mem_of_lastPin (h : lastPin pairs = some value) : ("meta", value) ∈ pairs :=
  mem_valuesOf.1 (List.mem_of_getLast? h)

theorem lastPin_cons (value : String) (pairs : List (String × String)) :
    lastPin (("meta", value) :: pairs) = some ((lastPin pairs).getD value) := by
  simp [lastPin, valuesOf, List.getLast?_cons]

theorem valuesOf_append (key : String) (pairs more : List (String × String)) :
    valuesOf key (pairs ++ more) = valuesOf key pairs ++ valuesOf key more := by
  simp [valuesOf]

theorem valuesOf_cons_of_ne (other : pair.1 ≠ key) (pairs : List (String × String)) :
    valuesOf key (pair :: pairs) = valuesOf key pairs := by
  simp [valuesOf, other]

/-- What reading one parameter adds. -/
inductive Reads (p : Pending) : String × String → Pending → Prop
  | name (value : String) : Reads p ("o", value) { p with names := p.names ++ [value] }
  | mask {s : OptionSet} {value : String} (read : OptionSet.ofHex value = .ok s) :
    Reads p ("O", value) { p with masks := p.masks.union s }
  | pin {value : String} (fits : value = "" ∨ ObjectId.IsDigits value) :
    Reads p ("meta", value) { p with pin := (ObjectId.parse value).toOption }

theorem step_eq_ok_iff {p q : Pending} : step p pair.1 pair.2 = .ok q ↔ Reads p pair q := by
  obtain ⟨key, value⟩ := pair
  constructor
  · intro h
    dsimp only [step] at h
    split at h
    · next named =>
      cases named
      cases h
      exact .name value
    split at h
    · next masked =>
      cases masked
      cases read : OptionSet.ofHex value with
      | error e =>
        rw [read] at h
        cases h
      | ok s =>
        rw [read] at h
        cases h
        exact .mask read
    split at h
    · next pinned =>
      cases pinned
      split at h
      · next blank =>
        cases blank
        cases h
        exact .pin (.inl rfl)
      cases read : ObjectId.parse value with
      | error e =>
        rw [read] at h
        cases h
      | ok id =>
        rw [read] at h
        cases h
        have fits := ObjectId.exists_parse_iff.1 ⟨id, read⟩
        have made := Reads.pin (p := p) (.inr fits)
        rw [read] at made
        exact made
    · cases h
  · intro h
    cases h with
    | name => rfl
    | mask read => simp [step, read]
    | pin fits =>
      obtain rfl | digits := fits
      · rfl
      · obtain ⟨id, read⟩ := ObjectId.exists_parse_iff.2 digits
        simp [step, read, digits.ne_empty, Except.toOption]

theorem Valid.named (h : Valid ("o", value)) :
    ∃ o : OutputOption, Text.sameFolded o.name value = true := by
  simpa [Valid] using h

theorem Valid.masked (h : Valid ("O", value)) : ∃ s, OptionSet.ofHex value = .ok s := by
  simpa [Valid] using h

theorem Valid.pinned (h : Valid ("meta", value)) : value = "" ∨ ObjectId.IsDigits value := by
  simpa [Valid] using h

theorem Valid.reads (h : Valid pair) (p : Pending) : ∃ q, Reads p pair q := by
  obtain ⟨key, value⟩ := pair
  obtain ⟨rfl, _⟩ | ⟨rfl, s, read⟩ | ⟨rfl, fits⟩ := h
  · exact ⟨_, .name value⟩
  · exact ⟨_, .mask read⟩
  · exact ⟨_, .pin fits⟩

/-- Only the names are left to be looked up. -/
theorem Reads.valid {p q : Pending} (h : Reads p pair q) : pair.1 = "o" ∨ Valid pair := by
  cases h with
  | name value => exact .inl rfl
  | mask read => exact .inr (.inr (.inl ⟨rfl, _, read⟩))
  | pin fits => exact .inr (.inr (.inr ⟨rfl, fits⟩))

theorem steps_cons (p : Pending) (pair : String × String) (pairs : List (String × String)) :
    steps p (pair :: pairs) = step p pair.1 pair.2 >>= fun q => steps q pairs := by
  rw [steps]
  cases step p pair.1 pair.2 <;> rfl

theorem steps_append (p : Pending) (pairs more : List (String × String)) :
    steps p (pairs ++ more) = steps p pairs >>= fun q => steps q more := by
  induction pairs generalizing p with
  | nil => rfl
  | cons pair pairs ih =>
    rw [List.cons_append, steps_cons, steps_cons]
    cases step p pair.1 pair.2 with
    | error e => rfl
    | ok q => exact ih q

theorem steps_cons_eq_ok {p q : Pending} :
    steps p (pair :: pairs) = .ok q ↔ ∃ r, Reads p pair r ∧ steps r pairs = .ok q := by
  rw [steps_cons]
  constructor
  · intro h
    cases first : step p pair.1 pair.2 with
    | error e =>
      rw [first] at h
      cases h
    | ok r =>
      rw [first] at h
      exact ⟨r, step_eq_ok_iff.1 first, h⟩
  · rintro ⟨r, first, rest⟩
    rw [step_eq_ok_iff.2 first]
    exact rest

theorem exists_steps (valid : ∀ pair ∈ pairs, Valid pair) (p : Pending) :
    ∃ q, steps p pairs = .ok q := by
  induction pairs generalizing p with
  | nil => exact ⟨p, rfl⟩
  | cons pair pairs ih =>
    rw [List.forall_mem_cons] at valid
    obtain ⟨r, first⟩ := valid.1.reads p
    obtain ⟨q, rest⟩ := ih valid.2 r
    exact ⟨q, steps_cons_eq_ok.2 ⟨r, first, rest⟩⟩

/-- What has been read after a list of parameters. -/
structure Run (p : Pending) (pairs : List (String × String)) (q : Pending) : Prop where
  valid : ∀ pair ∈ pairs, pair.1 = "o" ∨ Valid pair
  names : q.names = p.names ++ valuesOf "o" pairs
  masks : ∀ o, q.masks.contains o = true ↔
    p.masks.contains o = true ∨ ∃ pair ∈ pairs, Masks o pair
  pin : q.pin = ((lastPin pairs).map fun value => (ObjectId.parse value).toOption).getD p.pin

theorem Run.cons {p r q : Pending} (first : Reads p pair r) (rest : Run r pairs q) :
    Run p (pair :: pairs) q where
  valid := List.forall_mem_cons.2 ⟨first.valid, rest.valid⟩
  names := by
    rw [rest.names]
    cases first <;> simp [valuesOf]
  masks o := by
    rw [rest.masks, List.exists_mem_cons_iff, ← or_assoc]
    refine or_congr_left ?_
    cases first with
    | name value => simp [Masks]
    | mask read => simp [Masks, read, OptionSet.contains_union, ← OptionSet.contains_eq_testBit]
    | pin fits => simp [Masks]
  pin := by
    rw [rest.pin]
    cases first with
    | name value => rw [lastPin, lastPin, valuesOf_cons_of_ne (by simp)]
    | mask read => rw [lastPin, lastPin, valuesOf_cons_of_ne (by simp)]
    | pin fits =>
      rw [lastPin_cons]
      cases lastPin pairs <;> rfl

theorem run_of_steps {p q : Pending} (h : steps p pairs = .ok q) : Run p pairs q := by
  induction pairs generalizing p with
  | nil =>
    cases h
    exact ⟨by simp, by simp [valuesOf], by simp, rfl⟩
  | cons pair pairs ih =>
    obtain ⟨r, first, rest⟩ := steps_cons_eq_ok.1 h
    exact (ih rest).cons first

/-- The names are looked up after all other parameters. -/
def Pending.query (p : Pending) : Except ApiError ChangeQuery :=
  match OptionSet.ofNames p.names with
  | .ok named => .ok ⟨p.masks.union named, p.pin⟩
  | .error e => .error (.ofInput e)

theorem ofPairs_eq (pairs : List (String × String)) :
    ofPairs pairs = steps ⟨[], .empty, none⟩ pairs >>= Pending.query := by
  rw [ofPairs]
  cases steps ⟨[], .empty, none⟩ pairs <;> rfl

theorem ofPairs_eq_ok {q : ChangeQuery} :
    ofPairs pairs = .ok q ↔ ∃ p named, steps ⟨[], .empty, none⟩ pairs = .ok p ∧
      OptionSet.ofNames p.names = .ok named ∧ q = ⟨p.masks.union named, p.pin⟩ := by
  rw [ofPairs]
  constructor
  · intro h
    cases read : steps ⟨[], .empty, none⟩ pairs with
    | error e =>
      rw [read] at h
      cases h
    | ok p =>
      rw [read] at h
      dsimp only at h
      cases found : OptionSet.ofNames p.names with
      | error e =>
        rw [found] at h
        cases h
      | ok named =>
        rw [found] at h
        cases h
        exact ⟨p, named, rfl, found, rfl⟩
  · rintro ⟨p, named, read, found, rfl⟩
    rw [read]
    dsimp only
    rw [found]

theorem exists_ofPairs_iff : (∃ q, ofPairs pairs = .ok q) ↔ ∀ pair ∈ pairs, Valid pair := by
  constructor
  · rintro ⟨q, h⟩ pair there
    obtain ⟨p, named, read, found, -⟩ := ofPairs_eq_ok.1 h
    have run := run_of_steps read
    obtain key | valid := run.valid pair there
    · have value : pair.2 ∈ p.names := by
        rw [run.names]
        exact mem_valuesOf.2 (key ▸ there)
      exact .inl ⟨key, OptionSet.exists_addNames_iff.1 ⟨named, found⟩ pair.2 value⟩
    · exact valid
  · intro valid
    obtain ⟨p, read⟩ := exists_steps valid ⟨[], .empty, none⟩
    have options : ∀ token ∈ p.names, ∃ o : OutputOption,
        Text.sameFolded o.name token = true := by
      intro token there
      rw [(run_of_steps read).names] at there
      exact (valid _ (mem_valuesOf.1 there)).named
    obtain ⟨named, found⟩ := OptionSet.exists_addNames_iff.2 options
    exact ⟨_, ofPairs_eq_ok.2 ⟨p, named, read, found, rfl⟩⟩

theorem contains_of_pairs {q : ChangeQuery} (h : ofPairs pairs = .ok q) (o : OutputOption) :
    q.options.contains o = true ↔ ∃ pair ∈ pairs, Asks o pair := by
  obtain ⟨p, named, read, found, rfl⟩ := ofPairs_eq_ok.1 h
  have run := run_of_steps read
  have masks : p.masks.contains o = true ↔ ∃ pair ∈ pairs, Masks o pair := by
    rw [run.masks, OptionSet.contains_empty]
    simp
  have names : named.contains o = true ↔
      ∃ pair ∈ pairs, pair.1 = "o" ∧ Text.sameFolded o.name pair.2 = true := by
    rw [OptionSet.contains_addNames found, OptionSet.contains_empty, run.names]
    simp [mem_valuesOf]
  rw [OptionSet.contains_union, Bool.or_eq_true, masks, names, or_comm, ← exists_or]
  simp only [Asks, and_or_left]

theorem pin_of_pairs {q : ChangeQuery} (h : ofPairs pairs = .ok q) :
    q.pin = (lastPin pairs).bind fun value => (ObjectId.parse value).toOption := by
  obtain ⟨p, named, read, -, rfl⟩ := ofPairs_eq_ok.1 h
  rw [(run_of_steps read).pin]
  cases lastPin pairs <;> rfl

theorem pin_eq_some_iff {q : ChangeQuery} (h : ofPairs pairs = .ok q) {id : ObjectId} :
    q.pin = some id ↔
      ∃ value, lastPin pairs = some value ∧ value.toList.map Text.fold = id.hex.toList := by
  rw [pin_of_pairs h, Option.bind_eq_some_iff]
  refine exists_congr fun value => and_congr_right fun _ => ?_
  rw [← ObjectId.parse_eq_ok_iff]
  cases ObjectId.parse value <;> simp [Except.toOption]

theorem pin_eq_none_iff {q : ChangeQuery} (h : ofPairs pairs = .ok q) :
    q.pin = none ↔ lastPin pairs = none ∨ lastPin pairs = some "" := by
  rw [pin_of_pairs h]
  cases last : lastPin pairs with
  | none => simp
  | some value =>
    have valid := exists_ofPairs_iff.1 ⟨q, h⟩ _ (mem_of_lastPin last)
    obtain rfl | digits := valid.pinned
    · simp [show ObjectId.parse "" = .error _ from rfl, Except.toOption]
    · obtain ⟨id, read⟩ := ObjectId.exists_parse_iff.2 digits
      simp [read, digits.ne_empty, Except.toOption]

/-- The same with names in front. -/
def Pending.behind (names : List String) (p : Pending) : Pending :=
  { p with names := names ++ p.names }

theorem step_behind (names : List String) (p : Pending) (key value : String) :
    step (p.behind names) key value = (step p key value).map (Pending.behind names) := by
  unfold step
  split
  · exact congrArg Except.ok (congrArg (Pending.mk · p.masks p.pin) (List.append_assoc ..))
  split
  · cases OptionSet.ofHex value <;> rfl
  split
  · split
    · rfl
    · cases ObjectId.parse value <;> rfl
  · rfl

/-- Names that stand in front have no part in reading the parameters. -/
theorem steps_behind (names : List String) (p : Pending) (pairs : List (String × String)) :
    steps (p.behind names) pairs = (steps p pairs).map (Pending.behind names) := by
  induction pairs generalizing p with
  | nil => rfl
  | cons pair pairs ih =>
    rw [steps_cons, steps_cons, step_behind]
    cases step p pair.1 pair.2 with
    | error e => rfl
    | ok q => exact ih q

theorem query_behind_again {names : List String} (there : value ∈ names) (p : Pending) :
    (p.behind (names ++ [value])).query = (p.behind names).query := by
  simp only [Pending.query, Pending.behind, OptionSet.ofNames, List.append_assoc,
    List.singleton_append, OptionSet.addNames_again there]

theorem steps_named_again {p : Pending} (there : value ∈ p.names) (pairs : List (String × String)) :
    steps p (("o", value) :: pairs) >>= Pending.query = steps p pairs >>= Pending.query := by
  let bare : Pending := { p with names := [] }
  have once : bare.behind p.names = p := by
    simp [bare, Pending.behind]
  have again : step p "o" value = .ok (bare.behind (p.names ++ [value])) := by
    simp [bare, Pending.behind, step]
  have first : steps p (("o", value) :: pairs) =
      (steps bare pairs).map (Pending.behind (p.names ++ [value])) := by
    rw [steps_cons, again, ← steps_behind]
    rfl
  have second : steps p pairs = (steps bare pairs).map (Pending.behind p.names) := by
    rw [← steps_behind, once]
  rw [first, second]
  cases steps bare pairs with
  | error e => rfl
  | ok q => exact query_behind_again there q

/-- What is asked for is a matter of which parameters there are and of the last pin. -/
theorem toOption_of_mem {pairs others : List (String × String)}
    (same : ∀ pair, pair ∈ pairs ↔ pair ∈ others) (pin : lastPin pairs = lastPin others) :
    (ofPairs pairs).toOption = (ofPairs others).toOption := by
  have alike : (∃ q, ofPairs pairs = .ok q) ↔ ∃ q, ofPairs others = .ok q := by
    rw [exists_ofPairs_iff, exists_ofPairs_iff]
    exact forall_congr' fun pair => by rw [same]
  cases first : ofPairs pairs with
  | error e =>
    cases second : ofPairs others with
    | error e => rfl
    | ok r =>
      obtain ⟨q, read⟩ := alike.2 ⟨r, second⟩
      cases first.symm.trans read
  | ok q =>
    obtain ⟨r, second⟩ := alike.1 ⟨q, first⟩
    have options : q.options = r.options := by
      refine OptionSet.ext fun o => Bool.eq_iff_iff.2 ?_
      rw [contains_of_pairs first, contains_of_pairs second]
      exact exists_congr fun pair => by rw [same]
    have pins : q.pin = r.pin := by
      rw [pin_of_pairs first, pin_of_pairs second, pin]
    cases q
    cases r
    cases options
    cases pins
    rw [second]

/-- A name or a mask that has been read adds nothing. -/
theorem ofPairs_again {before : List (String × String)} (there : pair ∈ before)
    (kind : pair.1 = "o" ∨ pair.1 = "O") (after : List (String × String)) :
    ofPairs (before ++ pair :: after) = ofPairs (before ++ after) := by
  rw [ofPairs_eq, ofPairs_eq, steps_append, steps_append]
  cases read : steps ⟨[], .empty, none⟩ before with
  | error e => rfl
  | ok r =>
    have run := run_of_steps read
    show steps r (pair :: after) >>= Pending.query = steps r after >>= Pending.query
    obtain ⟨key, value⟩ := pair
    obtain rfl | rfl := kind
    · have named : value ∈ r.names := by
        rw [run.names]
        exact mem_valuesOf.2 there
      exact steps_named_again named after
    · obtain ⟨s, mask⟩ := ((run.valid _ there).resolve_left (by simp)).masked
      have kept : r.masks.union s = r.masks := OptionSet.union_of_contains fun o bit =>
        (run.masks o).2 (.inr ⟨_, there, rfl, s, mask, bit⟩)
      rw [steps_cons, step_eq_ok_iff.2 (.mask mask), kept]
      rfl

/-- Parameters are read when each is valid, and then the options are those that are asked for and
the pin is the last one. So they may be put in another order if that of the pins stays, and a name
or a mask may be repeated. -/
theorem parameters_read (pairs : List (String × String)) :
    ((∃ q, ofPairs pairs = .ok q) ↔ ∀ pair ∈ pairs, Valid pair) ∧
      (∀ q, ofPairs pairs = .ok q →
        (∀ o, q.options.contains o = true ↔ ∃ pair ∈ pairs, Asks o pair) ∧
          (∀ id, q.pin = some id ↔
            ∃ value, lastPin pairs = some value ∧ value.toList.map Text.fold = id.hex.toList) ∧
          (q.pin = none ↔ lastPin pairs = none ∨ lastPin pairs = some "")) ∧
      (∀ others, pairs.Perm others → valuesOf "meta" pairs = valuesOf "meta" others →
        (ofPairs pairs).toOption = (ofPairs others).toOption) ∧
      ∀ before after pair, before ++ after = pairs → pair ∈ pairs →
        pair.1 = "o" ∨ pair.1 = "O" →
          (ofPairs (before ++ pair :: after)).toOption = (ofPairs pairs).toOption ∧
            (pair ∈ before → ofPairs (before ++ pair :: after) = ofPairs pairs) := by
  refine ⟨exists_ofPairs_iff, ?_, ?_, ?_⟩
  · intro q h
    exact ⟨contains_of_pairs h, fun id => pin_eq_some_iff h, pin_eq_none_iff h⟩
  · intro others perm pins
    refine toOption_of_mem (fun pair => perm.mem_iff) ?_
    rw [lastPin, pins, lastPin]
  · rintro before after pair rfl there kind
    refine ⟨toOption_of_mem (fun other => ?_) ?_, fun earlier => ofPairs_again earlier kind after⟩
    · rw [List.perm_middle.mem_iff, List.mem_cons]
      exact or_iff_right_of_imp fun same => same ▸ there
    · have other : pair.1 ≠ "meta" := by
        obtain name | mask := kind
        · simp [name]
        · simp [mask]
      rw [lastPin, lastPin, valuesOf_append, valuesOf_cons_of_ne other, ← valuesOf_append]

def asked : List (String × String) :=
  [("meta", ""), ("o", "labels"), ("O", " 0X8"),
    ("meta", "ABCDEF0123456789abcdef0123456789ABCDEF01")]

def askedElsewise : List (String × String) :=
  [("O", " 0X8"), ("meta", ""), ("meta", "ABCDEF0123456789abcdef0123456789ABCDEF01"),
    ("o", "labels")]

theorem asked_elsewise :
    (∃ q, ofPairs asked = .ok q ∧ (∃ pair ∈ asked, Asks .currentCommit pair) ∧
      q.options.contains .currentCommit = true) ∧
      (asked.Perm askedElsewise ∧ valuesOf "meta" asked = valuesOf "meta" askedElsewise ∧
        (ofPairs asked).toOption = (ofPairs askedElsewise).toOption) ∧
      ("O", " 0X8") ∈ asked ∧ ofPairs (asked ++ [("O", " 0X8")]) = ofPairs asked := by
  obtain ⟨q, read⟩ : ∃ q, ofPairs asked = .ok q := ⟨_, rfl⟩
  obtain ⟨-, options, order, again⟩ := parameters_read asked
  have masked : ∃ pair ∈ asked, Asks .currentCommit pair :=
    ⟨("O", " 0X8"), by decide, .inr ⟨rfl, _, rfl, rfl⟩⟩
  have perm : asked.Perm askedElsewise := by decide
  have there : ("O", " 0X8") ∈ asked := by decide
  exact ⟨⟨q, read, masked, ((options q read).1 _).2 masked⟩, ⟨perm, rfl, order _ perm rfl⟩, there,
    (again asked [] _ (List.append_nil _) there (.inr rfl)).2 there⟩

end CodeReview.ChangeQuery
