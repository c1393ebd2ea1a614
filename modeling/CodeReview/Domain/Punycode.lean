set_option autoImplicit false

/-!
Labels of letters beyond ASCII, written in letters, digits and hyphens. The ASCII characters come
first, then a hyphen if there are any, then numbers that say where each further character stands,
in the order of their code points. A number is written in digits of base 36, the least significant
first; its last digit is the first one below a threshold that moves with the numbers before it.
-/
namespace CodeReview.Domain.Punycode

def isBasic (c : Char) : Bool :=
  c.toNat < 0x80

def digitChar (d : Nat) : Char :=
  if d < 26 then Char.ofNat ('a'.toNat + d) else Char.ofNat ('0'.toNat + (d - 26))

def digit? (c : Char) : Option Nat :=
  if c.isLower then some (c.toNat - 'a'.toNat)
  else if c.isUpper then some (c.toNat - 'A'.toNat)
  else if c.isDigit then some (c.toNat - '0'.toNat + 26)
  else none

/-- Digits below the threshold end a number. -/
def threshold (place bias : Nat) : Nat :=
  min 26 (max 1 (place - bias))

theorem threshold_pos (place bias : Nat) : 1 ≤ threshold place bias := by
  unfold threshold; omega

/-- Divides until the number is small, and counts the places that this takes. -/
def shrink (delta places : Nat) : Nat × Nat :=
  if 455 < delta then shrink (delta / 35) (places + 36) else (delta, places)
termination_by delta
decreasing_by omega

/-- The bias after a number, by how many characters there are then. -/
def adapt (delta characters : Nat) (isFirst : Bool) : Nat :=
  let delta := if isFirst then delta / 700 else delta / 2
  let (delta, places) := shrink (delta + delta / characters) 0
  places + 36 * delta / (delta + 38)

def writeNumber (bias place n : Nat) : List Char :=
  if n < threshold place bias then [digitChar n]
  else
    let t := threshold place bias
    digitChar (t + (n - t) % (36 - t)) :: writeNumber bias (place + 36) ((n - t) / (36 - t))
termination_by n
decreasing_by
  have := threshold_pos place bias
  have := Nat.div_le_self (n - threshold place bias) (36 - threshold place bias)
  omega

/-- Reads a number whose digits have the given weight on. -/
def readNumber (bias : Nat) : Nat → Nat → Nat → List Char → Option (Nat × List Char)
  | _, _, _, [] => none
  | place, weight, n, c :: cs =>
    match digit? c with
    | none => none
    | some d =>
      if d < threshold place bias then some (n + d * weight, cs)
      else readNumber bias (place + 36) (weight * (36 - threshold place bias)) (n + d * weight) cs

/-- Reading a number uses up at least one character. -/
theorem length_of_readNumber {bias : Nat} {cs : List Char} {place weight n : Nat}
    {r : Nat × List Char} (h : readNumber bias place weight n cs = some r) :
    r.2.length < cs.length := by
  induction cs generalizing place weight n with
  | nil => simp [readNumber] at h
  | cons c cs ih =>
    rw [readNumber] at h
    split at h
    · simp at h
    · split at h
      · simp only [Option.some.injEq] at h
        subst h
        simp
      · have := ih h
        simp only [List.length_cons]
        omega

/-- How far a label is written: the numbers so far, the next number, and what is already there. -/
structure Progress where
  written : List Char
  delta : Nat
  bias : Nat
  characters : Nat

def pass (basic point : Nat) (p : Progress) (c : Char) : Progress :=
  if c.toNat < point then { p with delta := p.delta + 1 }
  else if c.toNat = point then
    ⟨p.written ++ writeNumber p.bias 36 p.delta, 0,
      adapt p.delta (p.characters + 1) (p.characters = basic), p.characters + 1⟩
  else p

/-- Writes the characters of the given code points, of which `reached` is the least possible. -/
def writePoints (cs : List Char) (basic : Nat) : Nat → List Nat → Progress → List Char
  | _, [], p => p.written
  | reached, point :: points, p =>
    let start := { p with delta := p.delta + (point - reached) * (p.characters + 1) }
    let p := cs.foldl (pass basic point) start
    writePoints cs basic (point + 1) points { p with delta := p.delta + 1 }

/-- The code points beyond ASCII, in order and each once. -/
def furtherPoints (cs : List Char) : List Nat :=
  (((cs.filter fun c => !isBasic c).map Char.toNat).mergeSort (· ≤ ·)).eraseReps

def encode (cs : List Char) : List Char :=
  let basic := cs.filter isBasic
  let start : Progress := ⟨[], 0, 72, basic.length⟩
  basic ++ (if basic = [] then [] else ['-'])
    ++ writePoints cs basic.length 0x80 (furtherPoints cs) start

/-- Puts the characters in their places one after the other. -/
def insertAll (bias point index : Nat) (placed : List Char) (cs : List Char) : Option (List Char) :=
  match cs with
  | [] => some placed
  | c :: rest =>
    match _read : readNumber bias 36 1 index (c :: rest) with
    | none => none
    | some (sum, later) =>
      let characters := placed.length + 1
      let point := point + sum / characters
      if point.isValidChar then
        insertAll (adapt (sum - index) characters (index = 0)) point (sum % characters + 1)
          (placed.insertIdx (sum % characters) (Char.ofNat point)) later
      else none
termination_by cs.length
decreasing_by exact length_of_readNumber _read

/-- The label that a text stands for; the last hyphen ends its ASCII characters. -/
def decode (cs : List Char) : Option (List Char) :=
  let numbers := (cs.reverse.takeWhile (· ≠ '-')).reverse
  let basic := cs.take (cs.length - numbers.length - 1)
  if basic = [] ∧ numbers.length < cs.length then none
  else if basic.all isBasic then insertAll 72 0x80 0 basic numbers
  else none

end CodeReview.Domain.Punycode
