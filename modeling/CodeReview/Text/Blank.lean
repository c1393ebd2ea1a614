set_option autoImplicit false

/-!
Blank characters and letter case. A character is blank when Unicode gives it the property
`White_Space`; trimming removes blank characters from both ends of a text and nothing else.
Letter case is that of the 26 Latin letters alone: every other character is its own fold.
-/
namespace CodeReview.Text

/-- The twenty-five characters with the Unicode property `White_Space`. -/
def isBlank (c : Char) : Bool :=
  (9 ≤ c.toNat && c.toNat ≤ 13) || c.toNat == 0x20 || c.toNat == 0x85 || c.toNat == 0xa0
    || c.toNat == 0x1680 || (0x2000 ≤ c.toNat && c.toNat ≤ 0x200a) || c.toNat == 0x2028
    || c.toNat == 0x2029 || c.toNat == 0x202f || c.toNat == 0x205f || c.toNat == 0x3000

def trimStart (cs : List Char) : List Char :=
  cs.dropWhile isBlank

def trimEnd (cs : List Char) : List Char :=
  (cs.reverse.dropWhile isBlank).reverse

def trimChars (cs : List Char) : List Char :=
  trimEnd (trimStart cs)

def trim (s : String) : String :=
  String.ofList (trimChars s.toList)

theorem trimStart_of_head {c : Char} {cs : List Char} (h : isBlank c = false) :
    trimStart (c :: cs) = c :: cs := by
  simp [trimStart, List.dropWhile, h]

theorem trimEnd_of_last {c : Char} {cs : List Char} (h : isBlank c = false) :
    trimEnd (cs ++ [c]) = cs ++ [c] := by
  simp [trimEnd, h]

/-- The small letter of a Latin capital, and every other character as it is. -/
def fold (c : Char) : Char :=
  c.toLower

/-- The two texts agree letter for letter once Latin capitals are made small. -/
def sameFolded (s t : String) : Bool :=
  s.toList.map fold == t.toList.map fold

theorem sameFolded_iff {s t : String} :
    sameFolded s t = true ↔ s.toList.map fold = t.toList.map fold := by
  simp [sameFolded]

def isAsciiAlphanumeric (c : Char) : Bool :=
  c.isAlphanum

def stripStart : List Char → List Char → Option (List Char)
  | [], cs => some cs
  | _ :: _, [] => none
  | p :: ps, c :: cs => if p = c then stripStart ps cs else none

theorem stripStart_append (p cs : List Char) : stripStart p (p ++ cs) = some cs := by
  induction p with
  | nil => rfl
  | cons p ps ih => simp [stripStart, ih]

theorem eq_append_of_stripStart {p cs rest : List Char} (h : stripStart p cs = some rest) :
    cs = p ++ rest := by
  induction p generalizing cs with
  | nil => simp [stripStart] at h; simp [h]
  | cons p ps ih =>
    cases cs with
    | nil => simp [stripStart] at h
    | cons c cs =>
      simp only [stripStart] at h
      split at h
      · next e => subst e; simp [ih h]
      · exact absurd h (by simp)

/-- The pieces between the separators, the empty ones too; there is always one piece more than
separators. -/
def split {α : Type} [DecidableEq α] (sep : α) : List α → List (List α)
  | [] => [[]]
  | c :: cs =>
    if c = sep then [] :: split sep cs
    else match split sep cs with
      | [] => [[c]]
      | piece :: pieces => (c :: piece) :: pieces

theorem split_ne_nil {α : Type} [DecidableEq α] (sep : α) (cs : List α) : split sep cs ≠ [] := by
  cases cs with
  | nil => simp [split]
  | cons c cs =>
    simp only [split]
    split
    · simp
    · split <;> simp

theorem split_of_not_mem {α : Type} [DecidableEq α] {sep : α} {cs : List α} (h : sep ∉ cs) :
    split sep cs = [cs] := by
  induction cs with
  | nil => rfl
  | cons c cs ih =>
    have hc : c ≠ sep := fun e => h (by simp [e])
    have hs : sep ∉ cs := fun e => h (by simp [e])
    simp [split, hc, ih hs]

end CodeReview.Text
