import CodeReview.Text.Numeral
set_option autoImplicit false

/-!
Shortest decimal text of a binary fraction. A finite double is m times a power of two, and the
reals that round to it form an interval. Among the decimal grids, from coarse to fine, the first
one with a point in that interval gives the digits; of two such points the nearer is taken, and
the even one when both are equally near.
-/
namespace CodeReview.Decimal

/-- The parts of a double by its bits: the sign, the mantissa, the power of two, and whether the
next smaller mantissa lies at half the distance. -/
structure Binary where
  negative : Bool
  mantissa : Nat
  power : Int
  halfBelow : Bool
  deriving DecidableEq, Repr

def Binary.ofBits (bits : UInt64) : Binary :=
  let n := bits.toNat
  let fraction : Nat := n % (1 <<< 52)
  let exponent : Nat := (n >>> 52) % (1 <<< 11)
  let negative := 1 <<< 63 ≤ n
  if exponent = 0 then ⟨negative, fraction, -1074, false⟩
  else ⟨negative, (1 <<< 52) + fraction, Int.ofNat exponent - 1075, fraction = 0 && exponent ≠ 1⟩

/-- Digits and the power of ten of the last one. -/
structure Digits where
  digits : Nat
  power : Int
  deriving DecidableEq, Repr

/-- The point of the grid with the given power of ten that stands for the number, if one does. -/
def Binary.onGrid? (b : Binary) (k : Int) : Option Nat :=
  let q := b.power - 2
  let scale := Nat.pow 2 q.toNat * Nat.pow 10 (-k).toNat
  let unit := Nat.pow 2 (-q).toNat * Nat.pow 10 k.toNat
  let value := 4 * b.mantissa * scale
  let low := (4 * b.mantissa - (if b.halfBelow then 1 else 2)) * scale
  let high := (4 * b.mantissa + 2) * scale
  let inside (p : Nat) : Bool :=
    p ≠ 0 && (if b.mantissa % 2 = 0 then low ≤ p * unit && p * unit ≤ high
      else low < p * unit && p * unit < high)
  let below := value / unit
  let above := below + 1
  if inside below then
    if inside above then
      let toBelow := value - below * unit
      let toAbove := above * unit - value
      if toBelow < toAbove then some below
      else if toAbove < toBelow then some above
      else if below % 2 = 0 then some below else some above
    else some below
  else if inside above then some above
  else none

/-- The first grid with a point for the number, from the given power of ten downwards. -/
def Binary.search (b : Binary) : Nat → Int → Option Digits
  | 0, _ => none
  | steps + 1, k =>
    match b.onGrid? k with
    | some d => some ⟨d, k⟩
    | none => b.search steps (k - 1)

def Binary.shortest? (b : Binary) : Option Digits :=
  if b.mantissa = 0 then none else b.search 700 330

/-- Places a decimal point: positional text while the point falls at most five places before or
sixteen after the first digit, and otherwise one digit before the point and an exponent with its
sign. -/
def Digits.place (d : Digits) : List Char :=
  let ds := Text.Numeral.decimal d.digits
  let point : Int := ds.length + d.power
  if 0 ≤ d.power ∧ point ≤ 16 then
    ds ++ List.replicate d.power.toNat '0' ++ ['.', '0']
  else if 0 < point ∧ point ≤ 16 then
    ds.take point.toNat ++ '.' :: ds.drop point.toNat
  else if -5 < point ∧ point ≤ 0 then
    '0' :: '.' :: List.replicate (-point).toNat '0' ++ ds
  else
    let e := point - 1
    let exponent := (if e < 0 then '-' else '+') :: Text.Numeral.decimal e.natAbs
    match ds with
    | [] => []
    | [c] => c :: 'e' :: exponent
    | c :: rest => c :: '.' :: rest ++ 'e' :: exponent

/-- The text of a finite double given by its bits. -/
def text (bits : UInt64) : List Char :=
  let b := Binary.ofBits bits
  (if b.negative then ['-'] else []) ++
    match b.shortest? with
    | none => ['0', '.', '0']
    | some d => d.place

end CodeReview.Decimal
