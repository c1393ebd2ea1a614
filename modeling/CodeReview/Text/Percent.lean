import CodeReview.Text.Numeral
import CodeReview.Text.Utf8
import CodeReview.Text.Blank
set_option autoImplicit false

/-!
Percent signs in addresses. A percent sign and two digits of base sixteen stand for a byte;
a percent sign without them stands for itself. Form fields write a blank as a plus sign,
separate pairs by an ampersand and end a key at its first equals sign.
-/
namespace CodeReview.Text.Percent

def decode : List Char → List UInt8
  | [] => []
  | '%' :: h :: l :: cs =>
    match Numeral.digit? 16 h, Numeral.digit? 16 l with
    | some a, some b => UInt8.ofNat (16 * a + b) :: decode cs
    | _, _ => 0x25 :: decode (h :: l :: cs)
  | c :: cs => String.utf8EncodeChar c ++ decode cs

def segment? (cs : List Char) : Option (List Char) :=
  Utf8.decode? (decode cs)

def field (cs : List Char) : List Char :=
  Utf8.decodeLenient (decode (cs.map fun c => if c = '+' then ' ' else c))

/-- A pair at its first equals sign; a text without one is a key with an empty value. -/
def pair (cs : List Char) : String × String :=
  (String.ofList (field (cs.takeWhile (· ≠ '='))),
    String.ofList (field ((cs.dropWhile (· ≠ '=')).drop 1)))

/-- The pairs of a query, in order; empty pieces are no pairs. -/
def pairs (cs : List Char) : List (String × String) :=
  ((split '&' cs).filter (!·.isEmpty)).map pair

end CodeReview.Text.Percent
