import CodeReview.Text.Blank
import CodeReview.Text.Hex
import CodeReview.Json.Record
set_option autoImplicit false

/-!
Universal unique ids: sixteen bytes. The written form has hyphens after the fourth, sixth,
eighth and tenth byte and small letters. Besides it, readers take the digits without hyphens,
and the hyphenated form in braces or after `urn:uuid:`, with letters of either case.
-/
namespace CodeReview

structure Uuid where
  bytes : List UInt8
  length_eq : bytes.length = 16
  deriving DecidableEq, Repr

namespace Uuid

def ofBytes? (bytes : List UInt8) : Option Uuid :=
  if h : bytes.length = 16 then some ⟨bytes, h⟩ else none

def ofRandom? (bytes : List UInt8) : Option Uuid :=
  ofBytes? ((bytes.modify 6 fun b => b &&& 0x0f ||| 0x40).modify 8 fun b => b &&& 0x3f ||| 0x80)

/-- The order of ids is the order of their bytes from the left. -/
def before (a b : Uuid) : Bool :=
  decide (a.bytes < b.bytes)

def hyphenate (cs : List Char) : List Char :=
  cs.take 8 ++ '-' :: ((cs.drop 8).take 4 ++ '-' :: ((cs.drop 12).take 4 ++ '-' ::
    ((cs.drop 16).take 4 ++ '-' :: cs.drop 20)))

def simple (u : Uuid) : List Char :=
  Text.Hex.encode u.bytes

def text (u : Uuid) : String :=
  String.ofList (hyphenate u.simple)

/-- The digits without the hyphens, which must stand exactly at their places. -/
def unhyphenate? (cs : List Char) : Option (List Char) :=
  let digits := cs.take 8 ++ (cs.drop 9).take 4 ++ (cs.drop 14).take 4 ++ (cs.drop 19).take 4
    ++ cs.drop 24
  if digits.length = 32 ∧ hyphenate digits = cs then some digits else none

def ofDigits? (cs : List Char) : Option Uuid :=
  (Text.Hex.decode cs).bind ofBytes?

/-- The text inside braces, without the braces. -/
def unbrace? : List Char → Option (List Char)
  | '\x7b' :: cs => if cs.getLast? = some '\x7d' then some cs.dropLast else none
  | _ => none

/-- The text after `urn:uuid:`, in letters of either case. -/
def afterMark? (cs : List Char) : Option (List Char) :=
  if (cs.take 9).map Text.fold = "urn:uuid:".toList then some (cs.drop 9) else none

def parseChars? (cs : List Char) : Option Uuid :=
  if cs.length = 32 then ofDigits? cs
  else if cs.length = 36 then (unhyphenate? cs).bind ofDigits?
  else if cs.length = 38 then ((unbrace? cs).bind unhyphenate?).bind ofDigits?
  else if cs.length = 45 then ((afterMark? cs).bind unhyphenate?).bind ofDigits?
  else none

def parse? (s : String) : Option Uuid :=
  parseChars? s.toList

def toJson (u : Uuid) : Json :=
  .text u.text

def ofJson? (j : Json) : Option Uuid :=
  j.text?.bind parse?

end Uuid

end CodeReview
