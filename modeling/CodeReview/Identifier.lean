import CodeReview.Text.Numeral
import CodeReview.Json.Record
set_option autoImplicit false

/-!
Numbers that identify accounts, changes and groups. Each kind has a type of its own.
-/
namespace CodeReview

structure AccountId where
  number : UInt32
  deriving DecidableEq, Repr

structure ChangeNumber where
  number : UInt32
  deriving DecidableEq, Repr

/-- The number by which old clients name a group. -/
structure GroupNumber where
  number : UInt32
  deriving DecidableEq, Repr

def AccountId.text (id : AccountId) : String :=
  Text.Numeral.decimalText id.number.toNat

def ChangeNumber.text (n : ChangeNumber) : String :=
  Text.Numeral.decimalText n.number.toNat

def GroupNumber.text (n : GroupNumber) : String :=
  Text.Numeral.decimalText n.number.toNat

def AccountId.parse? (s : String) : Option AccountId :=
  (Text.Numeral.uint32? s).toOption.map AccountId.mk

def ChangeNumber.parse? (s : String) : Option ChangeNumber :=
  (Text.Numeral.uint32? s).toOption.map ChangeNumber.mk

def GroupNumber.parse? (s : String) : Option GroupNumber :=
  (Text.Numeral.uint32? s).toOption.map GroupNumber.mk

def AccountId.toJson (id : AccountId) : Json :=
  .ofUInt32 id.number

def ChangeNumber.toJson (n : ChangeNumber) : Json :=
  .ofUInt32 n.number

def GroupNumber.toJson (n : GroupNumber) : Json :=
  .ofUInt32 n.number

def AccountId.ofJson? (j : Json) : Option AccountId :=
  j.uint32?.map AccountId.mk

def ChangeNumber.ofJson? (j : Json) : Option ChangeNumber :=
  j.uint32?.map ChangeNumber.mk

def GroupNumber.ofJson? (j : Json) : Option GroupNumber :=
  j.uint32?.map GroupNumber.mk

end CodeReview
