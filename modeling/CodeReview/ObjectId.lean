import CodeReview.InputError
import CodeReview.Text.Hex
import CodeReview.Json.Record
set_option autoImplicit false

/-!
Object ids: twenty bytes that name a revision or a snapshot by its content. The text is forty
digits in base sixteen, read in either case and written in small letters.
-/
namespace CodeReview

structure ObjectId where
  bytes : List UInt8
  length_eq : bytes.length = 20
  deriving DecidableEq, Repr

namespace ObjectId

def ofBytes? (bytes : List UInt8) : Option ObjectId :=
  if h : bytes.length = 20 then some ⟨bytes, h⟩ else none

def hex (id : ObjectId) : String :=
  String.ofList (Text.Hex.encode id.bytes)

def described (id : ObjectId) : String :=
  "ObjectId(" ++ id.hex ++ ")"

def parse (s : String) : Except InputError ObjectId :=
  match (Text.Hex.decode s.toList).bind ofBytes? with
  | some id => .ok id
  | none => .error (.invalidObjectId s)

def toJson (id : ObjectId) : Json :=
  .text id.hex

def ofJson? (j : Json) : Option ObjectId :=
  j.text?.bind fun s => (parse s).toOption

end ObjectId

end CodeReview
