import CodeReview.ApiError
import CodeReview.Json.Printer
import CodeReview.Text.Blank
import CodeReview.Text.Utf8
set_option autoImplicit false

/-!
Requests and responses. The values of headers and the bodies of requests are bytes; a header is
found by its name in letters of either case, and its first value counts. The target of a request
is a path on the host that was asked, or a whole address that names the host too.
-/
namespace CodeReview.Http

structure Request where
  method : String
  target : String
  headers : List (String × List UInt8)
  body : List UInt8
  deriving DecidableEq, Repr

structure Response where
  status : Nat
  headers : List (String × String)
  body : String
  deriving DecidableEq, Repr

/-- Header text may hold visible characters, blanks and tabs. -/
def isHeaderText (b : UInt8) : Bool :=
  (0x20 ≤ b && b < 0x7f) || b = 0x09

def headerText? (bs : List UInt8) : Option String :=
  if bs.all isHeaderText then some (String.ofList (bs.map fun b => Char.ofNat b.toNat)) else none

def isSchemeChar (c : Char) : Bool :=
  c.isAlphanum || c = '+' || c = '-' || c = '.' || c = '~'

/-- What follows the scheme and the host of a target that names them. -/
def withoutHost (target : List Char) : List Char :=
  match target.dropWhile isSchemeChar with
  | ':' :: '/' :: '/' :: rest =>
    match rest.dropWhile fun c => c ≠ '/' && c ≠ '?' && c ≠ '#' with
    | '/' :: path => '/' :: path
    | noPath => '/' :: noPath
  | _ => target

namespace Request

def header? (r : Request) (name : String) : Option (List UInt8) :=
  (r.headers.find? fun h => Text.sameFolded h.1 name).map Prod.snd

/-- The target on its host, without a fragment. -/
def address (r : Request) : List Char :=
  (withoutHost r.target.toList).takeWhile (· ≠ '#')

def path (r : Request) : List Char :=
  r.address.takeWhile (· ≠ '?')

def query (r : Request) : List Char :=
  (r.address.dropWhile (· ≠ '?')).drop 1

end Request

namespace Response

def json (status : Nat) (j : Json) : Response :=
  ⟨status, [("content-type", "application/json")], j.compact⟩

def empty (status : Nat) : Response :=
  ⟨status, [], ""⟩

def ofError (e : ApiError) : Response :=
  json e.status (.object [
    ("error", .object [("code", .text e.code), ("message", .text e.message)]),
    ("success", .bool false)])

def withoutBody (r : Response) : Response :=
  { r with body := "" }

end Response

end CodeReview.Http
