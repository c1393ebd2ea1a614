import CodeReview.Text.Numeral
set_option autoImplicit false

/-!
Escapes in addresses. A character that may not stand in a part of an address is written as a
percent sign and two digits of base sixteen for each byte of its encoding. What is escaped
depends on the part.
-/
namespace CodeReview.Http

def isControl (c : Char) : Bool :=
  c.toNat < 0x20 || 0x7f ≤ c.toNat

def escapedInFragment (c : Char) : Bool :=
  isControl c || " \"<>`".contains c

def escapedInQuery (c : Char) : Bool :=
  isControl c || " \"#<>".contains c

/-- Queries of the schemes of the web have no single quote either. -/
def escapedInWebQuery (c : Char) : Bool :=
  escapedInQuery c || c = '\''

def escapedInPath (c : Char) : Bool :=
  escapedInFragment c || "#?\x7b\x7d".contains c

def escapedInUser (c : Char) : Bool :=
  escapedInPath c || "/:;=@[\\]^|".contains c

def upperHex (n : Nat) : Char :=
  (Nat.digitChar n).toUpper

def escapeByte (b : UInt8) : List Char :=
  ['%', upperHex (b.toNat / 16), upperHex (b.toNat % 16)]

def escape (mustEscape : Char → Bool) (cs : List Char) : List Char :=
  cs.flatMap fun c => if mustEscape c then (String.utf8EncodeChar c).flatMap escapeByte else [c]

end CodeReview.Http
