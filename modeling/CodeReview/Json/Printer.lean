import CodeReview.Json.Basic
import CodeReview.Json.Quoted
import CodeReview.Json.Number
import CodeReview.Decimal.Shortest
set_option autoImplicit false

/-!
JSON text. The compact form has no blank at all; the laid out form puts every item and field on
a line of its own, two blanks further in than its parent, and writes an empty list or object
without a line. Both keep the order of the fields.
-/
namespace CodeReview.Json

def atom : Json → List Char
  | .null => ['n', 'u', 'l', 'l']
  | .bool true => ['t', 'r', 'u', 'e']
  | .bool false => ['f', 'a', 'l', 's', 'e']
  | .int i => Number.writeInt i
  | .float bits => Decimal.text bits
  | .text s => Quoted.encode s
  | _ => ['n', 'u', 'l', 'l']

mutual

def chars : Json → List Char
  | .array [] => ['[', ']']
  | .array (x :: xs) => '[' :: (chars x ++ charsItems xs)
  | .object [] => ['\x7b', '\x7d']
  | .object ((k, x) :: fs) => '\x7b' :: (Quoted.encode k ++ ':' :: (chars x ++ charsFields fs))
  | .null => atom .null
  | .bool b => atom (.bool b)
  | .int i => atom (.int i)
  | .float bits => atom (.float bits)
  | .text s => atom (.text s)
  | .unreadable => atom .unreadable

/-- The items after the first one, and the closing bracket. -/
def charsItems : List Json → List Char
  | [] => [']']
  | x :: xs => ',' :: (chars x ++ charsItems xs)

def charsFields : List (String × Json) → List Char
  | [] => ['\x7d']
  | (k, x) :: fs => ',' :: (Quoted.encode k ++ ':' :: (chars x ++ charsFields fs))

end

def compact (j : Json) : String :=
  String.ofList j.chars

def newLine (level : Nat) : List Char :=
  '\n' :: List.replicate (2 * level) ' '

mutual

/-- The laid out text of a value that stands at a level. -/
def layout (level : Nat) : Json → List Char
  | .array [] => ['[', ']']
  | .array (x :: xs) =>
    '[' :: (newLine (level + 1) ++ layout (level + 1) x ++ layoutItems level xs)
  | .object [] => ['\x7b', '\x7d']
  | .object ((k, x) :: fs) =>
    '\x7b' :: (newLine (level + 1) ++ Quoted.encode k ++ ':' :: ' ' ::
      (layout (level + 1) x ++ layoutFields level fs))
  | .null => atom .null
  | .bool b => atom (.bool b)
  | .int i => atom (.int i)
  | .float bits => atom (.float bits)
  | .text s => atom (.text s)
  | .unreadable => atom .unreadable

def layoutItems (level : Nat) : List Json → List Char
  | [] => newLine level ++ [']']
  | x :: xs => ',' :: (newLine (level + 1) ++ layout (level + 1) x ++ layoutItems level xs)

def layoutFields (level : Nat) : List (String × Json) → List Char
  | [] => newLine level ++ ['\x7d']
  | (k, x) :: fs =>
    ',' :: (newLine (level + 1) ++ Quoted.encode k ++ ':' :: ' ' ::
      (layout (level + 1) x ++ layoutFields level fs))

end

def pretty (j : Json) : String :=
  String.ofList (j.layout 0)

end CodeReview.Json
