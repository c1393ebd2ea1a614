import CodeReview.Account.Summary
import CodeReview.Settings
set_option autoImplicit false

/-!
Finding the account that a token names. A token is `self`, a number, a mail address in angle
brackets or a number in parentheses at the end of any text, a username, a mail address or a full
name, tried in this order. Matches that the caller may not see count only as hidden, and asking
for the one account behind a token reports them like missing ones.
-/
namespace CodeReview

structure Matches where
  visible : List Account
  hidden : Nat
  deriving DecidableEq, Repr

namespace Matches

def isEmpty (m : Matches) : Bool :=
  m.visible.isEmpty && m.hidden = 0

def unique (m : Matches) (token : String) : Except ApiError Account :=
  match m.visible with
  | [] => .error (.accountMissing token)
  | [a] => .ok a
  | _ => .error (.accountAmbiguous token)

end Matches

/-- The text between the last opening bracket and a closing one at the end. -/
def bracketed (opening closing : Char) (token : List Char) : Option (List Char) :=
  match token.reverse with
  | c :: cs =>
    if c = closing ∧ opening ∈ cs then
      some (Text.trimChars (cs.takeWhile (· ≠ opening)).reverse)
    else none
  | [] => none

def accountsById (id : AccountId) : Act ApiError (List Account) := do
  return (← findAccount id).toList

def accountsByName (token : String) : Act ApiError (List Account) := do
  match ← (Act.findByUsername token).mapError .ofStore with
  | some a => return [a]
  | none =>
    if '@' ∈ token.toList then
      match ← (Act.findByEmail token).mapError .ofStore with
      | [] => (Act.findByFullName token).mapError .ofStore
      | found => return found
    else (Act.findByFullName token).mapError .ofStore

def bracketedId (token : String) : Option AccountId :=
  (bracketed '(' ')' token.toList).bind fun cs => AccountId.parse? (String.ofList cs)

/-- The accounts of a token without blanks around it. -/
def candidates (token : String) : Act ApiError (List Account) :=
  if token = "" then return []
  else match AccountId.parse? token with
    | some id => accountsById id
    | none =>
      match bracketed '<' '>' token.toList with
      | some email => (Act.findByEmail (String.ofList email)).mapError .ofStore
      | none =>
        match bracketedId token with
        | some id => accountsById id
        | none => accountsByName token

/-- Whether the caller may see an account. Everyone sees oneself, and administrators see all. -/
def canSee (settings : Settings) (caller : Caller) (a : Account) : Act ApiError Bool :=
  match caller.accountId? with
  | none => return settings.accountVisibility = .all
  | some viewer =>
    if viewer = a.id ∨ settings.accountVisibility = .all then return true
    else do
      if ← (isAdministrator settings.adminGroup viewer).mapError .ofStore then return true
      match settings.accountVisibility with
      | .all => return true
      | .none => return false
      | .sameGroup =>
        let mine ← (Act.groupsContaining viewer).mapError .ofStore
        let theirs ← (Act.groupsContaining a.id).mapError .ofStore
        return mine.any fun g => theirs.contains g

def splitVisible (settings : Settings) (caller : Caller) : List Account → Act ApiError Matches
  | [] => return ⟨[], 0⟩
  | a :: rest => do
    let seen ← canSee settings caller a
    let m ← splitVisible settings caller rest
    return if seen then { m with visible := a :: m.visible } else { m with hidden := m.hidden + 1 }

/-- Every account of a token, inactive ones too. -/
def lookupAccounts (settings : Settings) (caller : Caller) (token : String) :
    Act ApiError Matches :=
  let token := Text.trim token
  if token = "self" then do
    let a ← Act.ofExcept caller.requireUser
    return ⟨[a], 0⟩
  else do
    splitVisible settings caller (← candidates token)

def parseAccount (settings : Settings) (caller : Caller) (token : String) :
    Act ApiError Account := do
  Act.ofExcept ((← lookupAccounts settings caller token).unique token)

end CodeReview
