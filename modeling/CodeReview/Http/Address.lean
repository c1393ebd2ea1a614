import CodeReview.Http.Host
set_option autoImplicit false

/-!
Addresses. An address is put into its normal form when it is read: blanks at the ends and line
breaks anywhere are dropped, the scheme is written in small letters and the host in the form of
its kind, the usual port is left out, the path is freed of dot segments, and characters that may
not stand in a part are escaped byte by byte. The schemes of the web and of files always have a
path, and a backslash counts as a slash there.
-/
namespace CodeReview.Http

/-- Who is asked at which host. An empty host is none. -/
structure Authority where
  user : List Char
  password : Option (List Char)
  host : Option Host
  port : Option Nat
  deriving DecidableEq, Repr

structure Address where
  scheme : List Char
  authority : Option Authority
  path : List Char
  query : Option (List Char)
  fragment : Option (List Char)
  deriving DecidableEq, Repr

namespace Address

def isSlash (c : Char) : Bool :=
  c = '/' || c = '\\'

def segments (isEnd : Char → Bool) (cs : List Char) : List (List Char) :=
  Text.split '/' (cs.map fun c => if isEnd c then '/' else c)

/-- The two points of a dot segment may be escaped. -/
def dots (s : List Char) : List Char :=
  match s with
  | '%' :: '2' :: e :: rest => if e = 'e' ∨ e = 'E' then '.' :: dots rest else s
  | c :: rest => c :: dots rest
  | [] => []

/-- A letter for a drive, with a colon or a bar. -/
def isDrive : List Char → Bool
  | [c, d] => c.isAlpha && (d = ':' || d = '|')
  | _ => false

/-- The segment before goes with a segment of two dots, unless it is a drive. -/
def dropLastKept : List (List Char) → List (List Char)
  | [] => []
  | s :: kept => if isDrive s then s :: kept else kept

def isDotSegment (s : List Char) : Bool :=
  dots s = ['.'] || dots s = ['.', '.']

def isBreak (c : Char) : Bool :=
  c = '\t' || c = '\n' || c = '\r'

def joined (cs : List Char) : List Char :=
  cs.filter (!isBreak ·)

/-- Drops the dot segments; a segment of two dots takes the one before it along. A segment that is
kept becomes the segments that `place` makes of it, by whether it comes first. The segments that
were kept stand in reverse order. -/
def dropDots (place : Bool → List Char → List (List Char)) :
    List (List Char) → List (List Char) → List (List Char)
  | kept, [] => kept.reverse
  | kept, s :: ss =>
    let ending : List (List Char) := if ss = [] then [[]] else []
    if dots (joined s) = ['.'] then dropDots place (ending ++ kept) ss
    else if dots (joined s) = ['.', '.'] then dropDots place (ending ++ dropLastKept kept) ss
    else dropDots place ((place (kept = []) s).reverse ++ kept) ss

def slashed (ss : List (List Char)) : List Char :=
  ss.flatMap ('/' :: ·)

def cleanSegments (isEnd : Char → Bool) (cs : List Char) : List (List Char) :=
  (dropDots (fun _ s => [s]) [] (segments isEnd cs)).map (escape escapedInPath)

def pathText (isEnd : Char → Bool) (cs : List Char) : List Char :=
  match cs with
  | [] => slashed (cleanSegments isEnd [])
  | c :: rest => slashed (cleanSegments isEnd (if isEnd c then rest else cs))

/-- A drive at the start of a path to a file has a colon, and ends where a line break follows the
colon. -/
def placeInFile (isFirst : Bool) (s : List Char) : List (List Char) :=
  match isFirst, joined s with
  | true, [c, '|'] => if c.isAlpha then [[c, ':']] else [[c, '|']]
  | true, c :: ':' :: d :: rest =>
    if c.isAlpha ∧ (s.dropWhile (· ≠ ':'))[1]?.any isBreak then
      [c, ':'] :: if isDotSegment (d :: rest) then [] else [d :: rest]
    else [c :: ':' :: d :: rest]
  | _, text => [text]

def fileSegments (cs : List Char) : List (List Char) :=
  (dropDots placeInFile [] (segments isSlash cs)).map (escape escapedInPath)

/-- The path of a file, which starts with one slash. -/
def filePath (ss : List (List Char)) : List Char :=
  '/' :: (slashed ss).dropWhile (· = '/')

def usualPort? (scheme : String) : Option Nat :=
  if scheme = "http" ∨ scheme = "ws" then some 80
  else if scheme = "https" ∨ scheme = "wss" then some 443
  else if scheme = "ftp" then some 21
  else none

def isWeb (scheme : String) : Bool :=
  (usualPort? scheme).isSome

/-- A port, or none when nothing stands for it. -/
def port? (scheme : String) (cs : List Char) : Option (Option Nat) :=
  if cs = [] then some none
  else match Text.Numeral.digits 10 0xffff 0 cs with
    | .ok n => some (if usualPort? scheme = some n then none else some n)
    | .error _ => none

def splitUser (cs : List Char) : Option (List Char) × List Char :=
  let host := (cs.reverse.takeWhile (· ≠ '@')).reverse
  if host.length = cs.length then (none, host)
  else (some (cs.take (cs.length - host.length - 1)), host)

/-- Splits a text at the first colon that stands in no square brackets. -/
def splitPort : Bool → List Char → List Char × Option (List Char)
  | _, [] => ([], none)
  | inside, c :: cs =>
    if c = ':' ∧ !inside then ([], some cs)
    else
      let (host, port) := splitPort (c = '[' || (inside && c ≠ ']')) cs
      (c :: host, port)

/-- The name and the password of a user, escaped. An empty password is none. -/
def credentials (cs : List Char) : List Char × Option (List Char) :=
  let password := (cs.dropWhile (· ≠ ':')).drop 1
  (escape escapedInUser (cs.takeWhile (· ≠ ':')),
    if password = [] then none else some (escape escapedInUser password))

def authority? (scheme : String) (cs : List Char) : Option Authority := do
  let (user, rest) := splitUser cs
  let (hostText, portText) := splitPort false rest
  let (name, password) := credentials (user.getD [])
  let isNobody := user ≠ some [] ∧ name = [] ∧ password = none
  if hostText = [] then
    if isNobody ∧ !isWeb scheme ∧ portText = none then some ⟨name, password, none, none⟩ else none
  else
    let host ← if isWeb scheme then Host.ofText? hostText else Host.ofAnyText? hostText
    some ⟨name, password, some host, ← port? scheme (portText.getD [])⟩

/-- Splits the text after two slashes into an authority and a path. A backslash ends a port. -/
def splitAuthority (cs : List Char) : List Char × List Char :=
  let front := cs.takeWhile (· ≠ '/')
  let (_, port) := splitPort false (splitUser front).2
  let behind := (port.getD []).dropWhile (· ≠ '\\')
  (front.take (front.length - behind.length), behind ++ cs.dropWhile (· ≠ '/'))

def isBlankOrControl (c : Char) : Bool :=
  c.toNat ≤ 0x20

def trimmed (cs : List Char) : List Char :=
  (cs.dropWhile isBlankOrControl).reverse.dropWhile isBlankOrControl |>.reverse

def isSchemeChar (c : Char) : Bool :=
  c.isAlphanum || c = '+' || c = '-' || c = '.'

/-- The scheme of an address in small letters, and what follows its colon. -/
def splitScheme? (cs : List Char) : Option (String × List Char) :=
  let name := joined (cs.takeWhile (· ≠ ':'))
  match cs.dropWhile (· ≠ ':') with
  | _ :: rest =>
    if name.head?.any Char.isAlpha ∧ name.all isSchemeChar then
      some (String.ofList (name.map Char.toLower), rest)
    else none
  | [] => none

def afterSlash? (cs : List Char) : Option (List Char) :=
  match cs.dropWhile isBreak with
  | c :: rest => if isSlash c then some rest else none
  | [] => none

/-- The host and the path of a file. A drive is no host and stands on none, and the host of this
machine is none. A path without a host starts with a segment of its own for its first slash. -/
def fileParts? (cs : List Char) : Option (Authority × List Char) :=
  let found (host : Option Host) (path : List Char) : Authority × List Char :=
    let isOnDrive := (fileSegments (joined path)).head?.any isDrive
    (⟨[], none, if isOnDrive then none else host, none⟩, filePath (fileSegments path))
  match afterSlash? cs with
  | none => some (found none cs)
  | some path =>
    match afterSlash? path with
    | none => some (found none path)
    | some rest =>
      let hostText := joined (rest.takeWhile (!isSlash ·))
      let path := rest.dropWhile (!isSlash ·)
      if isDrive hostText then some (found none rest)
      else if hostText = [] then some (found none path)
      else (Host.ofText? hostText).map fun host =>
        if host = .name "localhost".toList then found none path
        else found (some host) (path.drop 1)

def parts? (scheme : String) (cs : List Char) : Option (Option Authority × List Char) :=
  if scheme = "file" then (fileParts? cs).map fun p => (some p.1, p.2)
  else if isWeb scheme then
    let cs := (joined cs).dropWhile isSlash
    (authority? scheme (cs.takeWhile (!isSlash ·))).map fun a =>
      (some a, pathText isSlash (cs.dropWhile (!isSlash ·)))
  else match joined cs with
    | '/' :: '/' :: rest =>
      let (who, path) := splitAuthority rest
      (authority? scheme who).map fun a =>
        (some a, if path = [] then [] else pathText (· = '/') path)
    | '/' :: path => some (none, pathText (· = '/') ('/' :: path))
    | path => some (none, escape isControl path)

def ofText? (cs : List Char) : Option Address := do
  let (scheme, rest) ← splitScheme? (trimmed cs)
  let (authority, path) ← parts? scheme (rest.takeWhile fun c => c ≠ '?' && c ≠ '#')
  let after := joined (rest.dropWhile fun c => c ≠ '?' && c ≠ '#')
  let escaped (mustEscape : Char → Bool) : List Char → Option (List Char)
    | [] => none
    | _ :: text => some (escape mustEscape text)
  let isSpecial := scheme = "file" || isWeb scheme
  return ⟨scheme.toList, authority, path,
    escaped (if isSpecial then escapedInWebQuery else escapedInQuery) (after.takeWhile (· ≠ '#')),
    escaped escapedInFragment (after.dropWhile (· ≠ '#'))⟩

def marked (mark : Char) (part : Option (List Char)) : List Char :=
  match part with
  | some cs => mark :: cs
  | none => []

def authorityText (a : Authority) : List Char :=
  let user := a.user ++ marked ':' a.password
  (if user = [] then [] else user ++ ['@']) ++ (a.host.map Host.text).getD []
    ++ marked ':' (a.port.map Text.Numeral.decimal)

/-- A path that would read as a host has a dot segment in front. -/
def text (a : Address) : List Char :=
  let front := match a.authority with
    | some who => ['/', '/'] ++ authorityText who
    | none => if ['/', '/'].isPrefixOf a.path then ['/', '.'] else []
  a.scheme ++ ':' :: (front ++ a.path ++ marked '?' a.query ++ marked '#' a.fragment)

/-- A part of the credentials once its escapes are undone, if that is a text. -/
def plain? (part : List Char) : Option (List Char) :=
  Text.Utf8.decode? (Text.Percent.decode part)

/-- Leaves out the user, which is not part of what is asked for. A user whose name is no text is
left where it is, and so is one without a name whose password is none. -/
def withoutUser (a : Address) : Address :=
  let anonymous (who : Authority) : Authority :=
    match plain? who.user, who.password.bind plain? with
    | none, _ | some [], none => who
    | _, _ => { who with user := [], password := none }
  { a with authority := a.authority.map anonymous }

/-- The longest address that can be asked for. -/
def longest : Nat := 65534

def isReachable (a : Address) : Bool :=
  let plainHost (who : Authority) : Bool :=
    who.host.any fun h => !(h.text.any fun c => "\"`\x7b\x7d".contains c)
  (a.scheme = "http".toList || a.scheme = "https".toList) && a.authority.any plainHost
    && a.text.length ≤ longest

end Address

end CodeReview.Http
