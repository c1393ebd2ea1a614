import CodeReview.Directory.Entry
import CodeReview.Http.Address
import CodeReview.Http.Status
import CodeReview.Json.Printer
set_option autoImplicit false

/-!
A directory behind a web gateway. A user is read at `/users/` and the name under the address of
the gateway, and a password is checked at `/authenticate` below that. Every request that was sent
is remembered with its reply. What comes back may depend on all that was sent before.
-/
namespace CodeReview

structure GatewayRequest where
  method : String
  address : String
  body : Option String
  deriving DecidableEq, Repr

inductive GatewayReply where
  | unreachable
  | dropped
  | answered (status : Nat) (body : String)
  deriving DecidableEq, Repr

structure Exchange where
  request : GatewayRequest
  reply : GatewayReply
  deriving DecidableEq, Repr

/-- A gateway with what the network brings back to the last of the requests that were sent. -/
structure Gateway where
  address : String
  network : List GatewayRequest → GatewayReply
  exchanges : List Exchange

namespace Gateway

/-- An address without the slashes at its end. -/
def trimSlashes (s : String) : List Char :=
  (s.toList.reverse.dropWhile (· = '/')).reverse

def userAddress (g : Gateway) (name : String) : String :=
  String.ofList (trimSlashes g.address ++ "/users/".toList ++ name.toList)

def failure (reason : String) (address : String) : DirectoryError :=
  .transport (reason ++ " for url (" ++ address ++ ")")

def sent (g : Gateway) : List GatewayRequest :=
  g.exchanges.map Exchange.request

/-- Sends a request to an address in its normal form. -/
def send (g : Gateway) (method : String) (address : String) (body : Option String) :
    Except DirectoryError (Nat × String) × Gateway :=
  match Http.Address.ofText? address.toList with
  | none => (.error (.transport "builder error"), g)
  | some found =>
    let target := found.withoutUser
    let address := String.ofList target.text
    if !target.isReachable then (.error (failure "builder error" address), g)
    else
      let request : GatewayRequest := ⟨method, address, body⟩
      let reply := g.network (g.sent ++ [request])
      let g := { g with exchanges := g.exchanges ++ [⟨request, reply⟩] }
      match reply with
      | .answered status body => (.ok (status, body), g)
      | _ => (.error (failure "error sending request" address), g)

def received (g : Gateway) : List GatewayRequest :=
  (g.exchanges.filter fun e => e.reply ≠ .unreachable).map Exchange.request

def readEntry (body : String) : Except DirectoryError (Option DirectoryEntry) :=
  match (Json.parse body).bind DirectoryEntry.ofJson? with
  | some e => .ok (some e)
  | none => .error (.protocol "bad entry: error decoding response body")

def lookup (g : Gateway) (name : String) :
    Except DirectoryError (Option DirectoryEntry) × Gateway :=
  match g.send "GET" (g.userAddress name) none with
  | (.error e, g) => (.error e, g)
  | (.ok (200, body), g) => (readEntry body, g)
  | (.ok (404, _), g) => (.ok none, g)
  | (.ok (status, _), g) =>
    (.error (.protocol ("lookup of '" ++ name ++ "' returned " ++ Http.statusText status)), g)

def authenticate (g : Gateway) (name password : String) : Except DirectoryError Bool × Gateway :=
  let body := (Json.object [("password", .text password)]).compact
  match g.send "POST" (g.userAddress name ++ "/authenticate") (some body) with
  | (.error e, g) => (.error e, g)
  | (.ok (200, _), g) => (.ok true, g)
  | (.ok (401, _), g) => (.ok false, g)
  | (.ok (403, _), g) => (.ok false, g)
  | (.ok (404, _), g) => (.ok false, g)
  | (.ok (status, _), g) =>
    (.error (.protocol ("authentication of '" ++ name ++ "' returned " ++
      Http.statusText status)), g)

end Gateway

end CodeReview
