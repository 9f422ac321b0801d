import ChainLens.Json.Value
import ChainLens.Bytes.LittleEndian

/-!
Requests over the network and what comes back. A `Wire` delivers them in any monad, and also gives
access to the file that holds the credentials of a node.
-/

namespace ChainLens.Web

structure RpcCall where
  url : String
  /-- The Authorization header. -/
  authorization : Option String
  id : Nat
  method : String
  params : List Json

inductive Request
  /-- A fetch, with the Authorization header if there is one. -/
  | get (url : String) (authorization : Option String)
  | call (call : RpcCall)

def Request.url : Request → String
  | .get url _ => url
  | .call c => c.url

def Request.authorization : Request → Option String
  | .get _ authorization => authorization
  | .call c => c.authorization

inductive Body
  | whole (bytes : Bytes)
  | cut

inductive Delivery
  /-- No answer came. -/
  | dropped
  | answered (status : Nat) (body : Body)

/-- The state of the credentials file: absent, or its content. -/
abbrev CookieFile : Type := Option Bytes

structure Wire (m : Type → Type) where
  deliver : Request → m Delivery
  readCookie : m CookieFile

def Wire.lift {m : Type → Type} [Monad m] {σ : Type} (wire : Wire m) : Wire (StateT σ m) where
  deliver request := StateT.lift (wire.deliver request)
  readCookie := StateT.lift wire.readCookie

def isSuccess (status : Nat) : Bool := 200 ≤ status && status ≤ 299

end ChainLens.Web
