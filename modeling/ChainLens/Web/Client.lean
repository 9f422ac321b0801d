import ChainLens.Json.Reader
import ChainLens.Web.Credentials

/-!
Fetching from a base address. A path that does not exist is missing, any other answer without
success is an outage, and so is an answer that does not arrive in full.
-/

namespace ChainLens.Web

structure BaseUrl where
  text : String
  deriving DecidableEq

namespace BaseUrl

/-- Accepts the two web schemes, and drops slashes at the end of the text as given. -/
def parse (text : String) : Except Refusal BaseUrl :=
  match Url.parse text with
  | .error fault => .error (.url text fault)
  | .ok url =>
    if url.scheme = "http" ∨ url.scheme = "https" then
      .ok ⟨String.ofList (Text.dropEndWhile (· == '/') text.toList)⟩
    else .error (.scheme text url.scheme)

def join (base : BaseUrl) (path : String) : String := base.text ++ "/" ++ path

end BaseUrl

def outage {α : Type} (o : Outage) : Except Failure α := .error (.unavailable o)

def undelivered {α : Type} (u : Undelivered) : Except Failure α := outage (.undelivered u)

def garbled {α : Type} (g : Garbled) : Except Failure α := outage (.garbled g)

/-- The form in which an address goes out with a request, and the request's Authorization header. -/
def heading (text : String) (given : Option Credentials) :
    Except Undelivered (String × Option String) :=
  match Url.parse text with
  | .error _ => .error .unusable
  | .ok url =>
    if url.outgoing.isSendable then .ok (url.outgoing.sent, authorization? url given)
    else .error (.unwritable url.outgoing.sent)

/-- The bytes of a successful answer to a fetch of `path` at `url`, which was sent as `sent`. -/
def judgeFetch (path url sent : String) : Delivery → Except Failure Bytes
  | .dropped => undelivered (.unsent sent)
  | .answered status body =>
    -- The status is judged before the body, which may be cut.
    if status = 404 then .error (.notFound (.path path))
    else if !isSuccess status then outage (.status status url)
    else match body with
      | .whole bytes => .ok bytes
      | .cut => undelivered .cutBody

variable {m : Type → Type} [Monad m]

def fetch (wire : Wire m) (base : BaseUrl) (path : String) : m (Except Failure Bytes) :=
  let url := base.join path
  match heading url none with
  | .error cause => return undelivered cause
  | .ok (sent, authorization) => do
    let delivery ← wire.deliver (.get sent authorization)
    return judgeFetch path url sent delivery

def readJson {α : Type} (path : String) (shape : Json → Option α) (bytes : Bytes) :
    Except Failure α :=
  let body := Utf8.decodeLossy bytes
  match (Json.parse? body).bind shape with
  | some a => .ok a
  | none => garbled (.json path "unexpected JSON" body)

def fetchJson {α : Type} (wire : Wire m) (base : BaseUrl) (path : String)
    (shape : Json → Option α) :
    m (Except Failure α) := do
  return (← fetch wire base path) >>= readJson path shape

end ChainLens.Web
