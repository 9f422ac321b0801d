import ChainLens.Json.Document
import ChainLens.Json.Shape
import ChainLens.Json.Writer
import ChainLens.Web.Client

/-!
JSON-RPC calls. An answer that reads as a JSON-RPC response is judged by its error first and by its
status after that, because nodes report failed calls under statuses of their own.
-/

namespace ChainLens.Web

structure Endpoint where
  base : BaseUrl
  authority : Authority
  deriving DecidableEq

namespace Endpoint

/-- Credentials that cannot be read now are refused before the address is looked at. -/
def build (url : String) (authority : Authority) (file : CookieFile) : Except Refusal Endpoint := do
  let _ ← authority.credentials file
  let base ← BaseUrl.parse url
  return { base, authority }

end Endpoint

structure RpcResponse where
  result : Option Json
  error : Option Json

namespace RpcResponse

def shape (json : Json) : Option RpcResponse := do
  let [result, error] ← Shape.slots [["result"], ["error"]] json | none
  return { result := ← result.optional Json.settle, error := ← error.optional Json.settle }

/-- An error with a code and a message; anything else does not follow the standard. -/
def readError (json : Json) : Outage :=
  let parts : Option (Int × String) := do
    let [code, message] ← Shape.slots [["code"], ["message"]] json | none
    return (← code.required Shape.signed64, ← message.required Shape.text)
  match parts with
  | some (code, message) => .server code message
  | none => .garbled (.rpcError json.compact)

def outcome (r : RpcResponse) : Except Failure Json :=
  match r.error with
  | some error => outage (readError error)
  | none => .ok (r.result.getD .null)

end RpcResponse

/-- The result in the answer to a call at `url`, which was sent as `sent`. -/
def judgeCall (url sent : String) : Delivery → Except Failure Json
  | .dropped => undelivered (.unsent sent)
  | .answered _ .cut => undelivered .cutBody
  | .answered status (.whole bytes) =>
    let body := Utf8.decodeLossy bytes
    match (Json.parse? body).bind RpcResponse.shape with
    | some response => response.outcome
    | none =>
      -- Only a body that is no response leaves the matter to the status.
      if isSuccess status then garbled (.json "JSON-RPC response" "unexpected JSON" body)
      else outage (.status status url)

def call {m : Type → Type} [Monad m] (wire : Wire m) (endpoint : Endpoint) (id : Nat)
    (method : String)
    (params : List Json) : m (Except Failure Json) := do
  match endpoint.authority.credentials (← wire.readCookie) with
  | .error refusal => return .error (.invalid refusal)
  | .ok credentials =>
    match heading endpoint.base.text credentials with
    | .error cause => return undelivered cause
    | .ok (sent, authorization) =>
      let delivery ← wire.deliver (.call { url := sent, authorization, id, method, params })
      return judgeCall endpoint.base.text sent delivery

/-- The codes by which a node turns down the transaction itself: it does not decode, does not
verify, is refused by the pool, or is in the chain already. -/
def rejectionCodes : List Int := [-22, -25, -26, -27]

def blameCaller : Failure → Failure
  | .unavailable (.server code message) =>
    if code ∈ rejectionCodes then .invalid (.rejected code message)
    else .unavailable (.server code message)
  | failure => failure

def readBroadcast : Except Failure Json → Except Failure Txid
  | .error failure => .error (blameCaller failure)
  | .ok result =>
    match result.string? with
    | none => garbled (.rpcResult result.compact)
    | some text =>
      match Hash256.parse text with
      | .ok id => .ok id
      | .error fault => garbled (.rpcTxid text fault)

end ChainLens.Web
