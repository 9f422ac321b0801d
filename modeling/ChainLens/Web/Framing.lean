import ChainLens.Encoding.Decoder
import ChainLens.Json.Writer
import ChainLens.Text.Blank
import ChainLens.Web.Exchange
import ChainLens.Web.Url

/-!
Requests and answers as the bytes of a connection that carries one exchange. An answer has a status
line, headers and a body, which ends where its length or its last chunk says, and otherwise with the
connection. A body that the connection ends before is cut.
-/

namespace ChainLens.Web

def Url.socketNumber (u : Url) : Nat := u.socket.getD ((Url.impliedSocket? u.scheme).getD 80)

def Url.target (u : Url) : String :=
  u.path ++ match u.query with
    | some q => "?" ++ q
    | none => ""

def Url.hostText (u : Url) : String :=
  u.host.getD "" ++ match u.socket with
    | some n => s!":{n}"
    | none => ""

def RpcCall.body (c : RpcCall) : Json := .record [
  ("jsonrpc", .text "2.0"), ("id", .nat c.id), ("method", .text c.method),
  ("params", .array c.params)]

namespace Framing

def lineEnd : String := "\r\n"

def joinLines (lines : List String) (body : String) : String :=
  String.join (lines.map fun line => line ++ lineEnd) ++ lineEnd ++ body

def writeRequest (u : Url) (request : Request) : Bytes :=
  let common := ["host: " ++ u.hostText, "accept: */*", "connection: close"] ++
    (request.authorization.map fun a => "authorization: " ++ a).toList
  Utf8.encode <| match request with
    | .get _ _ => joinLines (s!"GET {u.target} HTTP/1.1" :: common) ""
    | .call c =>
      let body := c.body.compact
      joinLines (s!"POST {u.target} HTTP/1.1" :: common ++
        ["content-type: application/json", s!"content-length: {body.utf8ByteSize}"]) body

def splitHead? : Bytes → Option (Bytes × Bytes)
  | 13 :: 10 :: 13 :: 10 :: rest => some ([], rest)
  | b :: rest => (splitHead? rest).map fun (head, body) => (b :: head, body)
  | [] => none

def splitLine? : Bytes → Option (Bytes × Bytes)
  | 13 :: 10 :: rest => some ([], rest)
  | b :: rest => (splitLine? rest).map fun (line, after) => (b :: line, after)
  | [] => none

structure Head where
  status : Nat
  /-- Names in lower case, and values. -/
  fields : List (String × String)

namespace Head

def status? (line : List Char) : Option Nat :=
  match Text.splitOn ' ' line with
  | _ :: code :: _ => (Text.natOfChars? code).filter fun _ => code.length == 3
  | _ => none

def field (line : List Char) : String × String :=
  let (name, value) := Text.cut (· == ':') line
  (String.ofList (name.map Char.toLower), String.ofList (Text.trimChars (value.drop 1)))

def read? (bytes : Bytes) : Option Head := do
  match Text.splitOn '\n' (Utf8.decodeLossy bytes).toList with
  | first :: others =>
    return { status := ← status? (Text.trimChars first), fields := others.map field }
  | [] => none

end Head

def chunkSize? (line : Bytes) : Option Nat :=
  let digits := (Utf8.decodeLossy line).toList.takeWhile fun c => (Hex.value? c).isSome
  if digits.isEmpty then none else Host.ofDigits? 16 digits

/-- The data of chunks up to the one without data. The fuel bounds the number of chunks. -/
def readChunks : Nat → Bytes → Option Bytes
  | 0, _ => none
  | fuel + 1, bytes => do
    let (line, rest) ← splitLine? bytes
    let size ← chunkSize? line
    if size = 0 then return []
    else
      let (data, rest) ← Decoder.split? size rest
      let (_, rest) ← splitLine? rest
      return data ++ (← readChunks fuel rest)

def bodyOf (data : Option Bytes) : Body := (data.map Body.whole).getD .cut

/-- The body after a head, in what the connection carried up to its end. -/
def readBody (head : Head) (rest : Bytes) : Body :=
  if head.status = 204 ∨ head.status = 304 then .whole []
  else match head.fields.lookup "transfer-encoding", head.fields.lookup "content-length" with
    | some _, _ => bodyOf (readChunks rest.length rest)
    | none, some length => bodyOf do
        let (data, _) ← Decoder.split? (← Text.nat? length) rest
        return data
    | none, none => .whole rest

def readAnswer (bytes : Bytes) : Delivery :=
  match splitHead? bytes with
  | none => .dropped
  | some (head, rest) =>
    match Head.read? head with
    | none => .dropped
    | some head => .answered head.status (readBody head rest)

end Framing
end ChainLens.Web
