import ChainLens.Address.Basic
import ChainLens.Chain.Header
import ChainLens.Web.Url

/-!
What can go wrong, kept as causes. `Failure.message` is the only place where the wording of a
failure is chosen.
-/

namespace ChainLens

inductive Flaw
  | transaction (error : DecodeError)
  | block (error : DecodeError)
  | shortHeader (length : Nat)
  | wrongBlock (actual expected : BlockHash)
  | headerless (hash : BlockHash)
  | inputTotal
  | outputTotal
  | fee (inputs outputs : Nat)
  | stated (text : String)
  deriving DecidableEq

inductive Missing
  | path (path : String)
  | entry (table key : String)
  /-- The bytes given for a transaction are none. -/
  | transaction (id : Txid) (flaw : Flaw)
  | aboveTip (height tip : UInt32)
  | stated (text : String)
  deriving DecidableEq

inductive SourceKind
  | node
  | index
  | hybrid
  deriving DecidableEq, Repr

def SourceKind.name : SourceKind → String
  | .node => "Node"
  | .index => "Index"
  | .hybrid => "Hybrid"

inductive Refusal
  | address (text : String) (fault : AddressFault)
  | foreignAddress (text : String) (network : Network)
  | txid (text : String) (fault : Hash256.Fault)
  | blockRef (text : String)
  | blockHeight (text : String)
  | emptyPage
  | transactionHex (fault : Hex.Fault)
  | notTransaction (flaw : Flaw)
  /-- A node turned a transaction down. -/
  | rejected (code : Int) (message : String)
  | noCapacity
  | noRate
  | halfCredentials
  | unreadableCookie (path reason : String)
  | badCookie (path : String)
  | url (text : String) (fault : Web.UrlFault)
  | scheme (text scheme : String)
  | noNodeUrl (kind : SourceKind)
  | noIndexUrl (kind : SourceKind)
  | stated (text : String)
  deriving DecidableEq

inductive Garbled
  | json (what detail body : String)
  | hashLength (length : Nat) (error : DecodeError)
  | hexField (field : String) (fault : Hex.Fault)
  | unsyncedTip (height : Int)
  | rpcError (value : String)
  | rpcResult (value : String)
  | rpcTxid (text : String) (fault : Hash256.Fault)
  | stated (text : String)
  deriving DecidableEq

inductive Undelivered
  /-- The text is no address. -/
  | unusable
  /-- A request to the address cannot be written. -/
  | unwritable (url : String)
  | unsent (url : String)
  | cutBody
  deriving DecidableEq

inductive Outage
  | undelivered (cause : Undelivered)
  | status (code : Nat) (url : String)
  | server (code : Int) (message : String)
  | garbled (cause : Garbled)
  deriving DecidableEq

inductive Ability
  | rawBlocks
  | history
  | unspent
  | ranking
  | broadcast
  | broadcastEndpoint
  deriving DecidableEq, Repr

inductive Failure
  | malformed (flaw : Flaw)
  | notFound (missing : Missing)
  | unavailable (outage : Outage)
  | invalid (refusal : Refusal)
  | outOfRange (offset count : Nat)
  | unsupported (ability : Ability)
  deriving DecidableEq

def Flaw.text : Flaw → String
  | .transaction error => s!"transaction: {error.message}"
  | .block error => s!"block: {error.message}"
  | .shortHeader length => s!"block header needs {Header.size} bytes, got {length}"
  | .wrongBlock actual expected =>
    s!"backend returned block {actual.display} for {expected.display}"
  | .headerless hash => s!"backend served neither raw bytes nor a header for block {hash.display}"
  | .inputTotal => "input values overflow u64"
  | .outputTotal => "output values overflow u64"
  | .fee inputs outputs => s!"fee out of range: inputs {inputs}, outputs {outputs}"
  | .stated text => text

def Flaw.message (flaw : Flaw) : String := "malformed data: " ++ flaw.text

def Missing.text : Missing → String
  | .path p => p
  | .entry table key => s!"{table}/{key}"
  | .transaction id flaw => s!"transaction {id.display}: {flaw.message}"
  | .aboveTip height tip => s!"block at height {height.toNat} (tip is {tip.toNat})"
  | .stated text => text

def Refusal.text : Refusal → String
  | .address text fault => s!"invalid address `{text}`: {fault.message}"
  | .foreignAddress text network =>
    s!"address `{text}` is not valid on {network.name}: validation error"
  | .txid text fault => s!"invalid txid `{text}`: {fault.message}"
  | .blockRef text => s!"`{text}` is neither a block height nor a 64-digit block hash"
  | .blockHeight text => s!"block height `{text}`: number too large to fit in target type"
  | .emptyPage => "page limit must be positive"
  | .transactionHex fault => s!"transaction hex: {fault.message}"
  | .notTransaction flaw => s!"not a transaction: {flaw.message}"
  | .rejected code message => s!"transaction rejected ({code}): {message}"
  | .noCapacity => "concurrency gate capacity must be at least 1"
  | .noRate => "requests_per_second must be at least 1"
  | .halfCredentials => "rpc user and rpc pass must be given together"
  | .unreadableCookie path reason => s!"read rpc cookie file {path}: {reason}"
  | .badCookie path => s!"rpc cookie file {path} must hold `user:password`"
  | .url text fault => s!"invalid backend url `{text}`: {fault.message}"
  | .scheme text found => s!"backend url `{text}` has scheme `{found}`; expected http or https"
  | .noNodeUrl kind => s!"{kind.name} backend needs a node REST url"
  | .noIndexUrl kind => s!"{kind.name} backend needs an index url"
  | .stated text => text

def Garbled.text : Garbled → String
  | .json what detail body => s!"decode {what}: {detail}; body={body}"
  | .hashLength length error => s!"block hash must be 32 bytes, got {length} ({error.message})"
  | .hexField field fault => s!"index field `{field}` is not hex: {fault.message}"
  | .unsyncedTip height => s!"index reports tip height {height}; it has not synced yet"
  | .rpcError value => s!"non-standard JSON-RPC error: {value}"
  | .rpcResult value => s!"sendrawtransaction returned {value}"
  | .rpcTxid text fault => s!"invalid txid `{text}` from node: {fault.message}"
  | .stated text => text

def Undelivered.text : Undelivered → String
  | .unusable => "builder error"
  | .unwritable url => s!"builder error for url ({url})"
  | .unsent url => s!"error sending request for url ({url})"
  | .cutBody => "error decoding response body"

def Outage.message : Outage → String
  | .undelivered cause => "HTTP transport error: " ++ cause.text
  | .status code url => s!"backend returned HTTP {code} for {url}"
  | .server code message => s!"JSON-RPC server error {code}: {message}"
  | .garbled cause => "invalid backend response: " ++ cause.text

def Ability.text : Ability → String
  | .rawBlocks => "raw block bytes"
  | .history => "address index"
  | .unspent => "utxo set"
  | .ranking => "rich list"
  | .broadcast => "broadcast"
  | .broadcastEndpoint => "broadcast without an rpc endpoint"

def Failure.message : Failure → String
  | .malformed flaw => flaw.message
  | .notFound missing => "not found: " ++ missing.text
  | .unavailable outage => "backend unavailable: " ++ outage.message
  | .invalid refusal => "invalid input: " ++ refusal.text
  | .outOfRange offset count => s!"offset {offset} is out of range ({count} records)"
  | .unsupported ability => "backend does not support " ++ ability.text

/-- The failure lies with the request rather than with the library or its sources. -/
def Failure.isClient : Failure → Bool
  | .notFound _ | .invalid _ | .outOfRange _ _ => true
  | _ => false

end ChainLens
