import ChainLens.Explorer.Report
import ChainLens.Json.Value

/-!
Reports as JSON.
-/

namespace ChainLens

def Json.hash (h : Hash256) : Json := .text h.display

def Json.hex (bytes : Bytes) : Json := .text (Hex.encode bytes)

def Json.word32 (w : UInt32) : Json := .nat w.toNat

def Json.word64 (w : UInt64) : Json := .nat w.toNat

def Json.template (t : Template) : Json := .text t.name

/-- A form given by its name, or by an object whose only key is the name and whose value is
`null`. -/
def Template.ofJson? : Json → Option Template
  | .string (some name) => Template.ofName? name
  | .object [(some name, .null)] => Template.ofName? name
  | _ => none

namespace Render

def input (i : InputReport) : Json := .record [
  ("txid", .hash i.txid), ("vout", .word32 i.vout), ("script_sig", .hex i.scriptSig),
  ("witness", .array (i.witness.map Json.hex)), ("sequence", .word32 i.sequence),
  ("coinbase", .bool i.coinbase), ("value", .word64 i.value),
  ("address", .orNull Json.text i.address),
  ("script_type", .orNull Json.template i.template), ("resolved", .bool i.resolved)]

def output (o : OutputReport) : Json := .record [
  ("n", .nat o.n), ("value", .word64 o.value), ("script_pubkey", .hex o.script),
  ("script_type", .template o.template), ("address", .orNull Json.text o.address)]

def message (m : Message) : Json := .record [
  ("destination", .orNull Json.text m.destination), ("payload", .hex m.payload)]

def transaction (t : TransactionReport) : Json := .record [
  ("txid", .hash t.txid), ("wtxid", .hash t.wtxid), ("hex", .hex t.hex),
  ("version", .int t.version.toInt),
  ("lock_time", .word32 t.lockTime), ("has_witness", .bool t.hasWitness), ("size", .nat t.size),
  ("vsize", .nat t.vsize), ("weight", .nat t.weight), ("block_hash", .orNull Json.hash t.blockHash),
  ("confirmed_height", .orNull Json.word32 t.confirmedHeight),
  ("inputs", .array (t.inputs.map input)),
  ("outputs", .array (t.outputs.map output)), ("fee", .int t.fee),
  ("embedded", .orNull message t.embedded)]

def bits (w : UInt32) : Json := .hex (LittleEndian.encode 4 w.toNat).reverse

def blockMembers (b : BlockReport) : List (String × Json) := [
  ("hash", .hash b.hash), ("height", .word32 b.height), ("header", .hex b.header),
  ("version", .int b.version.toInt), ("previous_block_hash", .hash b.previous),
  ("merkle_root", .hash b.merkleRoot), ("time", .word32 b.time), ("bits", bits b.bits),
  ("nonce", .word32 b.nonce), ("difficulty", .number (.binary b.difficulty)), ("size", .nat b.size),
  ("stripped_size", .nat b.strippedSize), ("weight", .nat b.weight),
  ("txids", .array (b.txids.map Json.hash))]

def block (b : BlockReport) : Json := .record (blockMembers b)

def fullBlock (b : FullBlockReport) : Json :=
  .record (blockMembers b.block ++ [("txs", .array (b.transactions.map transaction))])

def summary (s : BlockSummary) : Json := .record [
  ("hash", .hash s.hash), ("height", .word32 s.height), ("time", .word32 s.time),
  ("nonce", .word32 s.nonce),
  ("size", .nat s.size), ("stripped_size", .nat s.strippedSize), ("weight", .nat s.weight),
  ("tx_count", .nat s.txCount)]

def unspent (u : UnspentReport) : Json := .record [
  ("txid", .hash u.txid), ("vout", .word32 u.vout), ("value", .word64 u.value),
  ("script_pubkey", .hex u.script),
  ("script_type", .template u.template), ("address", .orNull Json.text u.address)]

def holding (h : HoldingReport) : Json := .record [
  ("script_pubkey", .hex h.script), ("address", .orNull Json.text h.address),
  ("value", .word64 h.value)]

def ranking (p : RankingPage) : Json := .record [
  ("count", .word64 p.count), ("entries", .array (p.entries.map holding))]

def status (tip : Height) : Json := .record [("blocks", .word32 tip)]

end Render
end ChainLens
