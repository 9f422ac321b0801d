import ChainLens.Explorer.Transactions

/-!
What belongs to an address, the ranking of all addresses, and broadcasting. A script in hexadecimal
digits serves wherever an address does. Arguments are judged before anything is asked.
-/

namespace ChainLens.Explorer

def status : Lookup Height := Lookup.ask .tip

def history (network : Network) (address : String) : Lookup (List Txid) := do
  let script ← Lookup.accept (scriptOfText network address)
  Lookup.ask (.history script)

/-- The reports of all transactions that touch an address, which fails if one of them does. -/
def transactions (network : Network) (address : String) : Lookup (List TransactionReport) := do
  let ids ← history network address
  ids.mapM (transaction network)

def rank (network : Network) (address : String) : Lookup (Option UInt64) := do
  let script ← Lookup.accept (scriptOfText network address)
  Lookup.ask (.rank script)

def unspent (network : Network) (address : String) : Lookup (List UnspentReport) := do
  let script ← Lookup.accept (scriptOfText network address)
  let outputs ← Lookup.ask (.unspent script)
  let template := Template.of script
  let rendered := Script.address? network script
  return outputs.map fun o =>
    { txid := o.txid, vout := o.index, value := o.value, script, template, address := rendered }

/-- A page of the ranking. An empty page is refused, and so is one that begins past the end. -/
def ranking (network : Network) (offset limit : UInt64) : Lookup RankingPage := do
  if limit = 0 then throw (.invalid .emptyPage)
  let count ← Lookup.ask .holderCount
  if count ≤ offset then throw (.outOfRange offset.toNat count.toNat)
  let holders ← Lookup.ask (.holders offset limit)
  return { count
           entries := holders.map fun h =>
             { script := h.script, address := Script.address? network h.script, value := h.value } }

/-- The digits of a transaction, blanks around them aside, if they are those of one. -/
def transactionHex (text : String) : Except Refusal String :=
  let hex := Text.trim text
  match Hex.decode hex with
  | .error fault => .error (.transactionHex fault)
  | .ok bytes =>
    match TxRecord.read bytes with
    | .ok _ => .ok hex
    | .error flaw => .error (.notTransaction flaw)

/-- Hands a transaction on to the network and returns the id that it gives. -/
def broadcast (text : String) : Lookup Txid := do
  let hex ← Lookup.accept (transactionHex text)
  Lookup.ask (.broadcast hex)

end ChainLens.Explorer
