import ChainLens.CommandLine.Grammar
import ChainLens.Source.Assembly

/-!
The options and commands of the program. Each option of the program itself can also be set by a
variable, which counts only where the option is not given.
-/

namespace ChainLens.CommandLine

inductive Command
  | status
  | transaction (id : String)
  | block (ref : String) (full : Bool)
  | blocks (start limit : UInt32)
  | history (address : String)
  | transactions (address : String)
  | unspent (address : String)
  | rank (address : String)
  | ranking (offset limit : UInt64)
  | broadcast (hex : String)
  deriving DecidableEq

structure Options where
  kind : SourceKind
  restUrl : String
  rpcUrl : Option String
  rpcUser : Option String
  rpcPassword : Option String
  rpcCookieFile : Option String
  indexUrl : String
  network : Network
  nodeConcurrency : Nat
  indexConcurrency : Option Nat
  requestsPerSecond : Option Nat
  timeoutSeconds : Nat
  command : Command
  deriving DecidableEq

def number? (bound : Nat) (text : String) : Option Nat := do
  let digits := match text.toList with
    | '+' :: rest => rest
    | cs => cs
  let n ← Text.natOfChars? digits
  if n < bound then some n else none

/-- A number of 32 bits; it is read as a signed number, so that minus zero is zero. -/
def number32? (text : String) : Option Nat :=
  match text.toList with
  | '-' :: digits => (Text.natOfChars? digits).filter (· == 0)
  | _ => number? UInt32.size text

def kind? : String → Option SourceKind
  | "node" => some .node
  | "index" => some .index
  | "hybrid" => some .hybrid
  | _ => none

def anyText : OptionForm := .value fun _ => .ok ()

def readBy {α : Type} (read : String → Option α) : OptionForm :=
  .value fun s => if (read s).isSome then .ok () else .error .unreadableValue

def word32 : OptionForm := readBy number32?

def word64 : OptionForm := readBy (number? UInt64.size)

def oneOf {α : Type} (read : String → Option α) : OptionForm :=
  .value fun s => if (read s).isSome then .ok () else .error .invalidValue

def pathText : OptionForm := .value fun s => if s.isEmpty then .error .invalidValue else .ok ()

/-- The options of the program, each with the variable that stands for it, in the order of the
latter's validation. -/
def programOptions : List (OptionRule × String) := [
  (⟨"backend", oneOf kind?⟩, "SEEKER_BACKEND"),
  (⟨"rest-url", anyText⟩, "SEEKER_REST_URL"),
  (⟨"rpc-url", anyText⟩, "SEEKER_RPC_URL"),
  (⟨"rpc-user", anyText⟩, "SEEKER_RPC_USER"),
  (⟨"rpc-pass", anyText⟩, "SEEKER_RPC_PASS"),
  (⟨"rpc-cookie-file", pathText⟩, "SEEKER_RPC_COOKIE_FILE"),
  (⟨"index-url", anyText⟩, "SEEKER_INDEX_URL"),
  (⟨"network", readBy Network.ofName?⟩, "SEEKER_NETWORK"),
  (⟨"node-concurrency", word64⟩, "SEEKER_NODE_CONCURRENCY"),
  (⟨"index-concurrency", word64⟩, "SEEKER_INDEX_CONCURRENCY"),
  (⟨"requests-per-second", word32⟩, "SEEKER_REQUESTS_PER_SECOND"),
  (⟨"timeout-secs", word64⟩, "SEEKER_TIMEOUT_SECS")]

def programRule : CommandRule :=
  { name := "chainlens", options := programOptions.map Prod.fst, operands := 0, hasVersion := true }

def commandRules : List CommandRule := [
  ⟨"status", [], 0, false⟩,
  ⟨"tx", [], 1, false⟩,
  ⟨"block", [⟨"txs", .flag⟩], 1, false⟩,
  ⟨"blocks", [⟨"start", word32⟩, ⟨"limit", word32⟩], 0, false⟩,
  ⟨"txids", [], 1, false⟩,
  ⟨"txs", [], 1, false⟩,
  ⟨"utxos", [], 1, false⟩,
  ⟨"rank", [], 1, false⟩,
  ⟨"rich-list", [⟨"offset", word64⟩, ⟨"limit", word64⟩], 0, false⟩,
  ⟨"broadcast", [], 1, false⟩]

def subcommandNames : List String := commandRules.map CommandRule.name ++ ["help"]

/-- The names after `help` have to lead to a command, and no command has commands of its own. -/
def readHelp : List String → UsageFault
  | [] => .help
  | [name] => if subcommandNames.contains name then .help else .invalidSubcommand
  | _ => .invalidSubcommand

def commandOf (name : String) (r : Reading) : Command :=
  let operand := r.operands.headD ""
  let word32 (option : String) (default : Nat) : UInt32 :=
    UInt32.ofNat (((r.given.lookup option).bind number32?).getD default)
  let word64 (option : String) (default : Nat) : UInt64 :=
    UInt64.ofNat (((r.given.lookup option).bind (number? UInt64.size)).getD default)
  match name with
  | "tx" => .transaction operand
  | "block" => .block operand (r.isGiven "txs")
  | "blocks" => .blocks (word32 "start" 0) (word32 "limit" 20)
  | "txids" => .history operand
  | "txs" => .transactions operand
  | "utxos" => .unspent operand
  | "rank" => .rank operand
  | "rich-list" => .ranking (word64 "offset" 0) (word64 "limit" 100)
  | "broadcast" => .broadcast operand
  | _ => .status

def readCommand (name : String) (arguments : List String) : Except UsageFault Command :=
  match commandRules.find? fun rule => rule.name = name with
  | some rule => do return commandOf name (← readAll rule arguments)
  | none => .error (readHelp arguments)

def addVariables (environment : List (String × String)) :
    Reading → List (OptionRule × String) → Except UsageFault Reading
  | r, [] => .ok r
  | r, (option, key) :: rest =>
    match environment.lookup key with
    | some value => do
      let r ← if r.isGiven option.name then pure r else r.accept option value
      addVariables environment r rest
    | none => addVariables environment r rest

def optionsOf (r : Reading) (command : Command) : Options :=
  let text (option : String) : Option String := r.given.lookup option
  let number (option : String) : Option Nat := (text option).bind (number? UInt64.size)
  { kind := ((text "backend").bind kind?).getD .node
    restUrl := (text "rest-url").getD "http://127.0.0.1:8332/rest"
    rpcUrl := text "rpc-url"
    rpcUser := text "rpc-user"
    rpcPassword := text "rpc-pass"
    rpcCookieFile := text "rpc-cookie-file"
    indexUrl := (text "index-url").getD "http://127.0.0.1:6000/api/v1"
    network := ((text "network").bind Network.ofName?).getD .bitcoin
    nodeConcurrency := (number "node-concurrency").getD 4
    indexConcurrency := number "index-concurrency"
    requestsPerSecond := (text "requests-per-second").bind number32?
    timeoutSeconds := (number "timeout-secs").getD 30
    command }

/-- Reads the program's arguments. A fault in the subcommand comes before a fault in the option that
stands last before it, and before those in variables. -/
def parse (environment : List (String × String)) (arguments : List String) :
    Except UsageFault Options := do
  let (r, found) ← read programRule subcommandNames false .empty arguments
  match found with
  | some (name, rest) =>
    let command ← readCommand name rest
    -- Only now is the option judged that stands last before the subcommand.
    let r ← addVariables environment (← r.settle) programOptions
    return optionsOf r command
  | none =>
    let r ← addVariables environment (← r.settle) programOptions
    -- A variable counts as given here.
    if r.given.isEmpty then throw .helpInsteadOfNothing else throw .missingSubcommand

namespace Options

/-- The settings of the source; an address that the kind of source does not use is left out. -/
def settings (o : Options) : Settings :=
  { kind := o.kind
    nodeUrl := if o.kind = .index then none else some o.restUrl
    rpcUrl := o.rpcUrl
    rpcUser := o.rpcUser
    rpcPassword := o.rpcPassword
    rpcCookieFile := o.rpcCookieFile
    indexUrl := if o.kind = .node then none else some o.indexUrl
    nodeConcurrency := o.nodeConcurrency
    indexConcurrency := o.indexConcurrency
    timeoutSeconds := o.timeoutSeconds
    requestsPerSecond := o.requestsPerSecond }

def primaryUrl (o : Options) : String := if o.kind = .index then o.indexUrl else o.restUrl

end Options
end ChainLens.CommandLine
