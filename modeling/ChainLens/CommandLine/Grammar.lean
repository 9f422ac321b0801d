/-!
How arguments are told apart. Options begin with two hyphens and take their value from the same
argument after `=` or from the next one, which may not begin with a hyphen. A word that names a
subcommand hands the rest over to it, `--` makes operands of all that follows, and an option is
given at most once.
-/

namespace ChainLens.CommandLine

/-- Why arguments are not understood, and the two requests that are answered in place of a
command. -/
inductive UsageFault
  | helpInsteadOfNothing
  | missingSubcommand
  | invalidSubcommand
  | missingOperand
  | unknownArgument
  | repeated
  | surplusValue
  | invalidValue
  | unreadableValue
  | help
  | version
  deriving DecidableEq, Repr

inductive OptionForm
  | flag
  /-- A value that has to pass a test. -/
  | value (check : String → Except UsageFault Unit)

structure OptionRule where
  name : String
  form : OptionForm

/-- The options and operands of a command; every operand is required. -/
structure CommandRule where
  name : String
  options : List OptionRule
  operands : Nat
  hasVersion : Bool

/-- What has been read: accepted options, an option not yet accepted, and operands. -/
structure Reading where
  given : List (String × String)
  pending : Option (OptionRule × Option String)
  operands : List String

namespace Reading

def empty : Reading := { given := [], pending := none, operands := [] }

def isGiven (r : Reading) (name : String) : Bool := (r.given.lookup name).isSome

def accept (r : Reading) (option : OptionRule) (value : String) : Except UsageFault Reading := do
  if r.isGiven option.name then throw .repeated
  if let .value check := option.form then check value
  return { r with given := (option.name, value) :: r.given, pending := none }

def settle (r : Reading) : Except UsageFault Reading :=
  match r.pending with
  | none => .ok r
  | some (_, none) => .error .invalidValue
  | some (option, some value) => r.accept option value

def awaiting? (r : Reading) : Option OptionRule :=
  match r.pending with
  | some (option, none) => some option
  | _ => none

end Reading

def splitLong? (argument : String) : Option (String × Option String) :=
  match argument.toList with
  | '-' :: '-' :: rest =>
    let name := String.ofList (rest.takeWhile (· != '='))
    match rest.dropWhile (· != '=') with
    | _ :: value => some (name, some (String.ofList value))
    | [] => some (name, none)
  | _ => none

def shortLetter? (argument : String) : Option Char :=
  match argument.toList with
  | '-' :: c :: _ => some c
  | _ => none

/-- What an option of this name asks for in place of a command. -/
def CommandRule.request? (rule : CommandRule) (name : String) : Option UsageFault :=
  if name = "help" then some .help
  else if name = "version" ∧ rule.hasVersion then some .version
  else none

/-- Reads a long option. A name that is not known, or a value that is not wanted, is a fault even
before one in the pending option. -/
def readLong (rule : CommandRule) (r : Reading) (name : String) (attached : Option String) :
    Except UsageFault Reading :=
  match rule.request? name, rule.options.find? (fun o => o.name = name), attached with
  | some _, _, some _ => throw .surplusValue
  | some request, _, none => do
    let _ ← r.settle
    throw request
  | none, none, _ => throw .unknownArgument
  | none, some option, attached =>
    match option.form, attached with
    | .flag, some _ => throw .surplusValue
    | .flag, none => do (← r.settle).accept option ""
    | .value _, some value => do (← r.settle).accept option value
    | .value _, none => do return { ← r.settle with pending := some (option, none) }

def readShort (rule : CommandRule) (r : Reading) (letter : Char) : Except UsageFault Reading := do
  if letter = 'h' then
    let _ ← r.settle
    throw .help
  else if letter = 'V' ∧ rule.hasVersion then
    let _ ← r.settle
    throw .version
  else throw .unknownArgument

def readOperand (rule : CommandRule) (subcommands : List String) (afterDashes : Bool) (r : Reading)
    (argument : String) : Except UsageFault Reading := do
  if r.operands.length < rule.operands then
    let r ← r.settle
    return { r with operands := r.operands ++ [argument] }
  else if subcommands.isEmpty || (afterDashes && subcommands.contains argument) then
    throw .unknownArgument
  else throw .invalidSubcommand

/-- Reads arguments up to the end or the first subcommand, which is returned with what follows
it. -/
def read (rule : CommandRule) (subcommands : List String) :
    Bool → Reading → List String → Except UsageFault (Reading × Option (String × List String))
  | _, r, [] => .ok (r, none)
  | true, r, argument :: rest => do
    let r ← readOperand rule subcommands true r argument
    read rule subcommands true r rest
  | false, r, argument :: rest =>
    -- A word after an option that awaits its value is that value, even if it names a subcommand.
    if r.awaiting?.isNone && subcommands.contains argument then .ok (r, some (argument, rest))
    else if argument = "--" then read rule subcommands true r rest
    else do
      let r ← match splitLong? argument, shortLetter? argument, r.awaiting? with
        | some (name, attached), _, _ => readLong rule r name attached
        | none, some letter, _ => readShort rule r letter
        | none, none, some option => .ok { r with pending := some (option, some argument) }
        | none, none, none => readOperand rule subcommands false r argument
      read rule subcommands false r rest

/-- Reads the arguments of a command without subcommands, all operands of which must be there. -/
def readAll (rule : CommandRule) (arguments : List String) : Except UsageFault Reading := do
  let (r, _) ← read rule [] false .empty arguments
  let r ← r.settle
  if r.operands.length < rule.operands then throw .missingOperand
  return r

end ChainLens.CommandLine
