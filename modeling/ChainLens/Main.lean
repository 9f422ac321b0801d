import ChainLens.CommandLine.Run
import ChainLens.Json.Writer
import ChainLens.Web.Framing
import Std.Async.DNS
import Std.Async.TCP
import Std.Async.Timer

/-!
The program: reads arguments and variables, carries out the command over plain connections, and
prints JSON. An address that needs an encrypted connection cannot be reached.
-/

namespace ChainLens.CommandLine

open Std Std.Async Web

def environment : IO (List (String × String)) :=
  programOptions.filterMapM fun (_, key) => do
    return (← IO.getEnv key).map fun value => (key, value)

def places (url : Url) : Async (Array Net.SocketAddress) := do
  let number := UInt16.ofNat url.socketNumber
  let host := String.ofList ((url.host.getD "").toList.filter fun c => c != '[' && c != ']')
  return (← DNS.getAddrInfo host "").map fun
    | .v4 address => .v4 ⟨address, number⟩
    | .v6 address => .v6 ⟨address, number⟩

partial def receive (socket : TCP.Socket.Client) (arrived : ByteArray) : Async ByteArray := do
  match ← socket.recv? 65536 with
  | some more => receive socket (arrived ++ more)
  | none => return arrived

def exchange (request : Bytes) (place : Net.SocketAddress) : Async Bytes := do
  let socket ← TCP.Socket.Client.mk
  socket.connect place
  socket.send ⟨request.toArray⟩
  return (← receive socket .empty).toList

def exchangeAny (request : Bytes) : List Net.SocketAddress → Async Bytes
  | [] => throw (IO.userError "no place answers")
  | place :: others => do
    try exchange request place
    catch _ => exchangeAny request others

def deliver (request : Web.Request) : Async Delivery := do
  match Url.parse request.url with
  | .ok url =>
    if url.scheme = "http" then
      try
        let answer ← exchangeAny (Framing.writeRequest url request) (← places url).toList
        return Framing.readAnswer answer
      catch _ => return .dropped
    else return .dropped
  | .error _ => return .dropped

def wire (options : Options) : Wire Async where
  deliver request := do
    if let some rate := options.requestsPerSecond then
      if 0 < rate then sleep (Time.Millisecond.Offset.ofNat (1000 / rate))
    deliver request
  readCookie := do
    match options.rpcCookieFile with
    | none => return none
    | some path =>
      try return some (← IO.FS.readBinFile path).toList
      catch _ => return none

def runInTime (options : Options) : Async (Except (List String) Json) :=
  Async.race (run (wire options) options) do
    sleep (Time.Millisecond.Offset.ofNat (1000 * options.timeoutSeconds))
    return .error [s!"no answer from `{options.primaryUrl}` within {options.timeoutSeconds}s"]

def UsageFault.message : UsageFault → String
  | .helpInsteadOfNothing | .help => usage
  | .version => "chainlens"
  | .missingSubcommand => "a command is required"
  | .invalidSubcommand => "there is no such command"
  | .missingOperand => "an operand is missing"
  | .unknownArgument => "unexpected argument"
  | .repeated => "an option is given twice"
  | .surplusValue => "an option takes no value"
  | .invalidValue => "an option has no proper value"
  | .unreadableValue => "a value cannot be read"
where
  usage : String :=
    let options := programOptions.map fun (option, key) => s!"  --{option.name} (or {key})"
    let commands := commandRules.map fun rule => "  " ++ rule.name
    String.intercalate "\n" (["options:"] ++ options ++ ["commands:"] ++ commands)

def report : List String → String
  | [] => "error"
  | outermost :: causes => String.intercalate "\n  because: " (("error: " ++ outermost) :: causes)

end ChainLens.CommandLine

open ChainLens CommandLine in
def main (arguments : List String) : IO UInt32 := do
  match parse (← environment) arguments with
  | .error fault =>
    if fault = .help ∨ fault = .version then
      IO.println fault.message
      return 0
    else
      IO.eprintln fault.message
      return 2
  | .ok options =>
    match ← (runInTime options).block with
    | .ok json =>
      IO.println (json.pretty 0)
      return 0
    | .error chain =>
      IO.eprintln (report chain)
      return 1
