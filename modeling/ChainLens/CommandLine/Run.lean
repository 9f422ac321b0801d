import ChainLens.CommandLine.Advice
import ChainLens.CommandLine.Options
import ChainLens.Explorer.Addresses
import ChainLens.Explorer.Blocks
import ChainLens.Explorer.Render

/-!
Commands as lookups that yield what is printed.
-/

namespace ChainLens.CommandLine

def lookup (network : Network) : Command → Lookup Json
  | .status => Render.status <$> Explorer.status
  | .transaction id => do
    Render.transaction <$> Explorer.transaction network (← Lookup.accept (parseTxid id))
  | .block ref full => do
    let ref ← Lookup.accept (BlockRef.parse ref)
    if full then Render.fullBlock <$> Explorer.fullBlock network ref
    else Render.block <$> Explorer.block ref
  | .blocks start limit => do
    return .array ((← Explorer.summaries start limit).map Render.summary)
  | .history address => do
    return .array ((← Explorer.history network address).map Json.hash)
  | .transactions address => do
    return .array ((← Explorer.transactions network address).map Render.transaction)
  | .unspent address => do
    return .array ((← Explorer.unspent network address).map Render.unspent)
  | .rank address => do
    return .record [("rank", .orNull Json.word64 (← Explorer.rank network address))]
  | .ranking offset limit => Render.ranking <$> Explorer.ranking network offset limit
  | .broadcast hex => do
    return .record [("txid", .hash (← Explorer.broadcast hex))]

/-- Carries out the command of the options: what is printed, or what is said about the failure. -/
def run {m : Type → Type} [Monad m] (wire : Web.Wire m) (options : Options) :
    m (Except (List String) Json) := do
  match options.settings.assemble (← wire.readCookie) with
  | .error refusal => return .error (explainSetup refusal)
  | .ok assembly =>
    let source := assembly.source wire
    let (result, _) ← ((lookup options.network options.command).runWith source).run assembly.memory
    return match result with
      | .ok json => .ok json
      | .error failure => .error (explain options.primaryUrl failure)

end ChainLens.CommandLine
