import ChainLens.Source.Query
import ChainLens.Turnstile

/-!
Sources made from sources: behind a turnstile, inside a larger memory, with a record of the
questions, and divided between chain data and address data.
-/

namespace ChainLens

/-- The question concerns scripts and what they hold rather than blocks and transactions. -/
def Query.concernsScripts : Query → Bool
  | .history _ | .unspent _ | .holderCount | .holders _ _ | .rank _ => true
  | _ => false

namespace Source

variable {m : Type → Type} [Monad m]

def limited (source : Source m) : Source (StateT (Turnstile Nat) m) where
  answer q := do
    -- The count of callers let in so far is new to the turnstile.
    let ticket := (← get).acquired
    modify fun t => t.acquire ticket
    let reply ← source.answer q
    modify fun t => t.release ticket
    return reply

def recorded (source : Source m) : Source (StateT (List Query) m) where
  answer q := do
    modify fun asked => q :: asked
    source.answer q

def zoom {σ τ : Type} (get : τ → σ) (set : σ → τ → τ) (source : Source (StateT σ m)) :
    Source (StateT τ m) where
  answer q := fun memory => do
    let (reply, part) ← (source.answer q).run (get memory)
    return (reply, set part memory)

def paired {σ τ : Type} (source : Source (StateT σ (StateT τ m))) : Source (StateT (σ × τ) m) where
  answer q := fun (outer, inner) => do
    let ((reply, outer), inner) ← ((source.answer q).run outer).run inner
    return (reply, (outer, inner))

def lift {σ : Type} (source : Source m) : Source (StateT σ m) where
  answer q := StateT.lift (source.answer q)

/-- Asks `index` about scripts and `node` about all else; neither stands in for the other. -/
def divided (node index : Source m) : Source m where
  answer q := if q.concernsScripts then index.answer q else node.answer q

end Source
end ChainLens
