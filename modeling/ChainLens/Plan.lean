import ChainLens.Source.Query

/-!
Lookups with several questions open at once. A plan tells which parts of a lookup go on side by
side, and whether all of them are awaited or the first to fail ends the others. The answers may
come in any order, and parts that have come to an end may be joined sooner or later.
-/

namespace ChainLens

inductive Plan : Type → Type 1
  | done {α : Type} (result : Except Failure α) : Plan α
  | ask {α : Type} (q : Query) (next : q.Reply → Plan α) : Plan α
  /-- Waits for both parts, whatever they come to. -/
  | join {α β γ : Type} (left : Plan α) (right : Plan β)
      (next : Except Failure α → Except Failure β → Plan γ) :
    Plan γ
  /-- Waits for both parts, but a failure of either is that of the whole, and drops the other. -/
  | tryJoin {α β γ : Type} (left : Plan α) (right : Plan β) (next : α → β → Plan γ) : Plan γ

/-- The way to a part of a plan, from the whole inwards. -/
inductive Side
  | left
  | right
  deriving DecidableEq

abbrev Spot : Type := List Side

namespace Plan

variable {α β : Type}

def bind : Plan α → (α → Plan β) → Plan β
  | .done (.ok a), f => f a
  | .done (.error failure), _ => .done (.error failure)
  | .ask q next, f => .ask q fun reply => (next reply).bind f
  | .join left right next, f => .join left right fun a b => (next a b).bind f
  | .tryJoin left right next, f => .tryJoin left right fun a b => (next a b).bind f

instance : Monad Plan where
  pure a := .done (.ok a)
  bind := bind

def query (q : Query) : Plan q.Result := .ask q .done

def ofDialogue : Dialogue Query.Reply (Except Failure α) → Plan α
  | .done result => .done result
  | .ask q next => .ask q fun reply => ofDialogue (next reply)

def ofLookup (lookup : Lookup α) : Plan α := ofDialogue lookup.run

/-- All parts at once; the first to fail ends them all. -/
def tryJoinAll : List (Plan α) → Plan (List α)
  | [] => pure []
  | part :: rest => .tryJoin part (tryJoinAll rest) fun a others => pure (a :: others)

/-- The plan carried out one part after the other, as when every answer is at hand. -/
def inOrder {α : Type} : Plan α → Lookup α
  | .done result => ExceptT.mk (pure result)
  | .ask q next => ExceptT.mk (.ask q fun reply => (next reply).inOrder.run)
  | .join left right next => do
    let a ← ExceptT.lift left.inOrder.run
    let b ← ExceptT.lift right.inOrder.run
    (next a b).inOrder
  | .tryJoin left right next => do
    let a ← left.inOrder
    let b ← right.inOrder
    (next a b).inOrder

def result? : Plan α → Option (Except Failure α)
  | .done result => some result
  | _ => none

def question? {α : Type} : Plan α → Spot → Option Query
  | .ask q _, [] => some q
  | .join left _ _, .left :: spot => left.question? spot
  | .join _ right _, .right :: spot => right.question? spot
  | .tryJoin left _ _, .left :: spot => left.question? spot
  | .tryJoin _ right _, .right :: spot => right.question? spot
  | _, _ => none

def answer? (source : Source Id) {α : Type} : Plan α → Spot → Option (Plan α)
  | .ask q next, [] => some (next (source.answer q))
  | .join left right next, .left :: spot =>
    (left.answer? source spot).map fun left => .join left right next
  | .join left right next, .right :: spot =>
    (right.answer? source spot).map fun right => .join left right next
  | .tryJoin left right next, .left :: spot =>
    (left.answer? source spot).map fun left => .tryJoin left right next
  | .tryJoin left right next, .right :: spot =>
    (right.answer? source spot).map fun right => .tryJoin left right next
  | _, _ => none

/-- The two parts at a spot are joined, which both have come to an end, or one has failed. -/
def settle? {α : Type} : Plan α → Spot → Option (Plan α)
  | .join left right next, [] =>
    match left.result?, right.result? with
    | some a, some b => some (next a b)
    | _, _ => none
  | .tryJoin left right next, [] =>
    match left.result?, right.result? with
    | some (.error failure), _ => some (.done (.error failure))
    | _, some (.error failure) => some (.done (.error failure))
    | some (.ok a), some (.ok b) => some (next a b)
    | _, _ => none
  | .join left right next, .left :: spot =>
    (left.settle? spot).map fun left => .join left right next
  | .join left right next, .right :: spot =>
    (right.settle? spot).map fun right => .join left right next
  | .tryJoin left right next, .left :: spot =>
    (left.settle? spot).map fun left => .tryJoin left right next
  | .tryJoin left right next, .right :: spot =>
    (right.settle? spot).map fun right => .tryJoin left right next
  | _, _ => none

inductive Event
  | answer (spot : Spot)
  | settle (spot : Spot)
  deriving DecidableEq

def step? (source : Source Id) (plan : Plan α) : Event → Option (Plan α)
  | .answer spot => plan.answer? source spot
  | .settle spot => plan.settle? spot

def after? (source : Source Id) : Plan α → List Event → Option (Plan α)
  | plan, [] => some plan
  | plan, event :: later => do (← plan.step? source event).after? source later

end Plan
end ChainLens
