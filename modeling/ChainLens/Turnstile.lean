import ChainLens.Failure

/-!
A turnstile lets a bounded number of callers in at a time and the others wait, first come, first
served. Its counters tell how many are inside, the most there ever were, and how many came and went.
-/

namespace ChainLens

structure Turnstile (ι : Type) where
  capacity : Nat
  /-- The callers inside. -/
  held : List ι
  /-- The callers outside, the first of them next. -/
  waiting : List ι
  inFlight : Nat
  peak : Nat
  acquired : Nat
  released : Nat
  deriving DecidableEq

namespace Turnstile

variable {ι : Type}

/-- A turnstile with nobody in it; it has to let somebody in. -/
def new (capacity : Nat) : Except Refusal (Turnstile ι) :=
  if capacity = 0 then .error .noCapacity
  else .ok
    { capacity, held := [], waiting := [], inFlight := 0, peak := 0, acquired := 0, released := 0 }

def enter (t : Turnstile ι) (id : ι) : Turnstile ι :=
  let inFlight := t.inFlight + 1
  { t with held := t.held ++ [id], inFlight, peak := max t.peak inFlight,
           acquired := t.acquired + 1 }

/-- Lets the given callers in as long as there is room; the others wait. -/
def settle (t : Turnstile ι) : List ι → Turnstile ι
  | [] => { t with waiting := [] }
  | id :: rest =>
    if t.held.length < t.capacity then settle (t.enter id) rest
    else { t with waiting := id :: rest }

def acquire (t : Turnstile ι) (id : ι) : Turnstile ι := t.settle (t.waiting ++ [id])

def leave [DecidableEq ι] (t : Turnstile ι) (id : ι) : Turnstile ι :=
  { t with held := t.held.erase id, inFlight := t.inFlight - 1, released := t.released + 1 }

/-- A caller goes: one inside makes room for the next, one outside gives up waiting. -/
def release [DecidableEq ι] (t : Turnstile ι) (id : ι) : Turnstile ι :=
  if id ∈ t.held then
    let t :=
      { t with held := t.held.erase id, inFlight := t.inFlight - 1, released := t.released + 1 }
    t.settle t.waiting
  else { t with waiting := t.waiting.erase id }

end Turnstile

/-- A turnstile at which a place given back is first handed to the caller who is next: he is called,
and steps in when he looks. Until then the place is his, and no counter tells of it. -/
structure Entrance (ι : Type) extends Turnstile ι where
  called : List ι
  deriving DecidableEq

namespace Entrance

variable {ι : Type}

def new (capacity : Nat) : Except Refusal (Entrance ι) :=
  (Turnstile.new capacity).map fun t => ⟨t, []⟩

def come (e : Entrance ι) (id : ι) : Entrance ι :=
  if e.held.length + e.called.length < e.capacity then ⟨e.enter id, e.called⟩
  else { e with waiting := e.waiting ++ [id] }

def handOn (e : Entrance ι) : Entrance ι :=
  match e.waiting with
  | [] => e
  | next :: rest => { e with waiting := rest, called := e.called ++ [next] }

variable [DecidableEq ι]

/-- A caller looks whether he has been called, and steps in if so. -/
def look (e : Entrance ι) (id : ι) : Entrance ι :=
  if id ∈ e.called then ⟨e.enter id, e.called.erase id⟩ else e

/-- A caller goes: from inside, from the place he was called to, or from the queue. -/
def go (e : Entrance ι) (id : ι) : Entrance ι :=
  if id ∈ e.held then handOn ⟨e.leave id, e.called⟩
  else if id ∈ e.called then handOn { e with called := e.called.erase id }
  else { e with waiting := e.waiting.erase id }

end Entrance
end ChainLens
