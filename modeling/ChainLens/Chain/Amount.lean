import ChainLens.Failure

/-!
Sums of amounts, which have to fit into 64 bits, and the fee between two of them.
-/

namespace ChainLens

def addAmounts? (a b : UInt64) : Option UInt64 :=
  if a.toNat + b.toNat < UInt64.size then some (a + b) else none

/-- The sum of amounts in order, given up as soon as it leaves 64 bits. -/
def total? (amounts : List UInt64) : Option UInt64 := amounts.foldlM addAmounts? 0

/-- What goes in less what comes out, as a signed number of 64 bits. -/
def fee (inputs outputs : List UInt64) : Except Flaw Int :=
  match total? inputs, total? outputs with
  | none, _ => .error .inputTotal
  | some _, none => .error .outputTotal
  | some ins, some outs =>
    let difference := (ins.toNat : Int) - outs.toNat
    if Int64.minValue.toInt ≤ difference ∧ difference ≤ Int64.maxValue.toInt then .ok difference
    else .error (.fee ins.toNat outs.toNat)

end ChainLens
