/-!
Computations that ask questions. A dialogue is a value or a question with a continuation for every
reply, so what a computation asks can be read off it; `run` answers the questions in any monad.
-/

namespace ChainLens

inductive Dialogue {Q : Type} (Reply : Q → Type) (α : Type) : Type
  | done (value : α)
  | ask (question : Q) (next : Reply question → Dialogue Reply α)

namespace Dialogue

variable {Q : Type} {Reply : Q → Type} {α β : Type}

/-- Goes on with the value of a dialogue. -/
def bind : Dialogue Reply α → (α → Dialogue Reply β) → Dialogue Reply β
  | .done a, f => f a
  | .ask q next, f => .ask q fun r => (next r).bind f

instance : Monad (Dialogue Reply) where
  pure := .done
  bind := bind

def send (q : Q) : Dialogue Reply (Reply q) := .ask q .done

def run {m : Type → Type} [Monad m] (answer : (q : Q) → m (Reply q)) : Dialogue Reply α → m α
  | .done a => pure a
  | .ask q next => do
    let r ← answer q
    (next r).run answer

theorem bind_eq (d : Dialogue Reply α) (f : α → Dialogue Reply β) : d >>= f = d.bind f := rfl

theorem pure_eq (a : α) : (pure a : Dialogue Reply α) = .done a := rfl

/-- Going on with the value itself adds nothing. -/
theorem bind_done (d : Dialogue Reply α) : d.bind .done = d := by
  induction d with
  | done a => rfl
  | ask q next ih => simp only [bind, ih]

theorem bind_assoc {γ : Type} (d : Dialogue Reply α) (f : α → Dialogue Reply β)
    (g : β → Dialogue Reply γ) :
    (d.bind f).bind g = d.bind fun a => (f a).bind g := by
  induction d with
  | done a => rfl
  | ask q next ih => simp only [bind, ih]

instance : LawfulMonad (Dialogue Reply) :=
  LawfulMonad.mk' _ bind_done (fun _ _ => rfl) bind_assoc

/-- Answering a dialogue and then what follows it is answering their composition. -/
theorem run_bind {m : Type → Type} [Monad m] [LawfulMonad m] (answer : (q : Q) → m (Reply q))
    (d : Dialogue Reply α) (f : α → Dialogue Reply β) :
    (d.bind f).run answer = d.run answer >>= fun a => (f a).run answer := by
  induction d with
  | done a => simp [bind, run]
  | ask q next ih => simp [bind, run, ih]

end Dialogue
end ChainLens
