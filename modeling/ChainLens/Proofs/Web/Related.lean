import ChainLens.Web.Rpc

/-!
Two networks side by side. A relation between computations in two monads that respects how
computations are put together holds of whatever is fetched and called over two networks, as soon as
it holds of the single requests.
-/

namespace ChainLens

/-- A relation between the computations in two monads that respects how they are put together. -/
structure MonadRelation (m n : Type → Type) [Monad m] [Monad n] where
  rel : {α : Type} → m α → n α → Prop
  pure : ∀ {α : Type} (a : α), rel (Pure.pure a) (Pure.pure a)
  bind : ∀ {α β : Type} {x : m α} {y : n α} {f : α → m β} {g : α → n β},
    rel x y → (∀ a, rel (f a) (g a)) → rel (x >>= f) (y >>= g)

namespace MonadRelation

variable {m n : Type → Type} [Monad m] [Monad n] {σ α β : Type}

def state (R : MonadRelation m n) (σ : Type) : MonadRelation (StateT σ m) (StateT σ n) where
  rel x y := ∀ s, R.rel (x.run s) (y.run s)
  pure a s := R.pure (a, s)
  bind hx hf s := by
    rw [StateT.run_bind, StateT.run_bind]
    exact R.bind (hx s) fun r => hf r.1 r.2

variable (R : MonadRelation m n)

theorem lift {x : m α} {y : n α} (h : R.rel x y) :
    (R.state σ).rel (StateT.lift x) (StateT.lift y) :=
  fun s => R.bind h fun a => R.pure (a, s)

theorem get : (R.state σ).rel get get := fun s => R.pure (s, s)

theorem modify (f : σ → σ) : (R.state σ).rel (modify f) (modify f) := fun s => R.pure ((), f s)

end MonadRelation

namespace Web

variable {m n : Type → Type} [Monad m] [Monad n] {σ α : Type} {R : MonadRelation m n}
    {wire : Wire m} {other : Wire n}

/-- Two networks of which a relation holds request by request. -/
structure Wire.Related (R : MonadRelation m n) (wire : Wire m) (other : Wire n) : Prop where
  deliver : ∀ request, R.rel (wire.deliver request) (other.deliver request)
  readCookie : R.rel wire.readCookie other.readCookie

namespace Wire.Related

theorem lift (h : wire.Related R other) :
    (wire.lift : Wire (StateT σ m)).Related (R.state σ) other.lift where
  deliver request := R.lift (h.deliver request)
  readCookie := R.lift h.readCookie

/-- Over related networks a fetch brings the same. -/
theorem fetch (h : wire.Related R other) (base : BaseUrl) (path : String) :
    R.rel (Web.fetch wire base path) (Web.fetch other base path) := by
  simp only [Web.fetch]
  cases heading (base.join path) none with
  | error cause => exact R.pure _
  | ok found => exact R.bind (h.deliver _) fun delivery => R.pure _

theorem fetch_json (h : wire.Related R other) (base : BaseUrl) (path : String)
    (shape : Json → Option α) :
    R.rel (fetchJson wire base path shape) (fetchJson other base path shape) :=
  R.bind (h.fetch base path) fun _ => R.pure _

/-- Over related networks a call brings the same. -/
theorem call (h : wire.Related R other) (endpoint : Endpoint) (id : Nat) (method : String)
    (params : List Json) :
    R.rel (Web.call wire endpoint id method params) (Web.call other endpoint id method params) := by
  refine R.bind h.readCookie fun file => ?_
  cases endpoint.authority.credentials file with
  | error refusal => exact R.pure _
  | ok credentials =>
    cases hheading : heading endpoint.base.text credentials with
    | error cause =>
      simp only [hheading]
      exact R.pure _
    | ok found =>
      simp only [hheading]
      exact R.bind (h.deliver _) fun delivery => R.pure _

end Wire.Related

section Lifted

variable [LawfulMonad m]

def lifting (m : Type → Type) [Monad m] [LawfulMonad m] (σ : Type) :
    MonadRelation (StateT σ m) m where
  rel x y := x = StateT.lift y
  pure a := by
    apply StateT.ext
    intro s
    simp
  bind := by
    rintro α β _ y f g rfl hf
    apply StateT.ext
    intro s
    simp [hf]

theorem related_lift (wire : Wire m) : wire.lift.Related (lifting m σ) wire := ⟨fun _ => rfl, rfl⟩

theorem fetch_lift (wire : Wire m) (base : BaseUrl) (path : String) :
    fetch (wire.lift : Wire (StateT σ m)) base path = StateT.lift (fetch wire base path) :=
  (related_lift wire).fetch base path

theorem fetch_json_lift (wire : Wire m) (base : BaseUrl) (path : String) (shape : Json → Option α) :
    fetchJson (wire.lift : Wire (StateT σ m)) base path shape =
      StateT.lift (fetchJson wire base path shape) :=
  (related_lift wire).fetch_json base path shape

theorem call_lift (wire : Wire m) (endpoint : Endpoint) (id : Nat) (method : String)
    (params : List Json) :
    call (wire.lift : Wire (StateT σ m)) endpoint id method params =
      StateT.lift (call wire endpoint id method params) :=
  (related_lift wire).call endpoint id method params

end Lifted
end Web
end ChainLens
