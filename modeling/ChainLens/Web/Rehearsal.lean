import ChainLens.Web.Exchange

/-!
A network played from a table of answers. It keeps the requests that reached it; while it is offline
none does.
-/

namespace ChainLens.Web

structure Answer where
  status : Nat
  body : Bytes
  /-- The connection drops before an answer. -/
  drops : Bool
  /-- The body ends early. -/
  truncated : Bool

/-- What reaches the client. Answers with status 204 and 304 have no body. -/
def Answer.delivery (a : Answer) : Delivery :=
  if a.drops then .dropped
  else if a.status = 204 ∨ a.status = 304 then .answered a.status (.whole [])
  else if a.truncated then .answered a.status .cut
  else .answered a.status (.whole a.body)

structure Rehearsal where
  online : Bool
  answers : List (String × Answer)
  cookie : CookieFile
  /-- The requests that arrived, the last one first. -/
  arrived : List Request

namespace Rehearsal

/-- The answer to a request; what is not prepared does not exist. -/
def reply (r : Rehearsal) (request : Request) : Delivery :=
  if !r.online then .dropped
  else match r.answers.lookup request.url with
    | some answer => answer.delivery
    | none => .answered 404 (.whole [])

def record (r : Rehearsal) (request : Request) : Rehearsal :=
  if r.online then { r with arrived := request :: r.arrived } else r

def prepare (r : Rehearsal) (url : String) (answer : Option Answer) : Rehearsal :=
  let others := r.answers.filter fun (u, _) => u != url
  { r with answers := match answer with
      | some a => (url, a) :: others
      | none => others }

def wire : Wire (StateM Rehearsal) where
  deliver request := do
    -- The answer depends on the table alone, not on what arrived before.
    let delivery := (← get).reply request
    modify fun r => r.record request
    return delivery
  readCookie := return (← get).cookie

end Rehearsal
end ChainLens.Web
