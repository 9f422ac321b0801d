import ChainLens.Json.Writer
import ChainLens.Proofs.Json.RoundTrip
import ChainLens.Proofs.Text.Utf8Form
import ChainLens.Proofs.Web.Rehearsed

/-!
Servers with pages. A server publishes pages below a base if each of them can be had under its path
and all others are said not to exist. What is fetched below that base is then what the pages hold.
-/

namespace ChainLens.Web

inductive Content
  | raw (bytes : Bytes)
  | json (value : Json)

def Content.body : Content → Bytes
  | .raw bytes => bytes
  | .json value => Utf8.encode value.compact

/-- The answer to a request for a page: all that it holds, or that there is none. -/
inductive Serves : Option Content → Delivery → Prop
  | found (content : Content) : Serves (some content) (.answered 200 (.whole content.body))
  | missing (body : Body) : Serves none (.answered 404 body)

/-- Requests for pages below a base go out and are answered with the pages. -/
def Wire.Publishes {κ : Type} (wire : Wire Id) (base : BaseUrl) (path : κ → String)
    (page : κ → Option Content) :
    Prop :=
  ∀ key, ∃ sent authorization, heading (base.join (path key)) none = .ok (sent, authorization) ∧
    Serves (page key) (wire.deliver (.get sent authorization))

def orMissing {α : Type} (path : String) : Option α → Except Failure α
  | some a => .ok a
  | none => .error (.notFound (.path path))

section Fetching

variable {κ α : Type} {wire : Wire Id} {base : BaseUrl} {path : κ → String}
    {page : κ → Option Content}

/-- A fetch from a network that publishes pages brings the page, or finds it missing. -/
theorem fetch_of_publishes (h : wire.Publishes base path page) (key : κ) :
    fetch wire base (path key) = orMissing (path key) ((page key).map Content.body) := by
  obtain ⟨sent, authorization, hheading, hserves⟩ := h key
  have hfetch : fetch wire base (path key) =
      judgeFetch (path key) (base.join (path key)) sent
        (wire.deliver (.get sent authorization)) := by
    simp only [fetch, hheading]
    rfl
  rw [hfetch]
  generalize page key = content at hserves ⊢
  generalize (wire.deliver (.get sent authorization) : Delivery) = delivery at hserves ⊢
  cases hserves with
  | found content => rfl
  | missing body => rfl

/-- JSON that is written without loss is read back from its page. -/
theorem parse_json_body {json : Json} (hplain : json.Plain) :
    Json.parse? (Utf8.decodeLossy (Content.json json).body) = some json := by
  rw [Content.body, Utf8.decode_lossy_encode]
  exact Json.parse_compact hplain

theorem read_json_body {json : Json} {shape : Json → Option α} {a : α} (hplain : json.Plain)
    (hshape : shape json = some a) (text : String) :
    readJson text shape (Content.json json).body = .ok a := by
  simp only [readJson, parse_json_body hplain, Option.bind_some, hshape]

/-- A page of JSON is missing or reads as what it was made from. -/
theorem fetch_json_of_publishes {β : Type} (h : wire.Publishes base path page) {key : κ}
    {made : Option β}
    {json : β → Json} {shape : Json → Option α} {read : β → α}
    (hpage : page key = made.map fun b => .json (json b))
    (hread : ∀ b, made = some b → (json b).Plain ∧ shape (json b) = some (read b)) :
    fetchJson wire base (path key) shape = orMissing (path key) (made.map read) := by
  have hfetch := fetch_of_publishes h key
  have hbind : fetchJson wire base (path key) shape =
      ((fetch wire base (path key) : Except Failure Bytes) >>=
        readJson (path key) shape : Except Failure α) := rfl
  rw [hbind, hfetch, hpage]
  cases made with
  | none => rfl
  | some b =>
    obtain ⟨hplain, hshape⟩ := hread b rfl
    exact read_json_body hplain hshape (path key)

end Fetching

section Serving

variable {κ : Type} {base : BaseUrl} {path : κ → String} {page : κ → Option Content}

def pagesAt (base : BaseUrl) (path : κ → String) (page : κ → Option Content) (keys : List κ) :
    List (String × Bytes) :=
  keys.filterMap fun key => (page key).map fun content => (base.join (path key), content.body)

/-- Below one address, different paths are at different addresses. -/
theorem join_injective {a b : String} (h : base.join a = base.join b) : a = b := by
  have hchars := congrArg String.toList h
  simp only [BaseUrl.join, String.toList_append, List.append_cancel_left_eq] at hchars
  exact String.toList_injective hchars

theorem reply_serve_cons (url : String) (body : Bytes) (pages : List (String × Bytes))
    (request : Request) :
    (Rehearsal.serve ((url, body) :: pages)).reply request =
      if request.url = url then .answered 200 (.whole body)
      else (Rehearsal.serve pages).reply request := by
  by_cases hurl : request.url = url
  · rw [if_pos hurl]
    simp only [Rehearsal.reply, Rehearsal.serve, List.map_cons, List.lookup_cons, hurl,
      beq_self_eq_true]
    rfl
  · rw [if_neg hurl]
    simp only [Rehearsal.reply, Rehearsal.serve, List.map_cons, List.lookup_cons,
      beq_false_of_ne hurl]
    rfl

/-- Where paths differ, each page is served at its own. -/
theorem reply_pages_at (hpath : Function.Injective path) {keys : List κ} {key : κ}
    (h : page key ≠ none → key ∈ keys)
    (authorization : Option String) :
    Serves (page key)
      ((Rehearsal.serve (pagesAt base path page keys)).reply
        (.get (base.join (path key)) authorization)) := by
  induction keys with
  | nil =>
    have hnone : page key = none :=
      Classical.byContradiction fun hsome => absurd (h hsome) List.not_mem_nil
    rw [hnone]
    exact .missing _
  | cons other keys ih =>
    cases hother : page other with
    | none =>
      have hskip : pagesAt base path page (other :: keys) = pagesAt base path page keys := by
        simp only [pagesAt, List.filterMap_cons, hother, Option.map_none]
      rw [hskip]
      apply ih
      intro hsome
      rcases List.mem_cons.mp (h hsome) with rfl | hmem
      · exact absurd hother hsome
      · exact hmem
    | some content =>
      have hfront : pagesAt base path page (other :: keys) =
          (base.join (path other), content.body) :: pagesAt base path page keys := by
        simp only [pagesAt, List.filterMap_cons, hother, Option.map_some]
      rw [hfront, reply_serve_cons]
      by_cases hkey : key = other
      · have hurl : (Request.get (base.join (path other)) authorization).url =
            base.join (path other) := rfl
        rw [hkey, hother, if_pos hurl]
        exact .found content
      · -- another page has another address
        have hurl : ¬ (Request.get (base.join (path key)) authorization).url =
            base.join (path other) :=
          fun hsame => hkey (hpath (join_injective hsame))
        rw [if_neg hurl]
        exact ih fun hsome => (List.mem_cons.mp (h hsome)).resolve_left hkey

/-- A server with all its pages publishes them below every base whose addresses go out as they
are. -/
theorem serve_publishes (hpath : Function.Injective path) {keys : List κ}
    (hkeys : ∀ key, page key ≠ none → key ∈ keys)
    (hheading : ∀ key, heading (base.join (path key)) none = .ok (base.join (path key), none)) :
    (Rehearsal.serve (pagesAt base path page keys)).still.Publishes base path page :=
  fun key => ⟨_, _, hheading key, reply_pages_at hpath (hkeys key) none⟩

end Serving

end ChainLens.Web
