import ChainLens.Proofs.Explorer.Broadcasts
import ChainLens.Proofs.Web.CookieLine
import ChainLens.Proofs.Web.Noted

/-!
Broadcasts by a node whose calls are authorized by a file. The file is read at the time of the
broadcast, and the call bears its first line; only credentials in the address of the endpoint itself
are sent before those of the file.
-/

namespace ChainLens.Explorer

open Web

section Requests

variable {ρ : Type}

/-- What a broadcast sends, over a network that may be in any state. -/
def broadcastRequests (wire : Wire (StateM ρ)) (server : ρ) (node : FullNode)
    (memory : FullNode.Memory)
    (typed : String) : List Request :=
  (Id.run (((((broadcast typed).runWith (node.source wire.noted)).run memory).run []).run
      server)).1.2.map
    Exchange.request

/-- A call sends one request if its credentials can be had, and none otherwise. -/
theorem run_call_noted (wire : Wire (StateM ρ)) (server : ρ) (endpoint : Endpoint) (id : Nat)
    (method : String)
    (params : List Json) :
    (Id.run (((call wire.noted endpoint id method params).run []).run server)).1.2.map
      Exchange.request =
      match endpoint.authority.credentials (Id.run (wire.readCookie.run server)).1 with
      | .error _ => []
      | .ok credentials =>
        match heading endpoint.base.text credentials with
        | .error _ => []
        | .ok (sent, authorization) =>
          [.call { url := sent, authorization, id, method, params }] := by
  simp only [call, StateT.run_bind, Id.run_bind]
  generalize hread : Id.run ((wire.noted.readCookie.run []).run server) = r
  -- reading the file leaves no exchange behind
  have hfile : r.1.1 = (Id.run (wire.readCookie.run server)).1 := by
    rw [← hread]
    rfl
  have hlog : r.1.2 = [] := by
    rw [← hread]
    rfl
  rw [hfile, hlog]
  cases endpoint.authority.credentials (Id.run (wire.readCookie.run server)).1 with
  | error refusal => rfl
  | ok credentials =>
    cases hheading : heading endpoint.base.text credentials with
    | error cause =>
      simp only [hheading]
      rfl
    | ok found =>
      simp only [hheading]
      rfl

variable {wire : Wire (StateM ρ)} {server : ρ} {node : FullNode} {memory : FullNode.Memory}
    {typed hex path : String}
  {file : CookieFile} {base : BaseUrl} {credentials : Credentials}

/-- What is refused is not sent. -/
theorem broadcast_requests_of_refused {refusal : Refusal}
    (h : transactionHex typed = .error refusal) :
    broadcastRequests wire server node memory typed = [] := by
  have hrefused : broadcast typed = throw (.invalid refusal) := by
    rw [broadcast, h]
    rfl
  rw [broadcastRequests, hrefused]
  rfl

/-- The credentials that are sent are those of the file at the time of the broadcast. -/
theorem broadcast_requests_eq (h : transactionHex typed = .ok hex)
    (hendpoint : node.endpoint = some ⟨base, .cookie path⟩)
    (hfile : (Id.run (wire.readCookie.run server)).1 = file)
    (hread : Credentials.ofFile path file = .ok credentials) :
    broadcastRequests wire server node memory typed =
      match heading base.text (some credentials) with
      | .error _ => []
      | .ok (sent, authorization) => [.call (handOver sent authorization memory.nextCall hex)] := by
  have hasked : (broadcast typed).runWith (node.source wire.noted) =
      node.answer wire.noted (.broadcast hex) := by
    rw [broadcast_of_accepted h]
    exact bind_pure (node.answer wire.noted (.broadcast hex))
  have hcalled : broadcastRequests wire server node memory typed =
      (Id.run (((call wire.noted ⟨base, .cookie path⟩ memory.nextCall "sendrawtransaction"
        [.text hex]).run []).run
        server)).1.2.map Exchange.request := by
    rw [broadcastRequests, hasked]
    simp only [FullNode.answer, hendpoint, call_lift]
    rfl
  have hcredentials : (Authority.cookie path).credentials file = .ok (some credentials) := by
    rw [Authority.credentials, hread]
    rfl
  rw [hcalled, run_call_noted, hfile, hcredentials]
  rfl

end Requests

/-- Broadcasts made while the file reads as given authenticate with a text, where the address of the
endpoint has no credentials of its own. -/
structure Authenticates (path : String) (file : CookieFile) (text : List Char) : Prop where
  bears : ∀ {ρ : Type} (wire : Wire (StateM ρ)) (server : ρ) (node : FullNode)
      (memory : FullNode.Memory)
    (typed : String) (base : BaseUrl), (Id.run (wire.readCookie.run server)).1 = file →
      node.endpoint = some ⟨base, .cookie path⟩ →
        (∀ u, Url.parse base.text = .ok u → Credentials.ofUrl? u = none) →
      ∀ request ∈ broadcastRequests wire server node memory typed, request.authorization =
        some (basicHeader text)
  /-- A transaction is handed over wherever the address can be written. -/
  sends : ∀ {ρ : Type} (wire : Wire (StateM ρ)) (server : ρ) (node : FullNode)
      (memory : FullNode.Memory)
    (typed hex : String) (base : BaseUrl) (u : Url),
        (Id.run (wire.readCookie.run server)).1 = file →
      node.endpoint = some ⟨base, .cookie path⟩ → Url.parse base.text = .ok u →
        Credentials.ofUrl? u = none →
      u.isSendable = true → transactionHex typed = .ok hex →
      broadcastRequests wire server node memory typed =
        [.call (handOver u.sent (some (basicHeader text)) memory.nextCall hex)]

def kept (content : String) : CookieFile := some (Utf8.encode content)

/-- How endpoints get their credentials from a file. -/
structure CookieRules (path : String) : Prop where
  readable_iff : ∀ content, (∃ c, Credentials.ofFile path (kept content) = .ok c) ↔
    ∃ line user password, LeadingLine line content.toList ∧
      Credentials.Parts (Text.trimChars line) user password
  read_iff : ∀ content line c, LeadingLine line content.toList →
    (Credentials.ofFile path (kept content) = .ok c ↔
      Credentials.Parts (Text.trimChars line) c.user.toList c.password.toList)
  authenticates : ∀ content line c, LeadingLine line content.toList →
      Credentials.ofFile path (kept content) = .ok c →
    Authenticates path (kept content) (Text.trimChars line)
  /-- A user and a password in plain sight are taken as they are, whatever lines follow. -/
  plain : ∀ user password rest : List Char, user ≠ [] → ':' ∉ user → '\n' ∉ user →
    (∀ c ∈ user.head?, Text.isBlank c = false) → password ≠ [] → '\n' ∉ password →
    (∀ c ∈ password.getLast?, Text.isBlank c = false) →
    (rest = [] ∨ ∃ more, rest = '\n' :: more ∨ rest = '\r' :: '\n' :: more) →
      Credentials.ofFile path (kept (String.ofList (user ++ ':' :: password ++ rest))) =
          .ok ⟨String.ofList user, String.ofList password⟩ ∧
        Authenticates path (kept (String.ofList (user ++ ':' :: password ++ rest)))
          (user ++ ':' :: password)
  refused : ∀ content, (∀ c, Credentials.ofFile path (kept content) ≠ .ok c) →
    ∀ url, Endpoint.build url (.cookie path) (kept content) = .error (.badCookie path)
  built : ∀ content c, Credentials.ofFile path (kept content) = .ok c →
      ∀ url base, BaseUrl.parse url = .ok base →
    Endpoint.build url (.cookie path) (kept content) = .ok ⟨base, .cookie path⟩
  /-- A file that is no text has no lines. -/
  broken : ∀ bytes, Utf8.decode? bytes = none →
      ∀ url, Endpoint.build url (.cookie path) (some bytes) =
    .error (.unreadableCookie path "stream did not contain valid UTF-8")

variable {path content : String} {file : CookieFile} {line text : List Char}
    {credentials : Credentials}

/-- Credentials from a file authenticate with the line they stand in. -/
theorem authenticates_of_parts (hread : Credentials.ofFile path file = .ok credentials)
    (hparts : Credentials.Parts text credentials.user.toList credentials.password.toList) :
    Authenticates path file text := by
  have hheading {base : BaseUrl} {u : Url} (hparse : Url.parse base.text = .ok u)
      (hown : Credentials.ofUrl? u = none) : heading base.text (some credentials) =
        if u.isSendable then .ok (u.sent, some (basicHeader text))
        else .error (.unwritable u.sent) := by
    have hsame : u.outgoing = u := by simp [Url.outgoing, hown]
    simp only [heading, hparse, hsame, authorization?, hown, Option.none_or, Option.map_some,
      hparts.header_eq]
  constructor
  case bears =>
    intro ρ wire server node memory typed base hfile hendpoint hown request hrequest
    cases hhex : transactionHex typed with
    | error refusal =>
      rw [broadcast_requests_of_refused hhex] at hrequest
      cases hrequest
    | ok hex =>
      rw [broadcast_requests_eq hhex hendpoint hfile hread] at hrequest
      cases hparse : Url.parse base.text with
      | error fault =>
        -- nothing goes out to an address that cannot be read
        rw [heading, hparse] at hrequest
        cases hrequest
      | ok u =>
        rw [hheading hparse (hown u hparse)] at hrequest
        split_ifs at hrequest
        · obtain rfl := List.mem_singleton.mp hrequest
          rfl
        · cases hrequest
  case sends =>
    intro ρ wire server node memory typed hex base u hfile hendpoint hparse hown hsendable hhex
    rw [broadcast_requests_eq hhex hendpoint hfile hread, hheading hparse hown, if_pos hsendable]

theorem read_file_iff (h : LeadingLine line content.toList) :
    Credentials.ofFile path (kept content) = .ok credentials ↔
    Credentials.Parts (Text.trimChars line) credentials.user.toList
      credentials.password.toList := by
  rw [kept, Credentials.of_file_eq_ok_iff, Credentials.of_content_eq_some_iff h]

/-- User and password are the parts of the first line, blanks aside. -/
theorem credentials_of_parts (h : LeadingLine line content.toList) {user password : List Char}
    (hparts : Credentials.Parts (Text.trimChars line) user password) :
    Credentials.ofFile path (kept content) = .ok ⟨String.ofList user, String.ofList password⟩ := by
  rw [read_file_iff h, String.toList_ofList, String.toList_ofList]
  exact hparts

/-- A line in plain sight is its own trimmed form, whatever lines follow. -/
theorem authenticates_of_plain {user password rest : List Char}
    (hparts : Credentials.Parts text user password)
    (hplain : '\n' ∉ text) (hfirst : ∀ c ∈ user.head?, Text.isBlank c = false)
    (hlast : ∀ c ∈ password.getLast?, Text.isBlank c = false)
    (hrest : rest = [] ∨ ∃ more, rest = '\n' :: more ∨ rest = '\r' :: '\n' :: more) :
    Credentials.ofFile path (kept (String.ofList (text ++ rest))) =
        .ok ⟨String.ofList user, String.ofList password⟩ ∧
      Authenticates path (kept (String.ofList (text ++ rest))) text := by
  have hline : LeadingLine text (String.ofList (text ++ rest)).toList := by
    rw [String.toList_ofList]
    exact .of_append hplain (hparts.get_last_eq ▸ hlast) hrest
  have htrim : Text.trimChars text = text := (hparts.trimmed hfirst hlast).trim_chars
  have hread : Credentials.ofFile path (kept (String.ofList (text ++ rest))) =
      .ok ⟨String.ofList user, String.ofList password⟩ :=
        credentials_of_parts hline (htrim.symm ▸ hparts)
  refine ⟨hread, authenticates_of_parts hread ?_⟩
  rw [String.toList_ofList, String.toList_ofList]
  exact hparts

/-- The first line of a file of credentials is sent as it stands, or the endpoint is not built. -/
theorem cookie_rules (path : String) : CookieRules path where
  readable_iff content := by
    constructor
    · rintro ⟨c, hread⟩
      obtain ⟨line, hline⟩ := LeadingLine.exists_line content.toList
      exact ⟨line, _, _, hline, (read_file_iff hline).mp hread⟩
    · rintro ⟨line, user, password, hline, hparts⟩
      exact ⟨_, credentials_of_parts hline hparts⟩
  read_iff content line c hline := read_file_iff hline
  authenticates content line c hline hread :=
    authenticates_of_parts hread ((read_file_iff hline).mp hread)
  plain user password rest huser hcolon hfeed hfirst hpassword hfeed' hlast hrest := by
    have hparts : Credentials.Parts (user ++ ':' :: password) user password :=
      ⟨rfl, hcolon, huser, hpassword⟩
    have hplain : '\n' ∉ user ++ ':' :: password := by simp [hfeed, hfeed']
    exact authenticates_of_plain hparts hplain hfirst hlast hrest
  refused content hunread url := by
    have hnone : Credentials.ofContent? content = none := by
      rw [Option.eq_none_iff_forall_ne_some]
      intro c hcontent
      exact hunread c (Credentials.of_file_eq_ok_iff.mpr hcontent)
    rw [Endpoint.build, Authority.credentials, kept, Credentials.of_file_eq_error hnone]
    rfl
  built content c hread url base hbase := by
    rw [Endpoint.build, Authority.credentials, hread, hbase]
    rfl
  broken bytes hbytes url := by
    simp only [Endpoint.build, Authority.credentials, Credentials.ofFile, hbytes]
    rfl

/-- Blanks around the line are no part of it, and the password begins after the first colon. -/
example : Credentials.ofContent? " bob:hunter:2\t\r\nalice:secret" = some ⟨"bob", "hunter:2"⟩ := by
  decide +kernel

/-- A network that is at hand, where nothing but the file of credentials matters. -/
def keeper : Rehearsal :=
  { online := true, answers := [], cookie := kept "bob:hunter2", arrived := [] }

def cookieNode : FullNode where
  base := ⟨"http://[::1]/rest"⟩
  endpoint := some ⟨⟨"http://[::1]"⟩, .cookie "cookie"⟩

/-- Whoever may read the file of a node may broadcast through it. -/
theorem cookie_rules_in_use :
    Credentials.ofFile "cookie" (kept "bob:hunter2") = .ok ⟨"bob", "hunter2"⟩ ∧
      broadcastRequests Rehearsal.wire keeper cookieNode .empty (Hex.encode minted.encode) =
        [.call (handOver "http://[::1]/" (some (basicHeader "bob:hunter2".toList)) 0
          (Hex.encode minted.encode))] := by
  have hfirst : ∀ c ∈ "bob".toList.head?, Text.isBlank c = false := by
    rintro c ⟨⟩
    rfl
  have hlast : ∀ c ∈ "hunter2".toList.getLast?, Text.isBlank c = false := by
    rintro c ⟨⟩
    rfl
  have hplain := (cookie_rules "cookie").plain "bob".toList "hunter2".toList [] (by decide)
    (by decide) (by decide) hfirst (by decide) (by decide) hlast (.inl rfl)
  obtain ⟨u, hparse, hown, hsendable, hsent⟩ : ∃ u, Url.parse "http://[::1]" = .ok u ∧
      Credentials.ofUrl? u = none ∧ u.isSendable = true ∧ u.sent = "http://[::1]/" :=
    ⟨_, rfl, by decide +kernel, by decide +kernel, by decide +kernel⟩
  refine ⟨hplain.1, ?_⟩
  rw [hplain.2.sends Rehearsal.wire keeper cookieNode .empty _ _ _ u rfl rfl hparse hown hsendable
    minted_hex, hsent]
  rfl

/-- A node with a file of credentials, whose endpoint has a user and a password in its address. -/
def signedNode : FullNode where
  base := ⟨"http://[::1]/rest"⟩
  endpoint := some ⟨⟨"http://alice:secret@[::1]"⟩, .cookie "cookie"⟩

/-- The credentials in the address of the endpoint are sent before those of the file. -/
theorem address_outranks_file :
    Credentials.ofFile "cookie" (kept "bob:hunter2") = .ok ⟨"bob", "hunter2"⟩ ∧
      LeadingLine "bob:hunter2".toList "bob:hunter2".toList ∧
      Endpoint.build "http://alice:secret@[::1]" (.cookie "cookie") (kept "bob:hunter2") =
        .ok ⟨⟨"http://alice:secret@[::1]"⟩, .cookie "cookie"⟩ ∧
      (Id.run (Rehearsal.wire.readCookie.run keeper)).1 = kept "bob:hunter2" ∧
      (broadcastRequests Rehearsal.wire keeper signedNode .empty (Hex.encode minted.encode)).map
        Request.authorization =
        [some (basicHeader "alice:secret".toList)] ∧
      basicHeader "alice:secret".toList ≠ basicHeader (Text.trimChars "bob:hunter2".toList) := by
  have hread : Credentials.ofFile "cookie" (kept "bob:hunter2") = .ok ⟨"bob", "hunter2"⟩ :=
    Credentials.of_file_eq_ok_iff.mpr (by decide +kernel)
  have hheading : heading "http://alice:secret@[::1]" (some ⟨"bob", "hunter2"⟩) =
      .ok ("http://[::1]/", some (basicHeader "alice:secret".toList)) := by decide +kernel
  refine ⟨hread, .whole (by decide), by decide +kernel, rfl, ?_, by decide +kernel⟩
  rw [broadcast_requests_eq minted_hex rfl rfl hread, hheading]
  rfl

end ChainLens.Explorer
