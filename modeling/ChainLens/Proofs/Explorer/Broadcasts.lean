import ChainLens.Proofs.Address.RoundTrip
import ChainLens.Proofs.Explorer.Identity
import ChainLens.Proofs.Explorer.Refusals
import ChainLens.Proofs.Source.Related
import ChainLens.Proofs.Web.Rehearsed
import Mathlib.Control.Monad.Basic

/-!
Broadcasts through a node. What a broadcast comes to is read off the body of the answer as long as
that is a JSON-RPC response; only a body that is none leaves the matter to the status.
-/

namespace ChainLens.Explorer

open Web

def response? (body : Bytes) : Option RpcResponse :=
  (Json.parse? (Utf8.decodeLossy body)).bind RpcResponse.shape

def handOver (url : String) (authorization : Option String) (id : Nat) (hex : String) : RpcCall :=
  { url, authorization, id, method := "sendrawtransaction", params := [.text hex] }

/-- A node with an endpoint whose credentials can be read at the moment. The call that hands over a
transaction can be made, and its answer arrives in full. -/
structure Answered (wire : Wire Id) (node : FullNode) (memory : FullNode.Memory) (hex : String)
    (url : String)
    (status : Nat) (body : Bytes) : Prop where
  exists_exchange : ∃ endpoint credentials sent authorization, node.endpoint = some endpoint ∧
    endpoint.base.text = url ∧ endpoint.authority.credentials wire.readCookie = .ok credentials ∧
    heading url credentials = .ok (sent, authorization) ∧
    wire.deliver (.call (handOver sent authorization memory.nextCall hex)) =
      Delivery.answered status (.whole body)

def broadcastOutcome (wire : Wire Id) (node : FullNode) (memory : FullNode.Memory) (text : String) :
    Except Failure Txid :=
  (Id.run (((broadcast text).runWith (node.source wire)).run memory)).1

variable {wire : Wire Id} {node : FullNode} {memory : FullNode.Memory} {text hex url : String}
    {status : Nat}
  {body : Bytes}

/-- The digits of a transaction are handed over as they are. -/
theorem transaction_hex_encode {t : Transaction} (ht : t.Readable) :
    transactionHex (Hex.encode t.encode) = .ok (Hex.encode t.encode) := by
  have hdigit : ∀ n < 16, Bech32.isLabelChar (Hex.digit n) = true := by decide
  have htrim : Text.trim (Hex.encode t.encode) = Hex.encode t.encode := by
    apply Text.trim_of_visible
    intro c hc
    obtain ⟨n, hn, rfl⟩ := Hex.mem_encode_chars hc
    exact hdigit n hn
  simp only [transactionHex, htrim, Hex.decode_encode, TxRecord.read_encode ht]

/-- With credentials at hand a call is one request, and its outcome is what is read of the
answer. -/
theorem call_eq {endpoint : Endpoint} {credentials : Option Credentials} {sent method : String}
    {authorization : Option String} {id : Nat} {params : List Json}
    (hcredentials : endpoint.authority.credentials wire.readCookie = .ok credentials)
    (hheading : heading endpoint.base.text credentials = .ok (sent, authorization)) :
    call wire endpoint id method params =
      judgeCall endpoint.base.text sent
        (wire.deliver (.call { url := sent, authorization, id, method, params })) := by
  simp only [call, bind, hcredentials, hheading]
  rfl

/-- The body is judged first, and by its error if it is a response. -/
theorem broadcast_outcome_eq (htext : transactionHex text = .ok hex)
    (h : Answered wire node memory hex url status body) :
    broadcastOutcome wire node memory text =
      readBroadcast (match response? body with
        | some response => response.outcome
        | none =>
          if isSuccess status then
            garbled (.json "JSON-RPC response" "unexpected JSON" (Utf8.decodeLossy body))
          else outage (.status status url)) := by
  obtain ⟨endpoint, credentials, sent, authorization, hendpoint, rfl, hcredentials, hheading,
      hdelivered⟩ :=
    h.exists_exchange
  have hasked : broadcastOutcome wire node memory text =
      readBroadcast (call wire endpoint memory.nextCall "sendrawtransaction" [.text hex]) := by
    rw [broadcastOutcome, broadcast_of_accepted htext]
    exact congrArg Prod.fst (FullNode.run_broadcast hendpoint hex memory)
  rw [hasked, call_eq hcredentials hheading]
  simp only [handOver] at hdelivered
  rw [hdelivered]
  rfl

/-- A broadcast succeeds just when the result names the transaction in digits. -/
theorem read_broadcast_eq_ok {result : Except Failure Json} {id : Txid} :
    readBroadcast result = .ok id ↔ ∃ json digits, result = .ok json ∧ json.string? = some digits ∧
      Hash256.parse digits = .ok id := by
  cases result with
  | error failure => simp [readBroadcast]
  | ok json =>
    cases hdigits : json.string? with
    | none => simp [readBroadcast, hdigits, garbled, outage]
    | some digits =>
      cases hparse : Hash256.parse digits with
      | error fault => simp [readBroadcast, hdigits, hparse, garbled, outage]
      | ok found => simp [readBroadcast, hdigits, hparse]

/-- What a broadcast comes to when the answer has not the status of a success. -/
structure Unsuccessful (outcome : Except Failure Txid) (url : String) (status : Nat)
    (body : Bytes) : Prop where
  no_response : response? body = none → outcome = .error (.unavailable (.status status url))
  failed : ∀ response error, response? body = some response → response.error = some error →
    outcome = .error (blameCaller (.unavailable (RpcResponse.readError error)))
  /-- The one way to a success all the same. -/
  ok_iff : ∀ id, outcome = .ok id ↔ ∃ response digits, response? body = some response ∧
      response.error = none ∧
    (response.result.getD .null).string? = some digits ∧ Hash256.parse digits = .ok id

/-- An answer without the status of a success is a failure of the broadcast, unless its body reads
as a response that states no error. Where it reads as no response at all, the failure names the
status and the address. -/
theorem failed_status_fails (htext : transactionHex text = .ok hex)
    (h : Answered wire node memory hex url status body)
    (hstatus : isSuccess status = false) :
    Unsuccessful (broadcastOutcome wire node memory text) url status body where
  no_response hnone := by
    rw [broadcast_outcome_eq htext h, hnone, hstatus]
    rfl
  failed response error hsome herror := by
    rw [broadcast_outcome_eq htext h, hsome]
    simp only [RpcResponse.outcome, herror]
    rfl
  ok_iff id := by
    rw [broadcast_outcome_eq htext h, read_broadcast_eq_ok]
    cases hresponse : response? body with
    | none => simp [hstatus, outage]
    | some response =>
      cases herror : response.error with
      | some error => simp [RpcResponse.outcome, herror, outage]
      | none => simp [RpcResponse.outcome, herror]

/-- A network that gives one answer to every request, and has no file of credentials. -/
def sameAnswer (status : Nat) (body : Bytes) : Wire Id where
  deliver _ := .answered status (.whole body)
  readCookie := none

def openNode : FullNode where
  base := ⟨"http://[::1]/rest"⟩
  endpoint := some ⟨⟨"http://[::1]"⟩, .anonymous⟩

theorem minted_hex :
    transactionHex (Hex.encode minted.encode) = .ok (Hex.encode minted.encode) := by
  have hd : Transaction.decode minted.encode = .ok minted := by rfl
  exact transaction_hex_encode (Transaction.decode_eq_ok.mp hd).1

theorem answered_open_node (hex : String) (status : Nat) (body : Bytes) :
    Answered (sameAnswer status body) openNode .empty hex "http://[::1]" status body :=
  ⟨⟨⟨"http://[::1]"⟩, .anonymous⟩, none, "http://[::1]/", none, rfl, rfl, rfl, rfl, rfl⟩

/-- A node that asks for credentials answers with status 401 and no body. -/
theorem failed_status_fails_unauthorized :
    transactionHex (Hex.encode minted.encode) = .ok (Hex.encode minted.encode) ∧
      Answered (sameAnswer 401 []) openNode .empty (Hex.encode minted.encode)
      "http://[::1]" 401 [] ∧
      isSuccess 401 = false ∧
      broadcastOutcome (sameAnswer 401 []) openNode .empty (Hex.encode minted.encode) =
        .error (.unavailable (.status 401 "http://[::1]")) := by
  have hanswered := answered_open_node (Hex.encode minted.encode) 401 []
  exact ⟨minted_hex, hanswered, rfl, (failed_status_fails minted_hex hanswered rfl).no_response rfl⟩

/-- A response that names a transaction as the result, and states no error. -/
def zeroResult : Bytes := plainBody ("\x7b\"result\":\"" ++ Hash256.zero.display ++ "\"\x7d")

/-- A server in trouble that still names a transaction is taken at its word: the status is not
looked at. -/
theorem not_every_failed_status_fails :
    transactionHex (Hex.encode minted.encode) = .ok (Hex.encode minted.encode) ∧
      Answered (sameAnswer 500 zeroResult) openNode .empty (Hex.encode minted.encode) "http://[::1]"
        500 zeroResult ∧
      isSuccess 500 = false ∧
      broadcastOutcome (sameAnswer 500 zeroResult) openNode .empty (Hex.encode minted.encode) =
        .ok Hash256.zero := by
  have hanswered := answered_open_node (Hex.encode minted.encode) 500 zeroResult
  refine ⟨minted_hex, hanswered, rfl, ?_⟩
  rw [broadcast_outcome_eq minted_hex hanswered]
  -- the body reads as a response, and that decides
  decide +kernel

end ChainLens.Explorer
