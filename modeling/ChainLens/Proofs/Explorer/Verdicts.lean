import ChainLens.Proofs.Explorer.Broadcasts
import ChainLens.Proofs.Json.Settled
import ChainLens.Proofs.Text.HashDigits
import ChainLens.Proofs.Web.Published

/-!
Verdicts on a transaction that was handed to a node. A response that states an error is judged by
the error alone: four codes turn the transaction down, any other code is a failure of the node, and
an error without code and message is garbled. A response without an error is judged by its result.
-/

namespace ChainLens

namespace Web.RpcResponse

/-- The error holds a code and a message, as members under these names or as its only two
elements. -/
inductive States : Json → Int → String → Prop
  | object {members : List (JsonText × Json)} {code : Int} {message : String}
      (hcode : (some "code", .int code) ∈ members)
      (hmessage : (some "message", .text message) ∈ members) (hlow : -2 ^ 63 ≤ code)
      (hhigh : code < 2 ^ 63) :
    States (.object members) code message
  | array {code : Int} {message : String} (hlow : -2 ^ 63 ≤ code) (hhigh : code < 2 ^ 63) :
    States (.array [.int code, .text message]) code message

def stated? (json : Json) : Option (Int × String) := do
  let [code, message] ← Shape.slots [["code"], ["message"]] json | none
  return (← code.required Shape.signed64, ← message.required Shape.text)

/-- An error is the server's if it states a code and a message, and cannot be understood
otherwise. -/
theorem read_error_eq (json : Json) : readError json =
    match stated? json with
    | some (code, message) => .server code message
    | none => .garbled (.rpcError json.compact) := rfl

variable {json : Json} {code : Int} {message : String}

theorem stated_object_eq_some_iff {members : List (JsonText × Json)} (h : Json.Ascending members) :
    stated? (.object members) = some (code, message) ↔ States (.object members) code message := by
  have hslots : stated? (.object members) = (do
      let first ← Shape.slotOf ["code"] members
      let second ← Shape.slotOf ["message"] members
      return (← first.required Shape.signed64, ← second.required Shape.text)) := by
    have hwhole : (members.all fun m => m.1.isSome) = true := List.all_eq_true.mpr h.whole
    simp only [stated?, Shape.slots, hwhole, if_true, List.mapM_cons, List.mapM_nil,
      Option.bind_eq_bind, Option.pure_def, Option.bind_assoc, Option.bind_some]
  -- the two members are looked up apart, and neither reading depends on the other
  have hread : stated? (.object members) = some (code, message) ↔
      (∃ slot, Shape.slotOf ["code"] members = some slot ∧
          slot.required Shape.signed64 = some code) ∧
        ∃ slot, Shape.slotOf ["message"] members = some slot ∧
          slot.required Shape.text = some message := by
    simp only [hslots, Option.bind_eq_bind, Option.bind_eq_some_iff, Option.pure_def,
      Option.some.injEq, Prod.mk.injEq]
    constructor
    · rintro ⟨first, hfirst, second, hsecond, c, hc, m, hm, rfl, rfl⟩
      exact ⟨⟨first, hfirst, hc⟩, second, hsecond, hm⟩
    · rintro ⟨⟨first, hfirst, hc⟩, second, hsecond, hm⟩
      exact ⟨first, hfirst, second, hsecond, code, hc, message, hm, rfl, rfl⟩
  rw [hread, h.required_eq_some_iff, h.required_eq_some_iff]
  simp only [Shape.signed_eq_some_iff, Shape.text_eq_some_iff]
  constructor
  · rintro ⟨⟨_, hcode, rfl, hlow, hhigh⟩, _, hmessage, rfl⟩
    exact .object hcode hmessage hlow hhigh
  · intro hstates
    cases hstates with
    | object hcode hmessage hlow hhigh => exact ⟨⟨_, hcode, rfl, hlow, hhigh⟩, _, hmessage, rfl⟩

theorem stated_array_eq_some_iff {items : List Json} :
    stated? (.array items) = some (code, message) ↔ States (.array items) code message := by
  match items with
  | [] | [_] | _ :: _ :: _ :: _ =>
    -- neither field has a fallback, and nothing may be surplus
    constructor
    · intro h
      simp [stated?, Shape.slots, Shape.slotsOfItems, Shape.Slot.required] at h
    · intro h
      cases h
  | [first, second] =>
    simp only [stated?, Shape.slots, Shape.slotsOfItems, Shape.Slot.required, Option.map_some,
      Option.bind_eq_bind, Option.bind_some, Option.bind_eq_some_iff, Option.pure_def,
      Option.some.injEq, Prod.mk.injEq, Shape.signed_eq_some_iff, Shape.text_eq_some_iff]
    constructor
    · rintro ⟨_, ⟨rfl, hlow, hhigh⟩, _, rfl, rfl, rfl⟩
      exact .array hlow hhigh
    · intro h
      cases h with
      | array hlow hhigh => exact ⟨code, ⟨rfl, hlow, hhigh⟩, message, rfl, rfl, rfl⟩

/-- What is read off an error is what it states, for the keys of a settled error are there once. -/
theorem stated_eq_some_iff {written : Json} (h : written.settle = some json) :
    stated? json = some (code, message) ↔ States json code message := by
  cases json with
  | object members => exact stated_object_eq_some_iff (Json.ascending_of_settle h)
  | array items => exact stated_array_eq_some_iff
  | null | bool | number | string =>
    constructor
    · intro hstated
      cases hstated
    · intro hstates
      cases hstates

/-- As received, an error is the server's just when it states a code and a message. -/
theorem read_error_eq_server_iff {written : Json} (h : written.settle = some json) :
    readError json = .server code message ↔ States json code message := by
  rw [← stated_eq_some_iff h, read_error_eq]
  cases hstated : stated? json with
  | none => simp
  | some stated => simp [Prod.ext_iff]

theorem read_error_of_silent {written : Json} (h : written.settle = some json)
    (hsilent : ∀ code message, ¬ States json code message) :
    readError json = .garbled (.rpcError json.compact) := by
  have hnone : stated? json = none := by
    rw [Option.eq_none_iff_forall_ne_some]
    rintro ⟨code, message⟩ hstated
    exact hsilent code message ((stated_eq_some_iff h).mp hstated)
  rw [read_error_eq, hnone]

/-- A field that is given is a settled value other than `null`. -/
theorem settled_of_optional {slot : Shape.Slot} (h : slot.optional Json.settle = some (some json)) :
    ∃ written : Json, written.settle = some json ∧ json ≠ .null := by
  cases slot with
  | value written =>
    -- `null` is read as a field that is not there, and nothing else settles to it
    by_cases hnull : written = .null
    · subst hnull
      cases h
    · have hsettle : written.settle = some json := by
        rw [Shape.Slot.optional.eq_2 _ _ hnull, Option.map_eq_some_iff] at h
        obtain ⟨settled, hsettled, hsame⟩ := h
        exact Option.some.inj hsame ▸ hsettled
      refine ⟨written, hsettle, ?_⟩
      rintro rfl
      exact hnull (Json.eq_null_of_settle hsettle)
  | noKey => cases h
  | noElement => cases h

/-- The error of a response that reads. -/
theorem settled_error {response : RpcResponse} {body error : Json} (h : shape body = some response)
    (herror : response.error = some error) :
    ∃ written : Json, written.settle = some error ∧ error ≠ .null := by
  simp only [shape, Option.bind_eq_bind, Option.bind_eq_some_iff] at h
  obtain ⟨slots, -, hfields⟩ := h
  split at hfields
  · next result stated =>
    simp only [Option.bind_eq_some_iff, Option.pure_def, Option.some.injEq] at hfields
    obtain ⟨_, -, given, hgiven, rfl⟩ := hfields
    exact settled_of_optional (hgiven.trans (congrArg some herror))
  · cases hfields

end Web.RpcResponse

namespace Explorer

open Web

/-- Why the result of a response names no transaction: it is no text, or its text is not read as a
hash. -/
inductive Nameless (result : Option Json) : Garbled → Prop
  | untold (h : ∀ digits, result ≠ some (.text digits)) :
    Nameless result (.rpcResult (result.getD .null).compact)
  | unread {digits : String} {fault : Hash256.Fault} (hresult : result = some (.text digits))
      (hparse : Hash256.parse digits = .error fault) :
    Nameless result (.rpcTxid digits fault)

/-- What a response makes of a broadcast. Neither the status of the answer nor, next to an error,
the result matters. -/
structure Judged (response : RpcResponse) (outcome : Except Failure Txid) : Prop where
  /-- An error given as `null` is none. -/
  not_null : response.error ≠ some .null
  rejected : ∀ error code message, response.error = some error →
      RpcResponse.States error code message →
    code ∈ [-22, -25, -26, -27] → outcome = .error (.invalid (.rejected code message))
  failed : ∀ error code message, response.error = some error →
      RpcResponse.States error code message →
    code ∉ [-22, -25, -26, -27] → outcome = .error (.unavailable (.server code message))
  nonstandard : ∀ error, response.error = some error →
      (∀ code message, ¬ RpcResponse.States error code message) →
    outcome = .error (.unavailable (.garbled (.rpcError error.compact)))
  accepted_iff : response.error = none →
    ∀ id, outcome = .ok id ↔ ∃ digits, response.result = some (.text digits) ∧
      id.Denoted digits.toList
  nameless : response.error = none →
    (∀ digits, response.result = some (.text digits) → ∀ id : Txid, ¬ id.Denoted digits.toList) →
      ∃ cause, Nameless response.result cause ∧ outcome = .error (.unavailable (.garbled cause))
  /-- The transaction is blamed for the four codes and for nothing else. -/
  blamed_iff : (∃ refusal, outcome = .error (.invalid refusal)) ↔ ∃ error code message,
    response.error = some error ∧ RpcResponse.States error code message ∧
      code ∈ [-22, -25, -26, -27]

variable {response : RpcResponse}

/-- An error decides the outcome, whatever else the response holds. -/
theorem read_broadcast_of_error {error : Json} (h : response.error = some error) :
    readBroadcast response.outcome =
      .error (blameCaller (.unavailable (RpcResponse.readError error))) := by
  rw [RpcResponse.outcome, h]
  rfl

theorem blame_caller_server (code : Int) (message : String) :
    blameCaller (.unavailable (.server code message)) =
    if code ∈ [-22, -25, -26, -27] then .invalid (.rejected code message)
    else .unavailable (.server code message) := rfl

theorem result_text_iff {digits : String} :
    (response.result.getD .null).string? = some digits ↔ response.result = some (.text digits) := by
  cases response.result with
  | none => simp [Json.string?]
  | some result =>
    rw [Option.getD_some, Option.some.injEq]
    exact Shape.text_eq_some_iff

/-- Without an error, a broadcast succeeds when the result is a text that spells an id. -/
theorem read_broadcast_eq_ok_iff (h : response.error = none) {id : Txid} :
    readBroadcast response.outcome = .ok id ↔
    ∃ digits, response.result = some (.text digits) ∧ id.Denoted digits.toList := by
  have houtcome : response.outcome = .ok (response.result.getD .null) := by
    rw [RpcResponse.outcome, h]
  rw [read_broadcast_eq_ok, houtcome]
  constructor
  · rintro ⟨_, digits, hresult, htext, hparse⟩
    obtain rfl := Except.ok.inj hresult
    exact ⟨digits, result_text_iff.mp htext, Hash256.parse_eq_ok_iff.mp hparse⟩
  · rintro ⟨digits, hresult, hdenoted⟩
    exact ⟨_, digits, rfl, result_text_iff.mpr hresult, Hash256.parse_eq_ok_iff.mpr hdenoted⟩

theorem read_broadcast_of_nameless (h : response.error = none)
    (hnameless : ∀ digits, response.result = some (.text digits) →
      ∀ id : Txid, ¬ id.Denoted digits.toList) :
    ∃ cause, Nameless response.result cause ∧
      readBroadcast response.outcome = .error (.unavailable (.garbled cause)) := by
  have houtcome : response.outcome = .ok (response.result.getD .null) := by
    rw [RpcResponse.outcome, h]
  cases htext : (response.result.getD .null).string? with
  | none =>
    refine ⟨_, .untold ?_, ?_⟩
    · intro digits hresult
      rw [result_text_iff.mpr hresult] at htext
      cases htext
    · simp only [houtcome, readBroadcast, htext]
      rfl
  | some digits =>
    have hresult := result_text_iff.mp htext
    cases hparse : Hash256.parse digits with
    | ok id => exact absurd (Hash256.parse_eq_ok_iff.mp hparse) (hnameless digits hresult id)
    | error fault =>
      refine ⟨_, .unread hresult hparse, ?_⟩
      simp only [houtcome, readBroadcast, htext, hparse]
      rfl

/-- Four codes put the blame on the transaction. -/
theorem blame_caller_eq_invalid_iff {outage : Outage} :
    (∃ refusal, blameCaller (.unavailable outage) = .invalid refusal) ↔
      ∃ code message, outage = .server code message ∧ code ∈ [-22, -25, -26, -27] := by
  cases outage with
  | server code message =>
    rw [blame_caller_server]
    split_ifs with hcode
    · exact ⟨fun _ => ⟨code, message, rfl, hcode⟩, fun _ => ⟨_, rfl⟩⟩
    · simp only [exists_false, Outage.server.injEq, false_iff]
      rintro ⟨_, _, ⟨rfl, rfl⟩, hother⟩
      exact hcode hother
  | undelivered | status | garbled => simp [blameCaller]

/-- Without an error nobody is blamed. -/
theorem read_broadcast_ne_invalid (h : response.error = none) (refusal : Refusal) :
    readBroadcast response.outcome ≠ .error (.invalid refusal) := by
  intro hblamed
  by_cases hnameless : ∀ digits, response.result = some (.text digits) →
    ∀ id : Txid, ¬ id.Denoted digits.toList
  · obtain ⟨cause, -, hgarbled⟩ := read_broadcast_of_nameless h hnameless
    rw [hgarbled] at hblamed
    cases hblamed
  · push Not at hnameless
    obtain ⟨digits, hresult, id, hdenoted⟩ := hnameless
    rw [(read_broadcast_eq_ok_iff h).mpr ⟨digits, hresult, hdenoted⟩] at hblamed
    cases hblamed

/-- A response decides a broadcast by its error, or by its result if there is none. -/
theorem judged_outcome {json : Json} (h : RpcResponse.shape json = some response) :
    Judged response (readBroadcast response.outcome) where
  not_null hnull := by
    obtain ⟨_, -, hne⟩ := RpcResponse.settled_error h hnull
    exact hne rfl
  rejected error code message herror hstates hcode := by
    obtain ⟨_, hsettled, -⟩ := RpcResponse.settled_error h herror
    rw [read_broadcast_of_error herror, (RpcResponse.read_error_eq_server_iff hsettled).mpr hstates,
      blame_caller_server, if_pos hcode]
  failed error code message herror hstates hcode := by
    obtain ⟨_, hsettled, -⟩ := RpcResponse.settled_error h herror
    rw [read_broadcast_of_error herror, (RpcResponse.read_error_eq_server_iff hsettled).mpr hstates,
      blame_caller_server, if_neg hcode]
  nonstandard error herror hsilent := by
    obtain ⟨_, hsettled, -⟩ := RpcResponse.settled_error h herror
    rw [read_broadcast_of_error herror, RpcResponse.read_error_of_silent hsettled hsilent]
    rfl
  accepted_iff herror id := read_broadcast_eq_ok_iff herror
  nameless := read_broadcast_of_nameless
  blamed_iff := by
    cases herror : response.error with
    | none => simp [read_broadcast_ne_invalid herror]
    | some error =>
      obtain ⟨_, hsettled, -⟩ := RpcResponse.settled_error h herror
      simp only [read_broadcast_of_error herror, Except.error.injEq, blame_caller_eq_invalid_iff,
        RpcResponse.read_error_eq_server_iff hsettled, Option.some.injEq]
      constructor
      · rintro ⟨code, message, hstates, hcode⟩
        exact ⟨error, code, message, rfl, hstates, hcode⟩
      · rintro ⟨_, code, message, rfl, hstates, hcode⟩
        exact ⟨code, message, hstates, hcode⟩

theorem response_of_json {json : Json} (h : json.Plain) :
    response? (Content.json json).body = RpcResponse.shape json := by
  rw [response?, parse_json_body h, Option.bind_some]

variable {wire : Wire Id} {node : FullNode} {memory : FullNode.Memory} {text url : String}
    {status : Nat}
  {body : Bytes}

/-- A broadcast of a transaction comes to what the response in the body of the answer makes of
it. -/
theorem response_decides_broadcast {bytes : Bytes} {t : Transaction}
    (hdigits : Hex.decode (Text.trim text) = .ok bytes) (hread : Transaction.decode bytes = .ok t)
    (hanswered : Answered wire node memory (Text.trim text) url status body)
    (hresponse : response? body = some response) :
    Judged response (broadcastOutcome wire node memory text) := by
  rw [broadcast_outcome_eq (transaction_hex_of_decode hdigits hread) hanswered, hresponse]
  obtain ⟨json, -, hshape⟩ := Option.bind_eq_some_iff.mp hresponse
  exact judged_outcome hshape

def feeTooLow : Json := .record [("code", .int (-26)), ("message", .text "min relay fee not met")]

def feeTooLowBody : Bytes := (Content.json (.record [("result", .null), ("error", feeTooLow)])).body

/-- A node turns a transaction down under the status of a server in trouble, and the caller learns
the reason. -/
theorem response_decides_broadcast_fee_too_low :
    Hex.decode (Text.trim (Hex.encode minted.encode)) = .ok minted.encode ∧
      Transaction.decode minted.encode = .ok minted ∧
      Answered (sameAnswer 500 feeTooLowBody) openNode .empty (Text.trim (Hex.encode minted.encode))
      "http://[::1]"
        500 feeTooLowBody ∧
      response? feeTooLowBody = some ⟨none, some feeTooLow⟩ ∧
      broadcastOutcome (sameAnswer 500 feeTooLowBody) openNode .empty (Hex.encode minted.encode) =
        .error (.invalid (.rejected (-26) "min relay fee not met")) := by
  have hdigits : Hex.decode (Text.trim (Hex.encode minted.encode)) = .ok minted.encode := by
    decide +kernel
  have hread : Transaction.decode minted.encode = .ok minted := by rfl
  have hplain : (Json.record [("result", .null), ("error", feeTooLow)]).Plain := by
    simp [Json.Plain, Json.PlainMembers, Json.record, feeTooLow, Json.int, Json.text]
  have hresponse : response? feeTooLowBody = some ⟨none, some feeTooLow⟩ :=
    (response_of_json hplain).trans rfl
  have hanswered := answered_open_node (Text.trim (Hex.encode minted.encode)) 500 feeTooLowBody
  have hstates : RpcResponse.States feeTooLow (-26) "min relay fee not met" :=
    .object List.mem_cons_self (List.mem_cons_of_mem _ List.mem_cons_self) (by decide) (by decide)
  have hjudged := response_decides_broadcast hdigits hread hanswered hresponse
  exact ⟨hdigits, hread, hanswered, hresponse, hjudged.rejected _ _ _ rfl hstates (by decide)⟩

end Explorer

end ChainLens
