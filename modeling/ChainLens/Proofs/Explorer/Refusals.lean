import ChainLens.Explorer.Call
import ChainLens.Proofs.Source.Asked
import ChainLens.Proofs.Text.Trimmed

/-!
Calls that are refused. Whether a call is refused depends on its arguments and on the network alone,
so it is found out before the first question. A page past the end costs one question, and a
transaction is handed on as it was typed.
-/

namespace ChainLens

namespace Text

/-- Blanks around it aside, the text is not that of any bytes but none. -/
def SpellsNothing (text : String) : Prop := ∀ bytes, Hex.decode (trim text) = .ok bytes → bytes = []

end Text

/-- Blanks around it aside, the text is neither an address of the network nor a script in digits,
and it is refused for not being the former. -/
inductive Scriptless (network : Network) (text : String) : Refusal → Prop
  | unread {fault : AddressFault} (haddress : Address.parse (Text.trim text) = .error fault)
      (hdigits : Text.SpellsNothing text) :
    Scriptless network text (.address (Text.trim text) fault)
  | foreign {a : Address} (haddress : Address.parse (Text.trim text) = .ok a)
      (hforeign : a.validOn network = false) (hdigits : Text.SpellsNothing text) :
    Scriptless network text (.foreignAddress (Text.trim text) network)

/-- Blanks around it aside, the text is not digits, or they are not those of one transaction and
nothing else. -/
inductive Transactionless (text : String) : Refusal → Prop
  | undigital {fault : Hex.Fault} (h : Hex.decode (Text.trim text) = .error fault) :
    Transactionless text (.transactionHex fault)
  | unread {bytes : Bytes} {error : DecodeError} (h : Hex.decode (Text.trim text) = .ok bytes)
      (hread : Transaction.decode bytes = .error error) :
    Transactionless text (.notTransaction (.transaction error))

variable {network : Network} {text : String} {refusal : Refusal}

/-- A text is refused as an address if it is none, or one of another network. -/
theorem script_of_address_eq_error : scriptOfAddress network (Text.trim text) = .error refusal ↔
    (∃ fault, Address.parse (Text.trim text) = .error fault ∧
      refusal = .address (Text.trim text) fault) ∨
    ∃ a, Address.parse (Text.trim text) = .ok a ∧ a.validOn network = false ∧
      refusal = .foreignAddress (Text.trim text) network := by
  rw [scriptOfAddress, Text.trim_trim]
  constructor
  · intro h
    cases haddress : Address.parse (Text.trim text) with
    | error fault =>
      simp only [haddress, Except.error.injEq] at h
      exact .inl ⟨fault, rfl, h.symm⟩
    | ok a =>
      cases hvalid : a.validOn network with
      | true => simp [haddress, hvalid] at h
      | false =>
        simp only [haddress, hvalid, Bool.false_eq_true, if_false, Except.error.injEq] at h
        exact .inr ⟨a, rfl, hvalid, h.symm⟩
  · rintro (⟨fault, haddress, rfl⟩ | ⟨a, haddress, hforeign, rfl⟩)
    · simp only [haddress]
    · simp only [haddress, hforeign, Bool.false_eq_true, if_false]

/-- A text is refused as a script if it is refused as an address and spells no bytes. -/
theorem script_of_text_eq_error_iff : scriptOfText network text = .error refusal ↔
    scriptOfAddress network (Text.trim text) = .error refusal ∧ Text.SpellsNothing text := by
  -- the equation of the definition takes Lean long to make, so the definition is opened without it
  delta scriptOfText Text.SpellsNothing
  cases haddress : scriptOfAddress network (Text.trim text) with
  | ok script => simp [haddress]
  | error first =>
    cases hdigits : Hex.decode (Text.trim text) with
    | error fault => simp [haddress, hdigits]
    | ok bytes => cases bytes <;> simp [haddress, hdigits]

/-- A text is refused just when it names no script, and for that. -/
theorem script_of_text_eq_error :
    scriptOfText network text = .error refusal ↔ Scriptless network text refusal := by
  rw [script_of_text_eq_error_iff, script_of_address_eq_error]
  constructor
  · rintro ⟨⟨fault, haddress, rfl⟩ | ⟨a, haddress, hforeign, rfl⟩, hdigits⟩
    · exact .unread haddress hdigits
    · exact .foreign haddress hforeign hdigits
  · intro h
    cases h with
    | unread haddress hdigits => exact ⟨.inl ⟨_, haddress, rfl⟩, hdigits⟩
    | foreign haddress hforeign hdigits => exact ⟨.inr ⟨_, haddress, hforeign, rfl⟩, hdigits⟩

/-- Blanks are the digits of an empty script, which does not count as one. -/
example : scriptOfText .bitcoin " \t" = .error (.address "" .base58) := by decide +kernel

namespace Explorer

open Lookup

/-- Digits are handed on just when they are those of one transaction. -/
theorem transaction_hex_eq_error :
    transactionHex text = .error refusal ↔ Transactionless text refusal := by
  rw [transactionHex]
  constructor
  · intro h
    cases hdigits : Hex.decode (Text.trim text) with
    | error fault =>
      simp only [hdigits, Except.error.injEq] at h
      exact h ▸ .undigital hdigits
    | ok bytes =>
      cases hread : Transaction.decode bytes with
      | error error =>
        simp only [hdigits, TxRecord.read, hread, Except.error.injEq] at h
        exact h ▸ .unread hdigits hread
      | ok t => simp only [hdigits, TxRecord.read, hread, reduceCtorEq] at h
  · intro h
    cases h with
    | undigital hdigits => simp only [hdigits]
    | unread hdigits hread => simp only [hdigits, TxRecord.read, hread]

theorem transaction_hex_of_decode {bytes : Bytes} {t : Transaction}
    (hdigits : Hex.decode (Text.trim text) = .ok bytes)
    (hread : Transaction.decode bytes = .ok t) : transactionHex text = .ok (Text.trim text) := by
  simp only [transactionHex, hdigits, TxRecord.read, hread]

/-- What is accepted is handed on. -/
theorem broadcast_of_accepted {hex : String} (h : transactionHex text = .ok hex) :
    broadcast text = Lookup.ask (.broadcast hex) := by
  rw [broadcast, h]
  rfl

/-- The calls whose arguments are refused, with the reasons. -/
inductive Call.Unfit (network : Network) : Call → Refusal → Prop
  | summaries (start : Height) : Unfit network (.summaries start 0) .emptyPage
  | ranking (offset : UInt64) : Unfit network (.ranking offset 0) .emptyPage
  | history {text : String} {refusal : Refusal} (h : Scriptless network text refusal) :
    Unfit network (.history text) refusal
  | transactions {text : String} {refusal : Refusal} (h : Scriptless network text refusal) :
    Unfit network (.transactions text) refusal
  | rank {text : String} {refusal : Refusal} (h : Scriptless network text refusal) :
    Unfit network (.rank text) refusal
  | unspent {text : String} {refusal : Refusal} (h : Scriptless network text refusal) :
    Unfit network (.unspent text) refusal
  | broadcast {text : String} {refusal : Refusal} (h : Transactionless text refusal) :
    Unfit network (.broadcast text) refusal

theorem accept_script_of_scriptless {α : Type} (h : Scriptless network text refusal)
    (f : Script → Lookup α) :
    Lookup.accept (scriptOfText network text) >>= f = throw (.invalid refusal) := by
  rw [script_of_text_eq_error.mpr h]
  rfl

/-- An unfit call is nothing but its refusal. -/
theorem Call.Unfit.lookup_eq {call : Call} (h : call.Unfit network refusal) :
    call.lookup network = throw (.invalid refusal) := by
  cases h with
  | summaries start => rfl
  | ranking offset => rfl
  | history h => exact accept_script_of_scriptless h _
  | transactions h =>
    rw [Call.lookup, Explorer.transactions, Explorer.history, accept_script_of_scriptless h]
    rfl
  | rank h => exact accept_script_of_scriptless h _
  | unspent h => exact accept_script_of_scriptless h _
  | broadcast h =>
    rw [Call.lookup, Explorer.broadcast, transaction_hex_eq_error.mpr h]
    rfl

def Begins {α : Type} (x : Lookup α) : Prop := ∃ q next, x.run = Dialogue.ask q next

theorem begins_ask (q : Query) : Begins (Lookup.ask q) := ⟨q, _, rfl⟩

theorem Begins.bind {α β : Type} {x : Lookup α} (h : Begins x) (f : α → Lookup β) :
    Begins (x >>= f) := by
  obtain ⟨q, next, hx⟩ := h
  have hrun := ExceptT.run_bind x f
  rw [hx] at hrun
  exact ⟨q, _, hrun⟩

theorem begins_load (hash : BlockHash) : Begins (load hash) := by
  have hbytes : Begins (Lookup.attempt (.blockBytes hash)) := ⟨.blockBytes hash, _, rfl⟩
  exact hbytes.bind _

/-- A lookup about a block asks about the tip or the block first. -/
theorem begins_with_block {α : Type} (ref : BlockRef) {f : BlockHash → Lookup α}
    (hf : ∀ hash, Begins (f hash)) :
    Begins (resolve ref >>= f) := by
  cases ref with
  | hash hash => exact hf hash
  | height height => exact ((begins_ask .tip).bind _).bind f

/-- A lookup about a script asks something once the script is understood. -/
theorem begins_with_script {α : Type} {f : Script → Lookup α}
    (h : ∀ refusal, ¬ Scriptless network text refusal)
    (hf : ∀ script, Begins (f script)) :
    Begins (Lookup.accept (scriptOfText network text) >>= f) := by
  cases hscript : scriptOfText network text with
  | ok script => exact hf script
  | error refusal => exact absurd (script_of_text_eq_error.mp hscript) (h refusal)

/-- A call is made unless it is unfit. -/
theorem Call.begins {call : Call} (h : ∀ refusal, ¬ call.Unfit network refusal) :
    Begins (call.lookup network) := by
  -- four calls take nothing that could be refused, and the others begin once their arguments are
  -- let pass
  cases call with
  | status => exact begins_ask .tip
  | transaction id => exact (begins_ask (.transaction id)).bind _
  | block ref => exact begins_with_block ref fun hash => (begins_load hash).bind _
  | fullBlock ref => exact begins_with_block ref fun hash => (begins_load hash).bind _
  | summaries start limit =>
    have hlimit : limit ≠ 0 := by
      rintro rfl
      exact h .emptyPage (.summaries start)
    rw [Call.lookup, Explorer.summaries, if_neg hlimit]
    exact (begins_ask .tip).bind _
  | history text =>
    exact begins_with_script (fun refusal hs => h refusal (.history hs)) fun script => begins_ask _
  | transactions text =>
    have hids : Begins (Explorer.history network text) :=
      begins_with_script (fun refusal hs => h refusal (.transactions hs)) fun script => begins_ask _
    exact hids.bind _
  | rank text =>
    exact begins_with_script (fun refusal hs => h refusal (.rank hs)) fun script => begins_ask _
  | unspent text =>
    exact begins_with_script (fun refusal hs => h refusal (.unspent hs)) fun script =>
      (begins_ask _).bind _
  | ranking offset limit =>
    have hlimit : limit ≠ 0 := by
      rintro rfl
      exact h .emptyPage (.ranking offset)
    rw [Call.lookup, Explorer.ranking, if_neg hlimit]
    exact (begins_ask .holderCount).bind _
  | broadcast text =>
    rw [Call.lookup, Explorer.broadcast]
    cases hhex : transactionHex text with
    | ok hex => exact begins_ask _
    | error refusal => exact absurd (.broadcast (transaction_hex_eq_error.mp hhex)) (h refusal)

section Source

variable {σ : Type} (source : Source (StateM σ))

/-- A page of the ranking takes the number of holders first, and nothing else if it begins past
them. -/
theorem record_ranking_past_end {offset limit count : UInt64} {memory after : σ}
    (hlimit : limit ≠ 0)
    (hcount : Id.run ((source.answer .holderCount).run memory) = (.ok count, after))
    (hend : count ≤ offset)
    (asked : List Query) :
    Id.run (((ranking network offset limit).record source asked).run memory) =
      ((.error (.outOfRange offset.toNat count.toNat), .holderCount :: asked), after) := by
  rw [ranking, if_neg hlimit]
  change Id.run (((Lookup.ask .holderCount >>= _).record source asked).run memory) = _
  rw [record_bind, record_ask, bind_map_left, StateT.run_bind, Id.run_bind, hcount]
  simp only [if_pos hend]
  rfl

/-- A broadcast is one question, with the digits as they were typed but for blanks around them. -/
theorem record_broadcast {bytes : Bytes} {t : Transaction}
    (hdigits : Hex.decode (Text.trim text) = .ok bytes)
    (hread : Transaction.decode bytes = .ok t) (asked : List Query) :
    (broadcast text).record source asked =
      (fun reply => (reply, .broadcast (Text.trim text) :: asked)) <$>
        source.answer (.broadcast (Text.trim text)) := by
  rw [broadcast_of_accepted (transaction_hex_of_decode hdigits hread), record_ask]

/-- Calls are judged before a source hears of them. Its record of questions shows what it heard. -/
structure JudgedFirst (network : Network) (source : Source (StateM σ)) : Prop where
  unheard : ∀ (call : Call) (refusal : Refusal), call.Unfit network refusal → ∀ asked,
    (call.lookup network).record source asked = pure (.error (.invalid refusal), asked)
  /-- Nothing else is refused without a question. -/
  heard : ∀ call : Call, (∀ refusal, ¬ call.Unfit network refusal) → Begins (call.lookup network)
  past_end : ∀ (offset limit count : UInt64) (memory after : σ), limit ≠ 0 →
    Id.run ((source.answer .holderCount).run memory) = (.ok count, after) →
      count ≤ offset → ∀ asked,
    Id.run (((ranking network offset limit).record source asked).run memory) =
      ((.error (.outOfRange offset.toNat count.toNat), .holderCount :: asked), after)
  /-- Blanks around it aside, a transaction is handed on as typed, and no other question is
  asked. -/
  handed_on : ∀ (text : String) (bytes : Bytes) (t : Transaction),
      Hex.decode (Text.trim text) = .ok bytes →
    Transaction.decode bytes = .ok t → ∀ asked, (broadcast text).record source asked =
      (fun reply => (reply, .broadcast (Text.trim text) :: asked)) <$>
        source.answer (.broadcast (Text.trim text))

/-- A call with unfit arguments reaches no source, and every other call does. Past the end of the
ranking only the number of holders is asked for, and a transaction is handed on as it was typed,
once. -/
theorem calls_are_judged_first (network : Network) : JudgedFirst network source where
  unheard call refusal h asked := by rw [h.lookup_eq, record_throw]
  heard _ h := Call.begins h
  past_end _ _ _ _ _ hlimit hcount hend asked :=
    record_ranking_past_end source hlimit hcount hend asked
  handed_on _ _ _ hdigits hread asked := record_broadcast source hdigits hread asked

end Source

end Explorer
end ChainLens
