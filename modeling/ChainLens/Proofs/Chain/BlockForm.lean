import ChainLens.Chain.Record
import ChainLens.Proofs.Chain.TransactionForms
import ChainLens.Proofs.Encoding.Consumption

/-!
The written forms of headers and blocks. Every header has one of eighty bytes, and all strings of
eighty bytes are such forms. A block is the form of its header followed by a counted list of forms
of transactions.
-/

namespace ChainLens

open Decoder

theorem Encode.length_word32 (w : UInt32) : (Encode.word32 w).length = 4 :=
  LittleEndian.length_encode 4 _

theorem Encode.length_signed32 (n : Int32) : (Encode.signed32 n).length = 4 :=
  Encode.length_word32 _

namespace Header

theorem length_encode (h : Header) : h.encode.length = Header.size := by
  simp [encode, Encode.length_word32, Encode.length_signed32, h.previous.length_eq,
    h.merkleRoot.length_eq, size]

/-- A header is read from the eighty bytes it is written as. -/
theorem reads : Header.decoder.Reads Header.encode (fun _ => True) := by
  intro bytes h rest
  simp only [decoder, run_bind_eq_ok, reads_signed32.run_eq_ok, reads_hash256.run_eq_ok,
    reads_word32.run_eq_ok, run_pure_eq_ok, true_and]
  constructor
  · intro hr
    obtain ⟨version, _, rfl, previous, _, rfl, root, _, rfl, time, _, rfl, bits, _, rfl, nonce, _,
        rfl, rfl, rfl⟩ := hr
    simp [encode]
  · intro hb
    subst hb
    exact ⟨h.version, _, by simp [encode], h.previous, _, rfl, h.merkleRoot, _, rfl, h.time, _, rfl,
      h.bits, _, rfl,
      h.nonce, _, rfl, rfl, rfl⟩

theorem takes_size : Header.decoder.Takes size := by
  apply takes_signed32.bind (n := 76)
  intro version
  apply takes_hash256.bind (n := 44)
  intro previous
  apply takes_hash256.bind (n := 12)
  intro merkleRoot
  apply takes_word32.bind (n := 8)
  intro time
  apply takes_word32.bind (n := 4)
  intro bits
  apply takes_word32.bind (n := 0)
  intro nonce
  exact .pure _

/-- Eighty bytes are the written form of some header, whatever they are. -/
theorem exists_encode_eq {bytes : Bytes} (hlength : bytes.length = size) :
    ∃ h : Header, h.encode = bytes := by
  obtain ⟨h, -, hbytes⟩ := takes_size.exists_write_eq reads hlength
  exact ⟨h, hbytes⟩

/-- A header is read from its own bytes, whatever follows them. -/
theorem read_encode_append (h : Header) (rest : Bytes) :
    Header.read (h.encode ++ rest) = .ok h := by
  have hr : decoder.run (h.encode ++ rest) = .ok (h, rest) := reads.run_eq_ok.mpr ⟨trivial, rfl⟩
  rw [Header.read, hr]

theorem read_encode (h : Header) : Header.read h.encode = .ok h := by
  have hr := h.read_encode_append []
  rwa [List.append_nil] at hr

/-- A header is read just from bytes that begin with its written form. -/
theorem read_eq_ok_iff {bytes : Bytes} {header : Header} :
    read bytes = .ok header ↔ bytes.take size = header.encode := by
  constructor
  · intro h
    rw [read] at h
    split at h
    · next found rest hrun =>
      obtain rfl := Except.ok.inj h
      obtain ⟨-, rfl⟩ := reads.run_eq_ok.mp hrun
      exact List.take_left' (length_encode _)
    · cases h
  · intro h
    have hwhole : header.encode ++ bytes.drop size = bytes := by rw [← h, List.take_append_drop]
    rw [← hwhole]
    exact read_encode_append header _

end Header

namespace Block

/-- The blocks that are read back from their written forms. -/
structure Readable (b : Block) : Prop where
  count_lt : b.transactions.length < UInt64.size
  transactions : ∀ t ∈ b.transactions, t.Readable

theorem reads : Block.decoder.Reads Block.encode Block.Readable := by
  intro bytes b rest
  simp only [decoder, run_bind_eq_ok, Header.reads.run_eq_ok, Transaction.reads.counted.run_eq_ok,
    run_pure_eq_ok, true_and]
  constructor
  · intro h
    obtain ⟨header, _, rfl, transactions, _, ⟨⟨hc, ht⟩, rfl⟩, rfl, rfl⟩ := h
    exact ⟨⟨hc, ht⟩, by simp [encode]⟩
  · intro h
    obtain ⟨hb, rfl⟩ := h
    exact ⟨b.header, _, by simp [encode], b.transactions, _,
      ⟨⟨hb.count_lt, hb.transactions⟩, rfl⟩, rfl, rfl⟩

theorem decode_eq_ok {bytes : Bytes} {b : Block} :
    Block.decode bytes = .ok b ↔ b.Readable ∧ bytes = b.encode :=
  reads.decode_all_eq_ok

theorem read_eq_ok {bytes : Bytes} {b : Block} :
    Block.read bytes = .ok b ↔ Block.decode bytes = .ok b := by
  rw [Block.read]
  cases Block.decode bytes with
  | ok found => simp only [Except.ok.injEq]
  | error e => simp only [reduceCtorEq]

/-- The first eighty bytes of a block are its header. -/
theorem take_encode (b : Block) : b.encode.take Header.size = b.header.encode := by
  rw [encode, List.take_left' b.header.length_encode]

end Block
end ChainLens
