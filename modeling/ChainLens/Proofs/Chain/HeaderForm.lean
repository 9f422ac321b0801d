import ChainLens.Proofs.Chain.BlockForm
import Mathlib.Logic.Function.Basic

/-!
Headers as strings of eighty bytes. Writing and reading are inverse to each other, every string of
that length is the written form of one header, and what follows it is never looked at.
-/

namespace ChainLens.Header

/-- Where the six fields stand in the bytes of a header. Numbers have the least byte first, and the
version is in two's complement. -/
structure LaidOut (h : Header) (bytes : Bytes) : Prop where
  version : h.version.toInt = Int.bmod (LittleEndian.decode (bytes.take 4)) UInt32.size
  previous : h.previous.bytes = (bytes.drop 4).take 32
  merkleRoot : h.merkleRoot.bytes = (bytes.drop 36).take 32
  time : h.time.toNat = LittleEndian.decode ((bytes.drop 68).take 4)
  bits : h.bits.toNat = LittleEndian.decode ((bytes.drop 72).take 4)
  nonce : h.nonce.toNat = LittleEndian.decode ((bytes.drop 76).take 4)

theorem decode_word32 (w : UInt32) : LittleEndian.decode (Encode.word32 w) = w.toNat := by
  rw [Encode.word32, LittleEndian.decode_encode]
  exact Nat.mod_eq_of_lt w.toNat_lt

theorem decode_signed32 (n : Int32) :
    Int.bmod (LittleEndian.decode (Encode.signed32 n)) UInt32.size = n.toInt := by
  rw [Encode.signed32, decode_word32]
  exact (BitVec.toInt_eq_toNat_bmod n.toBitVec).symm

/-- With a field taken off the front, the next one stands there. -/
theorem take_off {start width : Nat} {bytes field behind : Bytes} (hfield : field.length = width)
    (hleft : bytes.drop start = field ++ behind) :
    (bytes.drop start).take width = field ∧ bytes.drop (start + width) = behind := by
  rw [← List.drop_drop, hleft]
  exact ⟨List.take_left' hfield, List.drop_left' hfield⟩

/-- The fields of a header stand at their places, whatever follows it. -/
theorem laid_out_encode_append (h : Header) (rest : Bytes) : h.LaidOut (h.encode ++ rest) := by
  have hword (w : UInt32) : (Encode.word32 w).length = 4 := Encode.length_word32 w
  have hwhole : (h.encode ++ rest).drop 0 = Encode.signed32 h.version ++
      (h.previous.bytes ++ (h.merkleRoot.bytes ++
      (Encode.word32 h.time ++ (Encode.word32 h.bits ++ (Encode.word32 h.nonce ++ rest))))) := by
    simp only [encode, List.append_assoc, List.drop_zero]
  obtain ⟨hversion, hleft⟩ := take_off (Encode.length_signed32 h.version) hwhole
  obtain ⟨hprevious, hleft⟩ := take_off h.previous.length_eq hleft
  obtain ⟨hroot, hleft⟩ := take_off h.merkleRoot.length_eq hleft
  obtain ⟨htime, hleft⟩ := take_off (hword h.time) hleft
  obtain ⟨hbits, hleft⟩ := take_off (hword h.bits) hleft
  obtain ⟨hnonce, -⟩ := take_off (hword h.nonce) hleft
  constructor
  · rw [← decode_signed32, ← hversion, List.drop_zero]
  · exact hprevious.symm
  · exact hroot.symm
  · rw [← decode_word32, ← htime]
  · rw [← decode_word32, ← hbits]
  · rw [← decode_word32, ← hnonce]

/-- The first eighty of some bytes are a header. -/
theorem exists_read_eq_ok {bytes : Bytes} (hlength : size ≤ bytes.length) :
    ∃ h, read bytes = .ok h := by
  have hfront : (bytes.take size).length = size := List.length_take_of_le hlength
  obtain ⟨h, hencode⟩ := exists_encode_eq hfront
  exact ⟨h, read_eq_ok_iff.mpr hencode.symm⟩

/-- Fewer than eighty bytes are refused with their number. -/
theorem read_of_short {bytes : Bytes} (hshort : bytes.length < size) :
    read bytes = .error (.shortHeader bytes.length) := by
  cases hread : read bytes with
  | ok h =>
    have hfront : bytes.take size = h.encode := read_eq_ok_iff.mp hread
    have htaken : (bytes.take size).length = size := by rw [hfront, h.length_encode]
    rw [List.length_take] at htaken
    omega
  | error flaw =>
    rw [read] at hread
    split at hread
    · cases hread
    · exact hread.symm

/-- What the first eighty of some bytes make of them. -/
structure Restored (bytes : Bytes) (h : Header) : Prop where
  read_eq : read bytes = .ok h
  encode_eq : h.encode = bytes.take 80
  hash_eq : h.hash = Hash256.double (bytes.take 80)
  laid_out : h.LaidOut bytes
  /-- Whatever follows them makes no difference. -/
  alone : ∀ others : Bytes, others.take 80 = bytes.take 80 → read others = .ok h

/-- A header that is read comes of the first eighty bytes, and is written as them. -/
theorem restored_of_read {bytes : Bytes} {h : Header} (hread : read bytes = .ok h) :
    Restored bytes h := by
  have hfront : bytes.take size = h.encode := read_eq_ok_iff.mp hread
  refine { read_eq := hread, encode_eq := hfront.symm, hash_eq := ?_, laid_out := ?_, alone := ?_ }
  · rw [hash, ← hfront]
    rfl
  · have hwhole : h.encode ++ bytes.drop size = bytes := by rw [← hfront, List.take_append_drop]
    rw [← hwhole]
    exact h.laid_out_encode_append _
  · intro others hsame
    apply read_eq_ok_iff.mpr
    rw [← hfront]
    exact hsame

/-- All headers and all strings of eighty bytes are written and read as each other. Fewer bytes are
malformed data, and of more the first eighty decide everything. -/
theorem headers_are_eighty_bytes :
    Function.Bijective (fun h : Header =>
      (⟨h.encode, h.length_encode⟩ : { bytes : Bytes // bytes.length = 80 })) ∧
    (∀ h : Header, read h.encode = .ok h) ∧
    ∀ bytes : Bytes,
      ((∃ flaw, read bytes = .error flaw) ↔ bytes.length < 80) ∧
      (bytes.length < 80 → read bytes = .error (.shortHeader bytes.length)) ∧
      (80 ≤ bytes.length → ∃ h, Restored bytes h) := by
  refine ⟨⟨?_, ?_⟩, read_encode, ?_⟩
  · intro h h' hsame
    have hencode : h.encode = h'.encode := congrArg Subtype.val hsame
    apply Except.ok.inj
    rw [← h.read_encode, hencode, h'.read_encode]
  · intro bytes
    obtain ⟨h, hencode⟩ := exists_encode_eq bytes.property
    exact ⟨h, Subtype.ext hencode⟩
  · intro bytes
    refine ⟨⟨?_, ?_⟩, read_of_short, ?_⟩
    · intro hfailed
      obtain ⟨flaw, hflaw⟩ := hfailed
      apply Nat.lt_of_not_le
      intro hlong
      obtain ⟨h, hread⟩ := exists_read_eq_ok hlong
      rw [hread] at hflaw
      cases hflaw
    · intro hshort
      exact ⟨_, read_of_short hshort⟩
    · intro hlong
      obtain ⟨h, hread⟩ := exists_read_eq_ok hlong
      exact ⟨h, restored_of_read hread⟩

def negativeBytes : Bytes :=
  [255, 255, 255, 255] ++ List.replicate 64 0 ++ [7, 0, 0, 0, 255, 255, 0, 29, 9, 0, 0, 128] ++ [1]

/-- The version may be negative, the nonce may not. -/
theorem headers_are_eighty_bytes_before_zero :
    ∃ h, Restored negativeBytes h ∧ h.version.toInt = -1 ∧ h.nonce.toNat = 2147483657 ∧
      h.encode = negativeBytes.dropLast := by
  obtain ⟨-, -, hbytes⟩ := headers_are_eighty_bytes
  obtain ⟨h, hrestored⟩ := (hbytes negativeBytes).2.2 (by decide)
  refine ⟨h, hrestored, ?_, ?_, ?_⟩
  · rw [hrestored.laid_out.version]
    decide
  · rw [hrestored.laid_out.nonce]
    decide
  · rw [hrestored.encode_eq]
    decide

end ChainLens.Header
