import ChainLens.Message.Arc4
import Mathlib.Data.List.Induction
import Mathlib.Logic.Function.Iterate

/-!
The stream cipher and its textbook form. The textbook counts in natural numbers modulo 256 and takes
the table for a function; the cipher in bytes goes through the same states. Its table stays a
rearrangement of all bytes, and what it does to one piece of the data depends on the lengths of
those before it only.
-/

namespace ChainLens.Arc4

def numbers (bytes : Bytes) : List Nat := bytes.map UInt8.toNat

namespace Textbook

/-- A table of 256 places, and two places in it. -/
structure State where
  table : Nat → Nat
  i : Nat
  j : Nat

def exchange (table : Nat → Nat) (m n : Nat) (k : Nat) : Nat :=
  if k = m then table n else if k = n then table m else table k

/-- The number of the key for place `n`; the key is gone through again and again. -/
def keyAt (key : List Nat) (hkey : key ≠ []) (n : Nat) : Nat :=
  key.get ⟨n % key.length, Nat.mod_lt n (List.length_pos_iff.mpr hkey)⟩

/-- The table and the second place after the first `n` places have been mixed with the key. -/
def mixed (key : List Nat) (hkey : key ≠ []) : Nat → (Nat → Nat) × Nat
  | 0 => (id, 0)
  | n + 1 =>
    let (table, j) := mixed key hkey n
    let j := (j + table n + keyAt key hkey n) % 256
    (exchange table n j, j)

def start (key : List Nat) (hkey : key ≠ []) : State := ⟨(mixed key hkey 256).1, 0, 0⟩

namespace State

def next (s : State) : State :=
  let i := (s.i + 1) % 256
  let j := (s.j + s.table i) % 256
  ⟨exchange s.table i j, i, j⟩

def output (s : State) : Nat := s.table ((s.table s.i + s.table s.j) % 256)

end State

def stream (key : List Nat) (hkey : key ≠ []) (n : Nat) : Nat :=
  (State.next^[n + 1] (start key hkey)).output

/-- Each number of the data is combined with the one of the key stream at its place. -/
def encipher (key : List Nat) (hkey : key ≠ []) (data : List Nat) : List Nat :=
  data.mapIdx fun n b => b ^^^ stream key hkey n

end Textbook

def Tables (table : Vector UInt8 256) (numbers : Nat → Nat) : Prop :=
  ∀ (n : Nat) (hn : n < 256), (table.get ⟨n, hn⟩).toNat = numbers n

/-- The cipher is in the textbook's state. -/
structure At (c : Arc4) (s : Textbook.State) : Prop where
  table : Tables c.table s.table
  i : c.i.toNat = s.i
  j : c.j.toNat = s.j

theorem numbers_ne_nil {bytes : Bytes} (h : bytes ≠ []) : numbers bytes ≠ [] := by
  intro hnil
  exact h (List.map_eq_nil_iff.mp hnil)

section Tables

variable {table : Vector UInt8 256} {numbers : Nat → Nat}

theorem Tables.entry (h : Tables table numbers) (n : UInt8) :
    (entry table n).toNat = numbers n.toNat := h _ _

theorem tables_identity : Tables identity id := by
  intro n hn
  have hget : identity.get ⟨n, hn⟩ = UInt8.ofNat n := Vector.getElem_ofFn hn
  rw [hget, UInt8.toNat_ofNat', Nat.mod_eq_of_lt hn]
  rfl

/-- Exchanging two entries of the table exchanges two of the textbook's. -/
theorem Tables.exchange (h : Tables table numbers) (m n : UInt8) :
    Tables (exchange table m n) (Textbook.exchange numbers m.toNat n.toNat) := by
  intro k hk
  have hget : (Arc4.exchange table m n).get ⟨k, hk⟩ =
      if k = m.toNat then Arc4.entry table n
      else if k = n.toNat then Arc4.entry table m else table.get ⟨k, hk⟩ :=
    Vector.getElem_swap m.toNat_lt n.toNat_lt hk
  rw [hget, Textbook.exchange]
  split_ifs
  · exact h.entry n
  · exact h.entry m
  · exact h k hk

end Tables

/-- Key setup goes through the states of the textbook. -/
theorem tables_mixed {key : Bytes} (hkey : key ≠ []) {n : Nat} (hn : n ≤ 256) :
    Tables ((List.range n).foldl (mix key) (identity, 0)).1
      (Textbook.mixed (numbers key) (numbers_ne_nil hkey) n).1 ∧
      ((List.range n).foldl (mix key) (identity, 0)).2.toNat =
        (Textbook.mixed (numbers key) (numbers_ne_nil hkey) n).2 := by
  induction n with
  | zero => exact ⟨tables_identity, rfl⟩
  | succ n ih =>
    obtain ⟨htable, hj⟩ := ih (by omega)
    -- the last place is mixed in the state that the first `n` places lead to
    have hlast : (List.range (n + 1)).foldl (mix key) (identity, 0) =
        mix key ((List.range n).foldl (mix key) (identity, 0)) n := by
      rw [List.range_succ, List.foldl_append]
      rfl
    rw [hlast, Textbook.mixed]
    generalize (List.range n).foldl (mix key) (identity, 0) = state at htable hj ⊢
    generalize Textbook.mixed (numbers key) (numbers_ne_nil hkey) n = told at htable hj ⊢
    have hplace : (UInt8.ofNat n).toNat = n := by
      rw [UInt8.toNat_ofNat']
      omega
    have hentry : (entry state.1 (UInt8.ofNat n)).toNat = told.1 n := by rw [htable.entry, hplace]
    have hbyte : (key.getD (n % key.length) 0).toNat =
        Textbook.keyAt (numbers key) (numbers_ne_nil hkey) n := by
      have hlength : n % key.length < key.length := Nat.mod_lt n (List.length_pos_iff.mpr hkey)
      simp only [Textbook.keyAt, numbers, List.get_eq_getElem, List.getElem_map, List.length_map,
        List.getD_eq_getElem?_getD, List.getElem?_eq_getElem hlength, Option.getD_some]
    have hnext : (state.2 + entry state.1 (UInt8.ofNat n) + key.getD (n % key.length) 0).toNat =
        (told.2 + told.1 n + Textbook.keyAt (numbers key) (numbers_ne_nil hkey) n) % 256 := by
      rw [UInt8.toNat_add, UInt8.toNat_add, hj, hentry, hbyte, Nat.mod_add_mod]
    constructor
    · have hexchanged := htable.exchange (UInt8.ofNat n)
        (state.2 + entry state.1 (UInt8.ofNat n) + key.getD (n % key.length) 0)
      rw [hplace, hnext] at hexchanged
      exact hexchanged
    · exact hnext

/-- Set up with a key, the cipher is in the textbook's first state. -/
theorem at_start {key : Bytes} (hkey : key ≠ []) :
    At (ofKey key) (Textbook.start (numbers key) (numbers_ne_nil hkey)) := by
  have htable := (tables_mixed hkey (Nat.le_refl 256)).1
  rw [ofKey, Textbook.start]
  -- what the setup comes to is not computed here
  generalize (List.range 256).foldl (mix key) (identity, 0) = state at htable ⊢
  generalize Textbook.mixed (numbers key) (numbers_ne_nil hkey) 256 = told at htable ⊢
  exact ⟨htable, rfl, rfl⟩

/-- One step takes the cipher to the next state and gives the number of that state. -/
theorem At.step {c : Arc4} {s : Textbook.State} (h : At c s) :
    At (next c).2 s.next ∧ (next c).1.toNat = s.next.output := by
  have hi : (next c).2.i.toNat = s.next.i := by
    have hsum : (c.i + 1).toNat = (s.i + 1) % 256 := by
      rw [UInt8.toNat_add, h.i]
      rfl
    exact hsum
  have hj : (next c).2.j.toNat = s.next.j := by
    have hsum : (c.j + entry c.table (next c).2.i).toNat = (s.j + s.table s.next.i) % 256 := by
      rw [UInt8.toNat_add, h.j, h.table.entry, hi]
    exact hsum
  have htable : Tables (next c).2.table s.next.table := by
    have hexchanged := h.table.exchange (next c).2.i (next c).2.j
    rw [hi, hj] at hexchanged
    exact hexchanged
  refine ⟨⟨htable, hi, hj⟩, ?_⟩
  have hgiven : (next c).1 = entry (next c).2.table
      (entry (next c).2.table (next c).2.i + entry (next c).2.table (next c).2.j) := rfl
  rw [hgiven, htable.entry, UInt8.toNat_add, htable.entry, htable.entry, hi, hj]
  rfl

/-- All data in one go takes the cipher to the state behind it. -/
theorem At.run {c : Arc4} {s : Textbook.State} (h : At c s) (data : Bytes) :
    At (apply c data).2 (Textbook.State.next^[data.length] s) ∧
      numbers (apply c data).1 =
        (numbers data).mapIdx fun n b => b ^^^ (Textbook.State.next^[n + 1] s).output := by
  induction data generalizing c s with
  | nil => exact ⟨h, rfl⟩
  | cons b rest ih =>
    obtain ⟨hnext, houtput⟩ := h.step
    obtain ⟨hafter, hrest⟩ := ih hnext
    refine ⟨hafter, ?_⟩
    have hb : (b ^^^ (next c).1).toNat = b.toNat ^^^ s.next.output := by
      rw [UInt8.toNat_xor, houtput]
    have hcons : numbers (apply c (b :: rest)).1 = (b ^^^ (next c).1).toNat ::
        numbers (apply (next c).2 rest).1 := rfl
    rw [hcons, hb, hrest]
    simp only [numbers, List.map_cons, List.mapIdx_cons]
    rfl

/-- Every number from 0 to 255 stands in the table, and none twice. -/
def Permuted (c : Arc4) : Prop := (numbers c.table.toList).Perm (List.range 256)

/-- An exchange moves entries and changes none. -/
theorem perm_exchange (table : Vector UInt8 256) (m n : UInt8) :
    (numbers (exchange table m n).toList).Perm (numbers table.toList) := by
  have hswap : (exchange table m n).Perm table := Vector.swap_perm m.toNat_lt n.toNat_lt
  exact hswap.toList.map _

theorem numbers_identity : numbers identity.toList = List.range 256 := by
  apply List.ext_getElem
  · rw [numbers, List.length_map, Vector.length_toList, List.length_range]
  · intro n _ hn
    rw [List.length_range] at hn
    rw [List.getElem_range]
    simp only [numbers, List.getElem_map, Vector.getElem_toList]
    exact tables_identity n hn

theorem permuted_mixed (key : Bytes) (places : List Nat) :
    (numbers (places.foldl (mix key) (identity, 0)).1.toList).Perm (List.range 256) := by
  induction places using List.reverseRecOn with
  | nil => exact List.Perm.of_eq numbers_identity
  | append_singleton places n ih =>
    rw [List.foldl_append]
    exact (perm_exchange _ _ _).trans ih

/-- Whatever the key, the table is a permutation. -/
theorem permuted_of_key (key : Bytes) : (ofKey key).Permuted := by
  have hmixed := permuted_mixed key (List.range 256)
  rw [Permuted, ofKey]
  generalize (List.range 256).foldl (mix key) (identity, 0) = state at hmixed ⊢
  exact hmixed

theorem Permuted.step {c : Arc4} (h : c.Permuted) : (next c).2.Permuted :=
  (perm_exchange _ _ _).trans h

/-- The table stays a permutation while data is combined. -/
theorem Permuted.run {c : Arc4} (h : c.Permuted) (data : Bytes) : (apply c data).2.Permuted := by
  induction data generalizing c with
  | nil => exact h
  | cons b rest ih => exact ih h.step

/-- What is appended is taken up where the cipher stands. -/
theorem apply_append (c : Arc4) (first rest : Bytes) :
    apply c (first ++ rest) =
      ((apply c first).1 ++ (apply (apply c first).2 rest).1,
        (apply (apply c first).2 rest).2) := by
  induction first generalizing c with
  | nil => rfl
  | cons b first ih =>
    simp only [List.cons_append, apply, ih]

@[simp] theorem length_apply (c : Arc4) (data : Bytes) : (apply c data).1.length = data.length := by
  induction data generalizing c with
  | nil => rfl
  | cons b rest ih => simp only [apply, List.length_cons, ih]

/-- The key stream does not depend on the data, so the cipher undoes itself. -/
theorem apply_apply (c : Arc4) (data : Bytes) : (apply c (apply c data).1).1 = data := by
  induction data generalizing c with
  | nil => rfl
  | cons b rest ih =>
    simp only [apply, ih, UInt8.xor_assoc, UInt8.xor_self, UInt8.xor_zero]

/-- What the cipher does under a key. -/
structure Enciphers (key : Bytes) (hkey : key ≠ []) : Prop where
  textbook : ∀ data, numbers (apply (ofKey key) data).1 =
    Textbook.encipher (numbers key) (numbers_ne_nil hkey) (numbers data)
  permuted : (ofKey key).Permuted
  /-- The data may be any beginning of what is enciphered, so this is so after every byte. -/
  permuted_after : ∀ data, (apply (ofKey key) data).2.Permuted
  /-- A cipher that has begun on some data goes on with what follows. -/
  parts : ∀ begun first rest,
    apply (apply (ofKey key) begun).2 (first ++ rest) =
      ((apply (apply (ofKey key) begun).2 first).1 ++
          (apply (apply (apply (ofKey key) begun).2 first).2 rest).1,
        (apply (apply (apply (ofKey key) begun).2 first).2 rest).2)
  undone : ∀ data, (apply (ofKey key) (apply (ofKey key) data).1).1 = data

/-- The cipher is that of the textbook, whose table is a permutation at all times. Data can be
enciphered piece by piece, and a fresh cipher with the same key gives it back. -/
theorem textbook_cipher {key : Bytes} (hkey : key ≠ []) : Enciphers key hkey where
  textbook data := ((at_start hkey).run data).2
  permuted := permuted_of_key key
  permuted_after data := (permuted_of_key key).run data
  parts _ first rest := apply_append _ first rest
  undone data := apply_apply (ofKey key) data

def threeLetters : Bytes := [0x4b, 0x65, 0x79]

def nineLetters : Bytes := [0x50, 0x6c, 0x61, 0x69, 0x6e, 0x74, 0x65, 0x78, 0x74]

/-- A published test of the cipher. -/
theorem textbook_cipher_three_letters : ∃ hkey : threeLetters ≠ [],
    numbers (apply (ofKey threeLetters) nineLetters).1 =
        Textbook.encipher (numbers threeLetters) (numbers_ne_nil hkey) (numbers nineLetters) ∧
      (apply (ofKey threeLetters) nineLetters).2.Permuted ∧
      (apply (ofKey threeLetters) (apply (ofKey threeLetters) nineLetters).1).1 = nineLetters := by
  have hkey : threeLetters ≠ [] := by decide
  have henciphers := textbook_cipher hkey
  exact ⟨hkey, henciphers.textbook nineLetters, henciphers.permuted_after nineLetters,
    henciphers.undone nineLetters⟩

end ChainLens.Arc4
