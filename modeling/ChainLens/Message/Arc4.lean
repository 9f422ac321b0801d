import ChainLens.Bytes.LittleEndian

/-!
The ARC4 stream cipher. Its state is a table of 256 bytes and two indices into it; encryption and
decryption are the same operation.
-/

namespace ChainLens

structure Arc4 where
  table : Vector UInt8 256
  i : UInt8
  j : UInt8

namespace Arc4

def entry (table : Vector UInt8 256) (n : UInt8) : UInt8 := table.get ⟨n.toNat, n.toNat_lt⟩

def exchange (table : Vector UInt8 256) (m n : UInt8) : Vector UInt8 256 :=
  table.swap m.toNat n.toNat m.toNat_lt n.toNat_lt

def identity : Vector UInt8 256 := Vector.ofFn fun n => UInt8.ofNat n.val

def mix (key : Bytes) (state : Vector UInt8 256 × UInt8) (n : Nat) : Vector UInt8 256 × UInt8 :=
  let (table, j) := state
  let i := UInt8.ofNat n
  let j := j + entry table i + key.getD (n % key.length) 0
  (exchange table i j, j)

def ofKey (key : Bytes) : Arc4 :=
  let (table, _) := (List.range 256).foldl (mix key) (identity, 0)
  { table, i := 0, j := 0 }

def next (c : Arc4) : UInt8 × Arc4 :=
  let i := c.i + 1
  let j := c.j + entry c.table i
  let table := exchange c.table i j
  (entry table (entry table i + entry table j), { table, i, j })

/-- Combines the data with the key stream, and returns the cipher after it. -/
def apply : Arc4 → Bytes → Bytes × Arc4
  | c, [] => ([], c)
  | c, b :: rest =>
    let (k, c) := next c
    let (out, c) := apply c rest
    ((b ^^^ k) :: out, c)

end Arc4
end ChainLens
