/-!
How hard a block is to find, relative to the easiest target, in double precision.
-/

namespace ChainLens

/-- Two to the power `n`, for exponents up to 1023; below the normal numbers it is zero. -/
def powerOfTwo (n : Int) : Float :=
  if n < -1022 then 0.0 else Float.ofBits (UInt64.ofNat ((n + 1023).toNat <<< 52))

/-- The easiest target over the target in compact form, whose high byte is an exponent of 256 and
whose other bytes are a factor. The factor zero yields zero. -/
def difficulty (bits : UInt32) : Float :=
  let exponent := bits.toNat / 0x1000000
  let factor := bits.toNat % 0x1000000
  if factor = 0 then 0.0
  else powerOfTwo (8 * (29 - (exponent : Int))) * (65535.0 / Float.ofNat factor)

end ChainLens
