namespace Logbook

/-- What a double stands for: a signed `mantissa * 2 ^ exponent`, a signed infinity, or no number. -/
inductive Double where
  | finite (negative : Bool) (mantissa : Nat) (exponent : Int)
  | infinite (negative : Bool)
  | nan
deriving Repr, DecidableEq

namespace Double

/-- The least mantissa that uses all its bits, 2 to the power of 52. -/
def leadingBit : Nat := 0x10000000000000

/-- Reads the 64 bits of a double: a sign, 11 bits of exponent and 52 bits of fraction. -/
def ofBits (bits : UInt64) : Double :=
  let n := bits.toNat
  let negative := n / (2048 * leadingBit) % 2 = 1
  let exponent : Nat := n / leadingBit % 2048
  let fraction := n % leadingBit
  if exponent = 2047 then if fraction = 0 then .infinite negative else .nan
  else if exponent = 0 then .finite negative fraction (-1074)
  else .finite negative (leadingBit + fraction) ((exponent : Int) - 1075)

def ofFloat (x : Float) : Double :=
  ofBits x.toBits

/-- Whether the number below `mantissa * 2 ^ exponent` is only half as far away as the one above: so it
is at a power of two, where the exponent changes. -/
def closerBelow (mantissa : Nat) (exponent : Int) : Bool :=
  mantissa = leadingBit && -1074 < exponent

end Double

end Logbook
