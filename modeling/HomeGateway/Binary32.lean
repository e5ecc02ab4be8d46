/-! Single precision numbers by their bit pattern. Arithmetic is exact in `Nat` and
rounds once, to the nearest 24-bit significand and to the even one on a tie. -/

namespace HomeGateway.Binary32

/-- What a bit pattern stands for; a finite value is `mantissa * 2 ^ exponent`. -/
inductive Class where
  | nan
  | infinite (negative : Bool)
  | finite (negative : Bool) (mantissa : Nat) (exponent : Int)

/-- The leading bit of a full significand; bit patterns leave it out. -/
def leadingBit : Nat := 0x800000

def classify (bits : UInt32) : Class :=
  let n := bits.toNat
  let negative := n.testBit 31
  let exponent : Nat := n / leadingBit % 256
  let fraction : Nat := n % leadingBit
  if exponent = 255 then
    if fraction = 0 then .infinite negative else .nan
  else if exponent = 0 then .finite negative fraction (-149)
  else .finite negative (leadingBit + fraction) ((exponent : Int) - 150)

/-- The text of a value that is not finite. -/
def Class.specialText : Class → Option String
  | .nan => some "NaN"
  | .infinite false => some "inf"
  | .infinite true => some "-inf"
  | .finite .. => none

structure Scaled where
  mantissa : Nat
  exponent : Int

/-- `value * 2 ^ exponent`, rounded toward zero. -/
def Scaled.floor (s : Scaled) : Nat :=
  if 0 ≤ s.exponent then s.mantissa <<< s.exponent.toNat
  else s.mantissa >>> (-s.exponent).toNat

def roundHalfEven (num den : Nat) : Nat :=
  let quotient := num / den
  let rest := 2 * (num % den)
  if rest > den ∨ (rest = den ∧ quotient % 2 = 1) then quotient + 1 else quotient

/-- Divides `num / den` by `2 ^ exponent`, as numerator and denominator. -/
def rescale (num den : Nat) (exponent : Int) : Nat × Nat :=
  if 0 ≤ exponent then (num, den <<< exponent.toNat) else (num <<< (-exponent).toNat, den)

/-- The number of this format next to `num / den`, if the format had no largest
exponent. -/
def nearest (num den : Nat) : Scaled :=
  -- At `low` the quotient lies between 2 ^ 23 and 2 ^ 25.
  let low : Int := (num.log2 : Int) - den.log2 - 24
  let (n, d) := rescale num den low
  let exponent := max (-149) (if n / d < 2 * leadingBit then low else low + 1)
  let (n, d) := rescale num den exponent
  { mantissa := roundHalfEven n d, exponent := exponent }

def Scaled.bits (s : Scaled) (negative : Bool) : UInt32 :=
  let sign := if negative then 0x80000000 else 0
  let magnitude :=
    if s.mantissa < leadingBit then s.mantissa
    else if s.mantissa < 2 * leadingBit then
      (s.exponent + 150).toNat * leadingBit + (s.mantissa - leadingBit)
    else (s.exponent + 151).toNat * leadingBit + (s.mantissa / 2 - leadingBit)
  (sign + magnitude).toUInt32

/-- The bits of `n / 100`. -/
def hundredths (n : Int) : UInt32 :=
  if n = 0 then 0 else (nearest n.natAbs 100).bits (n < 0)

/-- A hundred times a finite value, rounded, then cut to an integer that saturates at
the 16-bit range. -/
def centiCut (negative : Bool) (mantissa : Nat) (exponent : Int) : Int16 :=
  if mantissa = 0 then 0 else
  let (num, den) := rescale (100 * mantissa) 1 (-exponent)
  let whole := (nearest num den).floor
  if negative then Int16.ofInt (-(min whole 32768 : Nat)) else Int16.ofInt (min whole 32767 : Nat)

end HomeGateway.Binary32
