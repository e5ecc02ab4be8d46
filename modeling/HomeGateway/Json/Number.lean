import HomeGateway.Binary32

/-!
Number literals of JSON. A literal keeps its digits, so that a reader decides what it makes of
them: an integer, or a double precision number, which may be too large to have a finite value.
-/

namespace HomeGateway.Json

/-- The digits before and after the point, and the power of ten. -/
structure Number where
  negative : Bool
  whole : List Char
  decimals : List Char
  power : Option Int

/-- The value of a row of digits, most significant first. -/
def decimalValue (digits : List Char) : Nat := Nat.ofDigitChars 10 digits 0

namespace Number

def ofInt (n : Int) : Number :=
  { negative := n < 0, whole := Nat.toDigits 10 n.natAbs, decimals := [], power := none }

/-- The integer that a number is written as, with neither a point nor an exponent. Minus zero
is no integer. -/
def toInt? (n : Number) : Option Int :=
  let magnitude := decimalValue n.whole
  if !n.decimals.isEmpty || n.power.isSome then none
  else if !n.negative then some magnitude
  else if magnitude = 0 then none
  else some (-magnitude)

theorem decimalValue_toDigits (n : Nat) : decimalValue (Nat.toDigits 10 n) = n :=
  Nat.ofDigitChars_toDigits (by decide) (by decide)

theorem toInt?_ofInt (n : Int) : (ofInt n).toInt? = some n := by
  simp only [ofInt, toInt?, decimalValue_toDigits, List.isEmpty_nil, Option.isSome_none,
    Bool.not_true, Bool.or_false, Bool.false_eq_true, if_false]
  by_cases h : n < 0
  · have : n.natAbs ≠ 0 := by omega
    simp only [h, decide_true, Bool.not_true, Bool.false_eq_true, if_false, this, Option.some.injEq]
    omega
  · simp only [h, decide_false, Bool.not_false, if_true, Option.some.injEq]
    omega

/-! Double precision -/

/-- The least magnitude that rounds past the largest double precision number. -/
def overflowBound : Nat := 1 <<< 1024 - 1 <<< 970

/-- The number with a 53-bit significand next to `n`, the even one on a tie. -/
def nearestDouble (n : Nat) : Nat :=
  let shift := n.log2 - 52
  Binary32.roundHalfEven n (1 <<< shift) <<< shift

/-- Appends digits to a number as long as it fits a 64-bit word, and gives back the digits
from the first that does not. -/
def absorb (word : Nat) : List Char → Nat × List Char
  | [] => (word, [])
  | c :: rest =>
    let longer := decimalValue [c] + 10 * word
    if longer < UInt64.size then absorb longer rest else (word, c :: rest)

/-- Whether the number has a finite double precision value, computed as the product of two:
one for the digits that fit a 64-bit word, and one for the power of ten. Whole digits that
do not fit count as zeros, and decimals that do not fit are left out. -/
def isFinite (n : Number) : Bool :=
  let (word, zeros) := absorb 0 n.whole
  let (word, omitted) := absorb word n.decimals
  let power : Int := n.power.getD 0 + zeros.length - (n.decimals.length - omitted.length : Nat)
  if word = 0 ∨ power < 0 then true
  else if 308 < power then false
  else nearestDouble word * nearestDouble (Nat.pow 10 power.toNat) < overflowBound

end Number

end HomeGateway.Json
