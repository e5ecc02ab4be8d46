/-! Hexadecimal text. -/

namespace HomeGateway.Hex

def digit (n : Nat) : Char :=
  if n < 10 then Char.ofNat (48 + n) else Char.ofNat (87 + n)

def upperDigit (n : Nat) : Char :=
  if n < 10 then Char.ofNat (48 + n) else Char.ofNat (55 + n)

def value? (c : Char) : Option Nat :=
  if '0' ≤ c ∧ c ≤ '9' then some (c.toNat - 48)
  else if 'a' ≤ c ∧ c ≤ 'f' then some (c.toNat - 87)
  else if 'A' ≤ c ∧ c ≤ 'F' then some (c.toNat - 55)
  else none

def digits (digit : Nat → Char) : Nat → Nat → List Char → List Char
  | 0, _, tail => tail
  | width + 1, n, tail => digits digit width (n / 16) (digit (n % 16) :: tail)

/-- The `width` low hexadecimal digits of `n`. -/
def padded (width n : Nat) : String := String.ofList (digits digit width n [])

def upper (width n : Nat) : String := String.ofList (digits upperDigit width n [])

/-- The shortest text of `n`, as after `\u`. -/
def shortest (n : Nat) : String := padded (n.log2 / 4 + 1) n

def ofBytes (bytes : List UInt8) : String :=
  String.join (bytes.map fun b => padded 2 b.toNat)

def toBytes? (text : String) : Option (List UInt8) :=
  let rec pairs : List Char → Option (List UInt8)
    | [] => some []
    | [_] => none
    | hi :: lo :: rest => do
      let h ← value? hi
      let l ← value? lo
      let tail ← pairs rest
      return (16 * h + l).toUInt8 :: tail
  pairs text.toList

end HomeGateway.Hex
