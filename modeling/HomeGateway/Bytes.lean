/-! Byte strings and the little-endian numbers in them. -/

namespace HomeGateway.Bytes

/-- The `width` low bytes of `n`, least significant first. -/
def ofNat : Nat → Nat → List UInt8
  | 0, _ => []
  | width + 1, n => n.toUInt8 :: ofNat width (n / 256)

def toNat : List UInt8 → Nat
  | [] => 0
  | b :: rest => b.toNat + 256 * toNat rest

/-- The number of byte strings of a width, and the first number that has no place in one. -/
def count : Nat → Nat
  | 0 => 1
  | width + 1 => 256 * count width

@[simp] theorem length_ofNat (width n : Nat) : (ofNat width n).length = width := by
  induction width generalizing n with
  | zero => rfl
  | succ width ih => simp [ofNat, ih]

theorem toNat_ofNat (width n : Nat) : toNat (ofNat width n) = n % count width := by
  induction width generalizing n with
  | zero => simp [ofNat, toNat, count, Nat.mod_one]
  | succ width ih =>
    have low : n.toUInt8.toNat = n % 256 := UInt8.toNat_ofNat'
    rw [ofNat, toNat, ih, low, count, Nat.mod_mul]

theorem ofNat_toNat (bytes : List UInt8) : ofNat bytes.length (toNat bytes) = bytes := by
  induction bytes with
  | nil => rfl
  | cons b rest ih =>
    have hb : b.toNat < 256 := b.toNat_lt
    simp only [List.length_cons, ofNat, toNat]
    rw [show (b.toNat + 256 * toNat rest) / 256 = toNat rest by omega, ih]
    congr 1
    apply UInt8.toNat_inj.mp
    have low : (b.toNat + 256 * toNat rest).toUInt8.toNat = (b.toNat + 256 * toNat rest) % 256 :=
      UInt8.toNat_ofNat'
    omega

theorem toNat_lt (bytes : List UInt8) : toNat bytes < count bytes.length := by
  induction bytes with
  | nil => simp [toNat, count]
  | cons b rest ih =>
    have hb : b.toNat < 256 := b.toNat_lt
    simp only [toNat, List.length_cons, count]
    omega

end HomeGateway.Bytes
