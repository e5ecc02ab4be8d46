import Mathlib
import HomeGateway.Bus.Frame

/-!
The frames of the field bus against what goes over the wire. An identifier is a number in mixed
radix whose digits are the four fields, so it is read back digit by digit; a device id that leaves
its six bits would run into the endpoint. Frames that fit on the wire are in bijection with
identifiers of eleven bits and at most eight bytes of data.
-/

namespace HomeGateway

/-- A field above the low bits of a word adds up with them. -/
theorem toNat_or_shiftLeft {low high : UInt16} (width : UInt16) (hwidth : width.toNat < 16)
    (hlow : low.toNat < 2 ^ width.toNat) (hfits : 2 ^ width.toNat * high.toNat < 2 ^ 16) :
    (low ||| high <<< width).toNat = low.toNat + 2 ^ width.toNat * high.toNat := by
  rw [UInt16.toNat_or, UInt16.toNat_shiftLeft, Nat.mod_eq_of_lt hwidth, Nat.shiftLeft_eq,
    Nat.mul_comm, Nat.mod_eq_of_lt hfits, Nat.mul_comm, ← Nat.shiftLeft_eq, Nat.or_comm,
    ← Nat.shiftLeft_add_eq_or_of_lt hlow, Nat.shiftLeft_eq, Nat.add_comm, Nat.mul_comm]

theorem toNat_shiftRight (n : UInt16) {width : UInt16} (hwidth : width.toNat < 16) :
    (n >>> width).toNat = n.toNat / 2 ^ width.toNat := by
  rw [UInt16.toNat_shiftRight, Nat.mod_eq_of_lt hwidth, Nat.shiftRight_eq_div_pow]

theorem toNat_and_one (n : UInt16) : (n &&& 1).toNat = n.toNat % 2 := by
  rw [UInt16.toNat_and]
  exact Nat.and_two_pow_sub_one_eq_mod n.toNat 1

theorem toNat_and_three (n : UInt16) : (n &&& 3).toNat = n.toNat % 4 := by
  rw [UInt16.toNat_and]
  exact Nat.and_two_pow_sub_one_eq_mod n.toNat 2

theorem and_one_cases (n : UInt16) : n &&& 1 = 0 ∨ n &&& 1 = 1 := by
  simp only [← UInt16.toNat_inj, toNat_and_one]
  exact Nat.mod_two_eq_zero_or_one n.toNat

theorem and_three_cases (n : UInt16) :
    n &&& 3 = 0 ∨ n &&& 3 = 1 ∨ n &&& 3 = 2 ∨ n &&& 3 = 3 := by
  simp only [← UInt16.toNat_inj, toNat_and_three]
  change n.toNat % 4 = 0 ∨ n.toNat % 4 = 1 ∨ n.toNat % 4 = 2 ∨ n.toNat % 4 = 3
  omega

/-- A field of an identifier: each value has a digit of its own, and reading takes the lowest digit
of a number. -/
structure Digit {α : Type} (digit : α → UInt16) (read : UInt16 → α) (radix : Nat) : Prop where
  lt : ∀ a, (digit a).toNat < radix
  injective : ∀ a b, (digit a).toNat = (digit b).toNat → a = b
  digit_read : ∀ n, (digit (read n)).toNat = n.toNat % radix

theorem Digit.read_eq {α : Type} {digit : α → UInt16} {read : UInt16 → α} {radix : Nat}
    (h : Digit digit read radix) {n : UInt16} {a : α} (hdigit : n.toNat % radix = (digit a).toNat) :
    read n = a :=
  h.injective _ _ ((h.digit_read n).trans hdigit)

theorem FrameType.digit : Digit FrameType.bits FrameType.ofBits 4 where
  lt t := by cases t <;> decide
  injective t u := by cases t <;> cases u <;> decide
  digit_read n := by
    rw [← toNat_and_three]
    rcases and_three_cases n with h | h | h | h <;> rw [ofBits, h] <;> rfl

theorem Direction.digit : Digit Direction.bits Direction.ofBits 2 where
  lt d := by cases d <;> decide
  injective d e := by cases d <;> cases e <;> decide
  digit_read n := by
    rw [← toNat_and_one]
    rcases and_one_cases n with h | h <;> rw [ofBits, h] <;> rfl

theorem BusEndpoint.digit : Digit BusEndpoint.bits BusEndpoint.ofBits 4 where
  lt e := by cases e <;> decide
  injective e f := by cases e <;> cases f <;> decide
  digit_read n := by
    rw [← toNat_and_three]
    rcases and_three_cases n with h | h | h | h <;> rw [ofBits, h] <;> rfl

theorem BusDeviceId.eq_of_toNat {did other : BusDeviceId}
    (h : did.raw.toNat = other.raw.toNat) : did = other :=
  congrArg BusDeviceId.mk (UInt8.toNat_inj.mp h)

/-- The id read from an identifier is its six bits above the lowest three. -/
theorem BusDeviceId.toNat_ofRaw_bits (n : UInt16) :
    (ofRaw ((n >>> 3) &&& 0x3F).toUInt8).raw.toNat = n.toNat / 8 % 64 := by
  have hbits : ((n >>> 3) &&& 0x3F).toNat = n.toNat / 8 % 64 := by
    rw [UInt16.toNat_and, toNat_shiftRight n (by decide)]
    exact Nat.and_two_pow_sub_one_eq_mod (n.toNat / 8) 6
  have hlt := Nat.mod_lt (n.toNat / 8) (show 64 > 0 by decide)
  have hbyte : ((n >>> 3) &&& 0x3F).toUInt8.toNat = n.toNat / 8 % 64 := by
    rw [UInt16.toNat_toUInt8, hbits]
    omega
  unfold ofRaw
  rw [UInt8.toNat_and, hbyte]
  have hagain := Nat.and_two_pow_sub_one_eq_mod (n.toNat / 8 % 64) 6
  rw [Nat.mod_mod] at hagain
  exact hagain

namespace BusFrame

/-- The identifier of a frame as a number: the device id has its place between the direction and the
endpoint. -/
theorem toNat_canId {f : BusFrame} (h : f.did.raw ≤ 0x3F) :
    f.canId.toNat = f.frameType.bits.toNat +
      4 * (f.direction.bits.toNat + 2 * (f.did.raw.toNat + 64 * f.endpoint.bits.toNat)) := by
  have htype := FrameType.digit.lt f.frameType
  have hdirection := Direction.digit.lt f.direction
  have hendpoint := BusEndpoint.digit.lt f.endpoint
  have hdid : f.did.raw.toNat < 64 := Nat.lt_succ_of_le (UInt8.le_iff_toNat_le.mp h)
  have hraw : f.did.raw.toUInt16.toNat = f.did.raw.toNat :=
    UInt8.toNat_toUInt16 f.did.raw
  have hlow : (f.frameType.bits ||| f.direction.bits <<< 2).toNat =
      f.frameType.bits.toNat + 4 * f.direction.bits.toNat :=
    toNat_or_shiftLeft 2 (by decide) htype (by change 4 * _ < 65536; omega)
  have hmiddle : (f.frameType.bits ||| f.direction.bits <<< 2 ||| f.did.raw.toUInt16 <<< 3).toNat =
      f.frameType.bits.toNat + 4 * f.direction.bits.toNat + 8 * f.did.raw.toNat := by
    rw [toNat_or_shiftLeft 3 (by decide) (by rw [hlow]; change _ < 8; omega)
      (by rw [hraw]; change 8 * _ < 65536; omega), hlow, hraw]
    rfl
  unfold canId
  rw [toNat_or_shiftLeft 9 (by decide) (by rw [hmiddle]; change _ < 512; omega)
    (by change 512 * _ < 65536; omega), hmiddle]
  change _ + 512 * _ = _
  omega

/-- A device id beyond its six bits runs into the endpoint. -/
example : (telemetryQuery ⟨0x40⟩ .app0).toRaw = (telemetryQuery ⟨0⟩ .app1).toRaw := by decide

/-- What is read back from an identifier is what went into it. -/
theorem ofRaw?_toRaw {f : BusFrame} (h : f.did.raw ≤ 0x3F) :
    ofRaw? f.toRaw = some { f with payload := f.payload.take maxPayload } := by
  have hid := toNat_canId h
  have htype := FrameType.digit.lt f.frameType
  have hdirection := Direction.digit.lt f.direction
  have hendpoint := BusEndpoint.digit.lt f.endpoint
  have hdid : f.did.raw.toNat < 64 := Nat.lt_succ_of_le (UInt8.le_iff_toNat_le.mp h)
  have hbound : f.canId ≤ 0x7FF := by
    rw [UInt16.le_iff_toNat_le]
    change _ ≤ 2047
    omega
  have hlength : (f.payload.take maxPayload).length ≤ maxPayload := List.length_take_le _ _
  have hreadType : FrameType.ofBits f.canId = f.frameType :=
    FrameType.digit.read_eq (by omega)
  have hreadDirection : Direction.ofBits (f.canId >>> 2) = f.direction :=
    Direction.digit.read_eq (by
      rw [toNat_shiftRight f.canId (by decide)]
      change f.canId.toNat / 4 % 2 = _
      omega)
  have hreadEndpoint : BusEndpoint.ofBits (f.canId >>> 9) = f.endpoint :=
    BusEndpoint.digit.read_eq (by
      rw [toNat_shiftRight f.canId (by decide)]
      change f.canId.toNat / 512 % 4 = _
      omega)
  have hreadDid : BusDeviceId.ofRaw ((f.canId >>> 3) &&& 0x3F).toUInt8 = f.did := by
    apply BusDeviceId.eq_of_toNat
    rw [BusDeviceId.toNat_ofRaw_bits]
    omega
  unfold ofRaw?
  rw [if_pos ⟨hbound, hlength⟩]
  simp only [toRaw, hreadType, hreadDirection, hreadDid, hreadEndpoint]

/-- What was read from the wire fits on it, and is written back just as it was. -/
theorem toRaw_of_ofRaw? {raw : RawFrame} {f : BusFrame} (h : ofRaw? raw = some f) :
    f.toRaw = raw ∧ f.did.raw ≤ 0x3F ∧ f.payload.length ≤ maxPayload := by
  unfold ofRaw? at h
  split at h
  · rename_i hstandard
    obtain ⟨hbound, hlength⟩ := hstandard
    have hid : raw.id.toNat ≤ 2047 := UInt16.le_iff_toNat_le.mp hbound
    have htype : f.frameType = .ofBits raw.id := by rw [← Option.some.inj h]
    have hdirection : f.direction = .ofBits (raw.id >>> 2) := by rw [← Option.some.inj h]
    have hendpoint : f.endpoint = .ofBits (raw.id >>> 9) := by rw [← Option.some.inj h]
    have hpayload : f.payload = raw.data := by rw [← Option.some.inj h]
    have hdid : f.did.raw.toNat = raw.id.toNat / 8 % 64 := by
      rw [← BusDeviceId.toNat_ofRaw_bits, ← Option.some.inj h]
    have hbits : f.did.raw ≤ 0x3F := by
      rw [UInt8.le_iff_toNat_le, hdid]
      exact Nat.le_of_lt_succ (Nat.mod_lt _ (by decide))
    have hcanId := toNat_canId hbits
    rw [htype, hdirection, hendpoint, hdid, FrameType.digit.digit_read, Direction.digit.digit_read,
      BusEndpoint.digit.digit_read, toNat_shiftRight raw.id (by decide),
      toNat_shiftRight raw.id (by decide)] at hcanId
    have hdigits : raw.id.toNat = raw.id.toNat % 4 + 4 * (raw.id.toNat / 4 % 2 +
        2 * (raw.id.toNat / 8 % 64 + 64 * (raw.id.toNat / 512 % 4))) := by
      omega
    refine ⟨?_, hbits, hpayload ▸ hlength⟩
    unfold toRaw
    rw [UInt16.toNat_inj.mp (hcanId.trans hdigits.symm), hpayload, List.take_of_length_le hlength]
  · cases h

/-- The codec of frames: what fits on the wire survives it, and nothing else is read from there. -/
theorem toRaw_bijective :
    (∀ f : BusFrame, f.did.raw ≤ 0x3F →
      ofRaw? f.toRaw = some { f with payload := f.payload.take maxPayload } ∧
        (f.payload.length ≤ maxPayload → ofRaw? f.toRaw = some f)) ∧
    (∀ raw, (ofRaw? raw).isSome ↔ raw.id ≤ 0x7FF ∧ raw.data.length ≤ maxPayload) ∧
    (∀ raw f, ofRaw? raw = some f → f.toRaw = raw) ∧
    Set.BijOn toRaw {f | f.did.raw ≤ 0x3F ∧ f.payload.length ≤ maxPayload}
      {raw | raw.id ≤ 0x7FF ∧ raw.data.length ≤ maxPayload} := by
  have hback {f : BusFrame} (hdid : f.did.raw ≤ 0x3F) (hlength : f.payload.length ≤ maxPayload) :
      ofRaw? f.toRaw = some f := by
    rw [ofRaw?_toRaw hdid, List.take_of_length_le hlength]
  have hread (raw : RawFrame) :
      (ofRaw? raw).isSome ↔ raw.id ≤ 0x7FF ∧ raw.data.length ≤ maxPayload := by
    unfold ofRaw?
    split <;> simp_all
  refine ⟨fun f hdid => ⟨ofRaw?_toRaw hdid, hback hdid⟩, hread,
    fun raw f h => (toRaw_of_ofRaw? h).1, ?_, ?_, ?_⟩
  · rintro f ⟨hdid, hlength⟩
    apply (hread f.toRaw).mp
    rw [hback hdid hlength]
    rfl
  · rintro f ⟨hf, hflength⟩ g ⟨hg, hglength⟩ hsame
    have hboth := hback hf hflength
    rw [hsame, hback hg hglength] at hboth
    exact (Option.some.inj hboth).symm
  · intro raw hstandard
    obtain ⟨f, hf⟩ := Option.isSome_iff_exists.mp ((hread raw).mpr hstandard)
    obtain ⟨hraw, hfits⟩ := toRaw_of_ofRaw? hf
    exact ⟨f, hfits, hraw⟩

/-- A frame to all boards that does not fit, and the last frame that can be. -/
theorem toRaw_bijective_full :
    let f : BusFrame := .command .broadcast .boardControl [1, 2, 3, 4, 5, 6, 7, 8, 9]
    let last : RawFrame := { id := 0x7FF, data := [1] }
    f.did.raw ≤ 0x3F ∧ ofRaw? f.toRaw = some { f with payload := [1, 2, 3, 4, 5, 6, 7, 8] } ∧
      ∃ g, ofRaw? last = some g ∧ g.toRaw = last :=
  ⟨by decide, (toRaw_bijective.1 _ (by decide)).1, _, rfl, toRaw_bijective.2.2.1 _ _ rfl⟩

end BusFrame

end HomeGateway
