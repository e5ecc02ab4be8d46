import Mathlib
import HomeGateway.Catalog.Builtin

/-!
Thermometer records as bytes, and what the endpoint of a thermometer makes of them. Nothing of a
record is lost on the way into bytes and back, signs included, and every byte string of the right
length is a record.
-/

namespace HomeGateway

namespace Bytes

/-- A number that fits into so many bytes comes back. -/
theorem toNat_ofNat_of_lt {width n : Nat} (h : n < count width) : toNat (ofNat width n) = n := by
  rw [toNat_ofNat, Nat.mod_eq_of_lt h]

theorem word32_toNat_ofNat (n : UInt32) : (toNat (ofNat 4 n.toNat)).toUInt32 = n := by
  rw [toNat_ofNat_of_lt n.toNat_lt]
  exact UInt32.ofNat_toNat

theorem word16_toNat_ofNat (n : UInt16) : (toNat (ofNat 2 n.toNat)).toUInt16 = n := by
  rw [toNat_ofNat_of_lt n.toNat_lt]
  exact UInt16.ofNat_toNat

theorem ofNat_word32 {bytes : List UInt8} (h : bytes.length = 4) :
    ofNat 4 (toNat bytes).toUInt32.toNat = bytes := by
  have hlt : toNat bytes < count 4 := h ▸ toNat_lt bytes
  have hsame : (toNat bytes).toUInt32.toNat = toNat bytes := UInt32.toNat_ofNat_of_lt' hlt
  rw [hsame, ← h, ofNat_toNat]

theorem ofNat_word16 {bytes : List UInt8} (h : bytes.length = 2) :
    ofNat 2 (toNat bytes).toUInt16.toNat = bytes := by
  have hlt : toNat bytes < count 2 := h ▸ toNat_lt bytes
  have hsame : (toNat bytes).toUInt16.toNat = toNat bytes := UInt16.toNat_ofNat_of_lt' hlt
  rw [hsame, ← h, ofNat_toNat]

end Bytes

namespace ThermometerRecord

variable {bytes : List UInt8} {r : ThermometerRecord}

theorem length_toBytes (r : ThermometerRecord) : r.toBytes.length = size := by
  simp [toBytes, size]

/-- Reading the bytes of a record gives the record. -/
theorem ofBytes?_toBytes (r : ThermometerRecord) : ofBytes? r.toBytes = some r := by
  have hread : ofBytes? r.toBytes = some
      { time := (Bytes.toNat (Bytes.ofNat 4 r.time.toNat)).toUInt32
        rssi := r.rssi.toUInt8.toInt8
        temperature :=
          (Bytes.toNat (Bytes.ofNat 2 r.temperature.toUInt16.toNat)).toUInt16.toInt16
        humidity := (Bytes.toNat (Bytes.ofNat 2 r.humidity.toNat)).toUInt16
        batteryMv := (Bytes.toNat (Bytes.ofNat 2 r.batteryMv.toNat)).toUInt16
        batteryLevel := r.batteryLevel } := rfl
  rw [hread, Bytes.word32_toNat_ofNat, Bytes.word16_toNat_ofNat, Bytes.word16_toNat_ofNat,
    Bytes.word16_toNat_ofNat, Int8.toInt8_toUInt8, Int16.toInt16_toUInt16]

/-- Every byte string of the right length is a record, and is what the record is written as. -/
theorem toBytes_of_length (h : bytes.length = size) :
    ∃ r, ofBytes? bytes = some r ∧ r.toBytes = bytes := by
  match bytes, h with
  | [t0, t1, t2, t3, rssi, c0, c1, h0, h1, v0, v1, level], _ =>
    refine ⟨_, rfl, ?_⟩
    unfold toBytes
    dsimp only
    rw [Bytes.ofNat_word32 rfl, UInt8.toUInt8_toInt8, UInt16.toUInt16_toInt16,
      Bytes.ofNat_word16 rfl, Bytes.ofNat_word16 rfl, Bytes.ofNat_word16 rfl]
    rfl

theorem length_of_ofBytes? (h : ofBytes? bytes = some r) : bytes.length = size := by
  unfold ofBytes? at h
  split at h
  · rfl
  · cases h

theorem isSome_ofBytes? (bytes : List UInt8) :
    (ofBytes? bytes).isSome ↔ bytes.length = size := by
  constructor
  · intro h
    obtain ⟨r, hr⟩ := Option.isSome_iff_exists.mp h
    exact length_of_ofBytes? hr
  · intro h
    obtain ⟨r, hr, -⟩ := toBytes_of_length h
    rw [hr, Option.isSome_some]

theorem toBytes_ofBytes? (h : ofBytes? bytes = some r) : r.toBytes = bytes := by
  obtain ⟨read, hread, hbytes⟩ := toBytes_of_length (length_of_ofBytes? h)
  rw [hread, Option.some.injEq] at h
  rw [← h, hbytes]

end ThermometerRecord

/-- A battery is among the measured rows just if its level is not zero. -/
theorem ThermometerReading.battery_listed (t : ThermometerReading) :
    (∃ field ∈ t.table.fields, field.descr.dataType = .batteryLevel) ↔ t.battery.level ≠ 0 := by
  by_cases hlevel : t.battery.level = 0 <;>
    simp [DataTable.fields, table, descrs, DataDescr.unnamed, hlevel, List.zipIdx]

/-- What the endpoint of a thermometer makes of the bytes of a record. -/
theorem Builtin.thermometer_decode (r : ThermometerRecord) (timestamp : UInt32) :
    thermometer.decode { bytes := r.toBytes, timestamp } =
      .ok { reading := .thermometer (.ofRecord r)
            timestamp := if r.time = 0 then none else some r.time } := by
  simp only [thermometer, ThermometerRecord.ofBytes?_toBytes]

end HomeGateway
