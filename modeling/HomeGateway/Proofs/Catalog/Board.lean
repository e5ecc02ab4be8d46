import Mathlib
import HomeGateway.Catalog.Board

/-!
Telemetry frames and what is read from them. A board reports whole tenths of a degree between -28 °C
and 74.2 °C, so a temperature settles on one of these when it is put into a frame; from then on it
is carried over unchanged. The four codes are the digits of one number, and no probe runs into
another. Of a frame, all but the last byte counts.
-/

namespace HomeGateway

namespace Ten

/-- The temperature that is carried for another: within the range, and a whole tenth of a degree. -/
def settle (centi : Int16) : Int16 := Int16.ofInt (max (-2800) (min centi.toInt 7420) / 10 * 10)

theorem toInt_ofInt {n : Int} (hlow : -32768 ≤ n) (hhigh : n < 32768) :
    (Int16.ofInt n).toInt = n :=
  Int16.toInt_ofInt_of_le hlow hhigh

theorem toInt_settle (centi : Int16) :
    (settle centi).toInt = max (-2800) (min centi.toInt 7420) / 10 * 10 :=
  toInt_ofInt (by omega) (by omega)

/-- Just below zero, and far too hot. -/
example : settle (-5) = -10 ∧ settle 32767 = 7420 := by decide

/-- The code of a temperature. -/
theorem toNat_ofCenti (centi : Int16) :
    ((ofCenti centi).toNat : Int) = (max (-2800) (min centi.toInt 7420) + 2800) / 10 := by
  have htenths : min (max ((centi.toInt + 2800).tdiv 10) 0) 0x3FE =
      (max (-2800) (min centi.toInt 7420) + 2800) / 10 := by
    rcases Int.lt_or_le centi.toInt (-2800) with hlow | hrange
    · have hsign : (centi.toInt + 2800).tdiv 10 ≤ 0 :=
        Int.tdiv_le_tdiv (b := 0) (by decide) (by omega)
      omega
    · rw [Int.tdiv_eq_ediv_of_nonneg (by omega)]
      omega
  have hcode : (ofCenti centi).toNat = (min (max ((centi.toInt + 2800).tdiv 10) 0) 0x3FE).toNat := by
    apply UInt16.toNat_ofNat_of_lt
    change _ < 65536
    omega
  omega

theorem toCenti?_absent : toCenti? absent.toUInt16 = none := by decide

/-- A code that is not the one of an absent probe stands for a temperature. -/
theorem toCenti?_eq {raw : UInt16} (h : raw.toNat < absent) :
    ∃ centi, toCenti? raw = some centi ∧ centi.toInt = raw.toNat * 10 - 2800 := by
  unfold absent at h
  refine ⟨_, if_pos h, toInt_ofInt (by omega) (by omega)⟩

end Ten

namespace BoardTelemetry

/-- What is carried of a telemetry. -/
def settled (b : BoardTelemetry) : BoardTelemetry :=
  { b with
    temperatures := b.temperatures.mapIdx fun i t =>
      t.map fun t => { value := Ten.settle t.value, sensor := sensorAt i } }

theorem code_lt (t : Option Temperature) : code t < 1024 := by
  cases t with
  | none => decide
  | some t =>
    have hcode := Ten.toNat_ofCenti t.value
    change (Ten.ofCenti t.value).toNat < 1024
    omega

/-- A probe that is read back from its code is what is carried of it. -/
theorem probe_code (index : Nat) (t : Option Temperature) :
    probe index (code t) =
      t.map fun t => { value := Ten.settle t.value, sensor := sensorAt index } := by
  cases t with
  | none =>
    unfold probe code
    rw [Ten.toCenti?_absent]
    rfl
  | some t =>
    have hcode := Ten.toNat_ofCenti t.value
    have hword : (code (some t)).toUInt16 = Ten.ofCenti t.value := UInt16.ofNat_toNat
    have hpresent : (Ten.ofCenti t.value).toNat < Ten.absent := by
      unfold Ten.absent
      omega
    obtain ⟨centi, hcenti, hvalue⟩ := Ten.toCenti?_eq hpresent
    have hsettle : centi = Ten.settle t.value := by
      apply Int16.toInt_inj.mp
      rw [hvalue, Ten.toInt_settle]
      omega
    unfold probe
    rw [hword, hcenti, hsettle]
    rfl

/-- A code that is read as a probe is written back. -/
theorem code_probe (index : Nat) {raw : Nat} (h : raw < 1024) : code (probe index raw) = raw := by
  have hraw : raw.toUInt16.toNat = raw := UInt16.toNat_ofNat_of_lt (by change _ < 65536; omega)
  by_cases hpresent : raw < Ten.absent
  · rw [← hraw] at hpresent
    obtain ⟨centi, hcenti, hvalue⟩ := Ten.toCenti?_eq hpresent
    have hcode := Ten.toNat_ofCenti centi
    unfold Ten.absent at hpresent
    unfold probe
    rw [hcenti]
    change (Ten.ofCenti centi).toNat = raw
    omega
  · have habsent : raw = Ten.absent := by
      unfold Ten.absent at hpresent ⊢
      omega
    rw [habsent]
    unfold probe
    rw [Ten.toCenti?_absent]
    rfl

/-- What is carried is carried unchanged. -/
theorem settled_settled (b : BoardTelemetry) : b.settled.settled = b.settled := by
  have hsettle (centi : Int16) : Ten.settle (Ten.settle centi) = Ten.settle centi := by
    apply Int16.toInt_inj.mp
    have h := Ten.toInt_settle centi
    rw [Ten.toInt_settle, h]
    omega
  unfold settled
  congr 1
  apply Vector.ext
  intro i hi
  simp only [Vector.getElem_mapIdx, Option.map_map]
  congr 1
  funext t
  simp [hsettle]

/-- The four digits of the number in a frame are the codes of the probes. -/
theorem ofBytes?_eq (dio pdio : UInt8) {data : List UInt8} (h : data.length = 6) :
    let packed := Bytes.toNat data
    ofBytes? (dio :: pdio :: data) =
      some
        { temperatures := #v[probe 0 (packed % 1024), probe 1 (packed / 1024 % 1024),
            probe 2 (packed / 1024 / 1024 % 1024), probe 3 (packed / 1024 / 1024 / 1024 % 1024)]
          dio, pdio } := by
  match data, h with
  | [_, _, _, _, _, _], _ => rfl

/-- The number in a frame, whose digits are the codes of the probes. -/
def pack (int first second third : Option Temperature) : Nat :=
  code int + 1024 * (code first + 1024 * (code second + 1024 * code third))

theorem toBytes_eq (int first second third : Option Temperature) (dio pdio : UInt8) :
    toBytes { temperatures := #v[int, first, second, third], dio, pdio } =
      dio :: pdio :: Bytes.ofNat 6 (pack int first second third) := rfl

theorem exists_probes (b : BoardTelemetry) : ∃ int first second third,
    b = { temperatures := #v[int, first, second, third], dio := b.dio, pdio := b.pdio } := by
  obtain ⟨⟨⟨probes⟩, hsize⟩, dio, pdio⟩ := b
  match probes, hsize with
  | [int, first, second, third], _ => exact ⟨int, first, second, third, rfl⟩

theorem pack_lt (int first second third : Option Temperature) :
    pack int first second third < 1024 * 1024 * 1024 * 1024 := by
  have hint := code_lt int
  have hfirst := code_lt first
  have hsecond := code_lt second
  have hthird := code_lt third
  unfold pack
  omega

/-- The probes do not run into each other. -/
theorem pack_digits (int first second third : Option Temperature) :
    let packed := pack int first second third
    packed % 1024 = code int ∧ packed / 1024 % 1024 = code first ∧
      packed / 1024 / 1024 % 1024 = code second ∧
      packed / 1024 / 1024 / 1024 % 1024 = code third := by
  have hint := code_lt int
  have hfirst := code_lt first
  have hsecond := code_lt second
  have hthird := code_lt third
  unfold pack
  omega

/-- Reading a frame that was written gives what is carried. -/
theorem ofBytes?_toBytes (b : BoardTelemetry) : ofBytes? b.toBytes = some b.settled := by
  obtain ⟨int, first, second, third, hb⟩ := b.exists_probes
  obtain ⟨hint, hfirst, hsecond, hthird⟩ := pack_digits int first second third
  have hcount : Bytes.count 6 = 281474976710656 := rfl
  have hpacked : Bytes.toNat (Bytes.ofNat 6 (pack int first second third)) =
      pack int first second third := by
    have hlt := pack_lt int first second third
    rw [Bytes.toNat_ofNat, hcount, Nat.mod_eq_of_lt]
    omega
  rw [hb, toBytes_eq, ofBytes?_eq _ _ (Bytes.length_ofNat 6 _), hpacked, hint, hfirst, hsecond,
    hthird]
  simp only [probe_code]
  rfl

/-- Writing what was read of a frame gives the frame back, but for its last byte. -/
theorem toBytes_of_length {frame : List UInt8} (h : frame.length = size) :
    ∃ b, ofBytes? frame = some b ∧ b.toBytes = frame.set 7 0 := by
  match frame, h with
  | [dio, pdio, b0, b1, b2, b3, b4, b5], _ =>
    refine ⟨_, rfl, ?_⟩
    have hdigit (n : Nat) : n % 1024 < 1024 := Nat.mod_lt n (by decide)
    have hbyte (b : UInt8) : b.toNat < 256 := b.toNat_lt
    have hlow := hbyte b0
    have hfirst := hbyte b1
    have hsecond := hbyte b2
    have hthird := hbyte b3
    have hfourth := hbyte b4
    -- The codes take forty bits, which the last byte is above.
    have hzero : (0 : UInt8).toNat = 0 := rfl
    rw [toBytes_eq]
    refine congrArg (dio :: pdio :: ·) (Eq.trans (congrArg (Bytes.ofNat 6) ?_)
      (Bytes.ofNat_toNat [b0, b1, b2, b3, b4, 0]))
    unfold pack
    simp only [code_probe _ (hdigit _), Bytes.toNat, hzero]
    omega

/-- The codec of telemetry frames. -/
theorem telemetry_settles :
    (∀ frame : List UInt8, frame.length = size →
      ∃ b, ofBytes? frame = some b ∧ b.toBytes = frame.set 7 0) ∧
    ∀ b : BoardTelemetry, ∃ carried, ofBytes? b.toBytes = some carried ∧
      carried.dio = b.dio ∧ carried.pdio = b.pdio ∧
      (∀ (i : Nat) (hi : i < 4),
        (b.temperatures[i] = none → carried.temperatures[i] = none) ∧
        ∀ t, b.temperatures[i] = some t → ∃ value, carried.temperatures[i] =
            some { value, sensor := sensorAt i } ∧
          value.toInt = max (-2800) (min t.value.toInt 7420) / 10 * 10) ∧
      ofBytes? carried.toBytes = some carried := by
  refine ⟨fun frame h => toBytes_of_length h, fun b => ?_⟩
  refine ⟨b.settled, b.ofBytes?_toBytes, rfl, rfl, ?_, ?_⟩
  · intro i hi
    have hprobe : b.settled.temperatures[i] = b.temperatures[i].map fun t =>
        { value := Ten.settle t.value, sensor := sensorAt i } := Vector.getElem_mapIdx ..
    rw [hprobe]
    constructor
    · intro habsent
      rw [habsent, Option.map_none]
    · intro t hpresent
      rw [hpresent, Option.map_some]
      exact ⟨_, rfl, Ten.toInt_settle t.value⟩
  · rw [ofBytes?_toBytes, settled_settled]

/-- All bits set: no probe is there, and the last byte does not come back. -/
theorem telemetry_settles_full :
    let frame : List UInt8 := List.replicate 8 255
    frame.length = size ∧
      ∃ b, ofBytes? frame = some b ∧ b.toBytes = [255, 255, 255, 255, 255, 255, 255, 0] :=
  ⟨rfl, telemetry_settles.1 _ rfl⟩

end BoardTelemetry

end HomeGateway
