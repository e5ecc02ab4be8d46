import Mathlib
import HomeGateway.Catalog.Board

/-!
Commands to boards. The actions of the four outputs are the digits of the number in a frame, to the
base of eight, and there are no others: no output runs into another. An action tells how its pin is
set and whether it is masked in, and so that is all of a value that a frame tells.
-/

namespace HomeGateway

namespace OutputAction

/-- Three bits are enough for an action. -/
theorem code_lt (a : OutputAction) : a.code < 8 := by
  cases a <;> decide

theorem code_injective : Function.Injective code := by
  intro a b h
  cases a <;> cases b <;> first | rfl | cases h

variable (actions : Vector OutputAction 4)

theorem length_frame : (frame actions).length = 8 := Bytes.length_ofNat 8 _

/-- The actions as digits. -/
def codes : List Nat := actions.toList.map code

theorem length_codes : (codes actions).length = 4 := by
  rw [codes, List.length_map, Vector.length_toList]

theorem codes_lt : ∀ digit ∈ codes actions, digit < 8 :=
  List.forall_mem_map.mpr fun a _ => a.code_lt

theorem ofDigits_codes_lt : Nat.ofDigits 8 (codes actions) < 2 ^ 12 := by
  have hbound := Nat.ofDigits_lt_base_pow_length (by decide) (codes_lt actions)
  rwa [length_codes] at hbound

/-- The number in a frame. -/
theorem toNat_frame : Bytes.toNat (frame actions) = Nat.ofDigits 8 (codes actions) := by
  have hcodes : codes actions =
      [actions[0].code, actions[1].code, actions[2].code, actions[3].code] := by
    refine List.ext_getElem (length_codes actions) fun i hi _ => ?_
    rw [length_codes] at hi
    interval_cases i <;> simp [codes]
  have hdigits : Nat.ofDigits 8 (codes actions) =
      actions[0].code + 8 * (actions[1].code + 8 * (actions[2].code + 8 * actions[3].code)) := by
    simp [hcodes, Nat.ofDigits_cons]
  have hbound := ofDigits_codes_lt actions
  have hcount : Bytes.count 8 = 18446744073709551616 := rfl
  unfold frame
  rw [Bytes.toNat_ofNat, hcount, ← hdigits, Nat.mod_eq_of_lt (by omega)]

/-- The three bits of an output. -/
theorem frame_digit {i : Nat} (hi : i < 4) :
    Bytes.toNat (frame actions) >>> (3 * i) % 8 = actions[i].code := by
  have hdrop : (codes actions).drop i = actions[i].code :: (codes actions).drop (i + 1) := by
    rw [List.drop_eq_getElem_cons (by rw [length_codes]; exact hi)]
    simp [codes]
  rw [Nat.shiftRight_eq_div_pow, Nat.pow_mul, toNat_frame]
  rw [Nat.ofDigits_div_pow_eq_ofDigits_drop i (by decide) _ (codes_lt actions), hdrop,
    Nat.ofDigits_cons, Nat.add_mul_mod_self_left, Nat.mod_eq_of_lt actions[i].code_lt]

/-- All other bits are zero. -/
theorem testBit_frame {k : Nat} (hk : 12 ≤ k) :
    (Bytes.toNat (frame actions)).testBit k = false := by
  rw [toNat_frame]
  refine Nat.testBit_lt_two_pow (Nat.lt_of_lt_of_le (ofDigits_codes_lt actions) ?_)
  exact Nat.pow_le_pow_right (n := 2) (by decide) hk

/-- Frames tell the actions. -/
theorem frame_injective : Function.Injective frame := by
  intro first second h
  apply Vector.ext
  intro i hi
  apply code_injective
  rw [← frame_digit first hi, ← frame_digit second hi, h]

end OutputAction

/-! Pins. -/

namespace Digital

variable {d d' : Digital} {i : Nat}

/-- The pins of the outputs are within the word. -/
theorem pin_eq (d : Digital) (hi : i < 4) :
    d.pin i.toUInt8 =
      if d.mask.toNat.testBit i then some (d.value.toNat.testBit i) else none := by
  match i, hi with
  | 0, _ | 1, _ | 2, _ | 3, _ => simp [pin]

/-- Two words have the same low four bits. -/
theorem and_fifteen_eq_iff {a b : UInt32} :
    a &&& 0xF = b &&& 0xF ↔ ∀ i < 4, a.toNat.testBit i = b.toNat.testBit i := by
  have hlow (c : UInt32) (i : Nat) :
      (c &&& 0xF).toNat.testBit i = (c.toNat.testBit i && decide (i < 4)) := by
    have hmask : (0xF : UInt32).toNat = 2 ^ 4 - 1 := rfl
    rw [UInt32.toNat_and, Nat.testBit_and, hmask, Nat.testBit_two_pow_sub_one]
  constructor
  · intro h i hi
    have hbit : (a &&& 0xF).toNat.testBit i = (b &&& 0xF).toNat.testBit i := by rw [h]
    rwa [hlow, hlow, decide_eq_true hi, Bool.and_true, Bool.and_true] at hbit
  · intro h
    apply UInt32.toNat_inj.mp
    apply Nat.eq_of_testBit_eq
    intro i
    rw [hlow, hlow]
    by_cases hi : i < 4
    · rw [h i hi]
    · simp [hi]

/-- The levels that count, and which pins these are, say all of the four pins. -/
theorem pins_eq_iff :
    (∀ i < 4, d.pin i.toUInt8 = d'.pin i.toUInt8) ↔
      d.value &&& d.mask &&& 0xF = d'.value &&& d'.mask &&& 0xF ∧
        d.mask &&& 0xF = d'.mask &&& 0xF := by
  rw [and_fifteen_eq_iff, and_fifteen_eq_iff, ← forall₂_and]
  refine forall₂_congr fun i hi => ?_
  rw [pin_eq d hi, pin_eq d' hi]
  simp only [UInt32.toNat_and, Nat.testBit_and]
  cases d.mask.toNat.testBit i <;> cases d'.mask.toNat.testBit i <;> simp

end Digital

namespace BoardCommand

/-- What is done to the outputs. -/
def actions (d : Digital) : Vector OutputAction 4 :=
  .ofFn fun i => .ofPin d i.val.toUInt8

theorem getElem_actions (d : Digital) {i : Nat} (hi : i < 4) :
    (actions d)[i] = .ofPin d i.toUInt8 := Vector.getElem_ofFn hi

theorem encode_digitalOut (d : Digital) :
    encode (.digital .digitalOut d) = .ok (OutputAction.frame (actions d)) := rfl

theorem encode_other {value : DataValue} (h : ∀ d, value ≠ .digital .digitalOut d) :
    encode value =
      .error (.command ("unsupported command type " ++ Enumeration.label value.dataType)) := by
  cases value with
  | digital kind d =>
    cases kind with
    | digitalOut => exact absurd rfl (h d)
    | _ => rfl
  | _ => rfl

/-- What is done to an output. -/
theorem ofPin_eq (d : Digital) {i : Nat} (hi : i < 4) :
    OutputAction.ofPin d i.toUInt8 =
      if d.mask.toNat.testBit i then
        if d.value.toNat.testBit i then .setOn else .setOff
      else .none := by
  unfold OutputAction.ofPin
  rw [d.pin_eq hi]
  cases d.mask.toNat.testBit i <;> cases d.value.toNat.testBit i <;> rfl

theorem ofPin_eq_iff {d d' : Digital} {pin : UInt8} :
    OutputAction.ofPin d pin = OutputAction.ofPin d' pin ↔ d.pin pin = d'.pin pin := by
  unfold OutputAction.ofPin
  rcases d.pin pin with _ | ⟨_ | _⟩ <;> rcases d'.pin pin with _ | ⟨_ | _⟩ <;> simp

/-- Commands are the same if the four pins are. -/
theorem encode_eq_iff {d d' : Digital} :
    encode (.digital .digitalOut d) = encode (.digital .digitalOut d') ↔
      ∀ i < 4, d.pin i.toUInt8 = d'.pin i.toUInt8 := by
  rw [encode_digitalOut, encode_digitalOut, Except.ok.injEq, OutputAction.frame_injective.eq_iff]
  constructor
  · intro h i hi
    rw [← ofPin_eq_iff, ← getElem_actions d hi, ← getElem_actions d' hi, h]
  · intro h
    apply Vector.ext
    intro i hi
    rw [getElem_actions d hi, getElem_actions d' hi, ofPin_eq_iff]
    exact h i hi

/-- What a command to a board tells, of each value there is: digital outputs and nothing else are
encoded; each of the four outputs has its three bits, and the rest of the frame is zero; two values
have the same frame just when their low levels and masks agree, and never when a pin differs that one
of them masks in. -/
theorem encode_tells :
    (∀ value, (∀ d, value ≠ .digital .digitalOut d) → encode value =
      .error (.command ("unsupported command type " ++ Enumeration.label value.dataType))) ∧
    (∀ d, ∃ frame, encode (.digital .digitalOut d) = .ok frame ∧ frame.length = 8 ∧
      (∀ i < 4, Bytes.toNat frame >>> (3 * i) % 8 = OutputAction.code
        (if d.mask.toNat.testBit i then
          if d.value.toNat.testBit i then .setOn else .setOff
        else .none)) ∧
      ∀ k, 12 ≤ k → (Bytes.toNat frame).testBit k = false) ∧
    (∀ d d' : Digital, encode (.digital .digitalOut d) = encode (.digital .digitalOut d') ↔
      d.value &&& d.mask &&& 0xF = d'.value &&& d'.mask &&& 0xF ∧
        d.mask &&& 0xF = d'.mask &&& 0xF) ∧
    ∀ (d d' : Digital) (i : Nat), i < 4 → d.mask.toNat.testBit i = true →
      (d'.mask.toNat.testBit i = true → d.value.toNat.testBit i ≠ d'.value.toNat.testBit i) →
      encode (.digital .digitalOut d) ≠ encode (.digital .digitalOut d') := by
  refine ⟨fun value => encode_other, fun d => ?_, fun d d' => ?_, fun d d' i hi hmask hdiffer => ?_⟩
  · refine ⟨_, encode_digitalOut d, OutputAction.length_frame _, ?_, fun k =>
      OutputAction.testBit_frame _⟩
    intro i hi
    rw [OutputAction.frame_digit _ hi, getElem_actions d hi, ofPin_eq d hi]
  · rw [encode_eq_iff, Digital.pins_eq_iff]
  · intro hsame
    have hpin := encode_eq_iff.mp hsame i hi
    rw [d.pin_eq hi, d'.pin_eq hi, if_pos hmask] at hpin
    by_cases hmask' : d'.mask.toNat.testBit i = true
    · rw [if_pos hmask', Option.some.injEq] at hpin
      exact hdiffer hmask' hpin
    · rw [if_neg hmask'] at hpin
      cases hpin

/-- The first output is set on, the third and the fourth are set off, and the second is left alone;
the pins past these do not matter. With the second one masked in, the frame is another. A level that
is read is no command. -/
theorem encode_tells_mixed :
    let d : Digital := ⟨0xF3, 0xFD⟩
    let d' : Digital := ⟨0xF3, 0xFF⟩
    encode (.digital .digitalOut d) = .ok [0x81, 0x04, 0, 0, 0, 0, 0, 0] ∧
      (encode (.digital .digitalOut d) = encode (.digital .digitalOut ⟨1, 0x0D⟩)) ∧
      (d'.mask.toNat.testBit 1 = true ∧ ¬d.mask.toNat.testBit 1 = true ∧
        encode (.digital .digitalOut d') ≠ encode (.digital .digitalOut d)) ∧
      encode (.digital .digitalIn d) =
        .error (.command "unsupported command type DigitalIn") :=
  ⟨rfl, (encode_tells.2.2.1 _ _).mpr (by decide),
    ⟨by decide, by decide,
      encode_tells.2.2.2 _ _ 1 (by decide) (by decide) fun h => absurd h (by decide)⟩,
    (encode_tells.1 _ fun d h => by cases h).trans (by decide)⟩

end BoardCommand

end HomeGateway
