import Mathlib
import HomeGateway.Device.Address

/-!
What two addresses have in common when they designate one device. The rule of the first address
decides, so nothing about the comparison is symmetric by itself. Each rule reads one kind of
transport address, though, and no kind is read by two rules: an address that its own rule can read
has a designation of its own, whichever address it is compared with, and comparing such addresses
is comparing designations.
-/

namespace HomeGateway

/-- What an address designates: a transport address as the rule for it reads it, or all that is of
a type and on a medium. -/
inductive Designation where
  | radio (addr : BleAddr)
  | board (did : BusDeviceId)
  | identifier (bits : UInt32)
  | kind (deviceType : DeviceType) (medium : Medium)
  deriving DecidableEq

def Designation.medium : Designation → Medium
  | .radio _ => .ble
  | .board _ => .can
  | .identifier _ => .can
  | .kind _ medium => medium

namespace Comparator

/-- The kind of transport address that a rule is made for. -/
def compares : Comparator → MacAddr → Bool
  | .ble, .ble _ => true
  | .bus, .bus _ => true
  | .can, .can _ => true
  | _, _ => false

def reads? : Comparator → MacAddr → Option Designation
  | .ble, .ble addr => some (.radio addr)
  | .bus, .bus did => some (.board did)
  | .can, .can id => some (.identifier id.masked)
  | _, _ => none

variable {rule other : Comparator} {a b : MacAddr} {what : Designation}

theorem isSome_reads? (rule : Comparator) (mac : MacAddr) :
    (rule.reads? mac).isSome = rule.compares mac := by
  cases rule <;> cases mac <;> rfl

theorem designateSame_iff :
    rule.designateSame a b = true ↔ ∃ what, rule.reads? a = some what ∧ rule.reads? b = some what := by
  cases rule <;> cases a <;> cases b <;> simp [designateSame, reads?, eq_comm]

theorem designateSame_comm (rule : Comparator) (a b : MacAddr) :
    rule.designateSame a b = rule.designateSame b a := by
  rw [Bool.eq_iff_iff, designateSame_iff, designateSame_iff]
  exact exists_congr fun _ => and_comm

/-- No transport address is read by two rules. -/
theorem eq_of_reads? {here there : Designation} (hrule : rule.reads? a = some here)
    (hother : other.reads? a = some there) : rule = other := by
  cases rule <;> cases other <;> cases a <;> simp_all [reads?]

/-- What was read tells which rule read it. -/
theorem eq_of_reading (hrule : rule.reads? a = some what) (hother : other.reads? b = some what) :
    rule = other := by
  cases rule <;> cases other <;> cases a <;> cases b <;> simp_all [reads?] <;>
    cases hrule <;> cases hother

theorem medium_of_reads? (h : rule.reads? a = some what) : what.medium = a.medium := by
  cases rule <;> cases a <;> simp_all [reads?] <;> subst h <;> rfl

theorem ne_kind_of_reads? (h : rule.reads? a = some what) (deviceType : DeviceType)
    (medium : Medium) : what ≠ .kind deviceType medium := by
  cases rule <;> cases a <;> simp_all [reads?] <;> subst h <;> simp

end Comparator

namespace DeviceAddr

variable {a b : DeviceAddr} {here there : Designation}

/-- Type and medium settle the rule by which an address is compared. -/
theorem comparator?_congr (htype : a.deviceType = b.deviceType) (hmedium : a.medium = b.medium) :
    a.comparator? = b.comparator? := by
  rw [comparator?, comparator?, htype, hmedium]

theorem isValid_congr (htype : a.deviceType = b.deviceType) (hmedium : a.medium = b.medium) :
    a.isValid = b.isValid := by
  rw [isValid, isValid, htype, comparator?_congr htype hmedium]

theorem rule_of_isValid (h : a.isValid = true) : ∃ rule, a.comparator? = some rule := by
  rw [isValid, Bool.and_eq_true] at h
  exact Option.isSome_iff_exists.mp h.2

/-! How two addresses are compared, by whether they can be. -/

theorem medium_of_sameDevice (h : a.sameDevice b = true) : a.medium = b.medium := by
  by_contra hmedium
  rw [sameDevice, if_pos hmedium] at h
  cases h

theorem sameDevice_valid (ha : a.isValid = true) (hb : b.isValid = true) :
    a.sameDevice b = true ↔
      a.medium = b.medium ∧
        ∃ rule, a.comparator? = some rule ∧ rule.designateSame a.mac b.mac = true := by
  obtain ⟨rule, hrule⟩ := rule_of_isValid ha
  by_cases hmedium : a.medium = b.medium <;> simp [sameDevice, hmedium, hrule, ha, hb]

/-- As soon as one of two addresses cannot be compared, their types decide. -/
theorem sameDevice_invalid (h : a.isValid = false ∨ b.isValid = false) :
    a.sameDevice b = true ↔ a.medium = b.medium ∧ a.deviceType = b.deviceType := by
  have hboth : (a.isValid && b.isValid) = false := by
    rcases h with ha | hb
    · rw [ha, Bool.false_and]
    · rw [hb, Bool.and_false]
  by_cases hmedium : a.medium = b.medium
  · unfold sameDevice
    rw [if_neg (not_not_intro hmedium), hboth]
    cases a.comparator? <;> simp [hmedium]
  · simp [sameDevice, hmedium]

/-- Within a type, it does not matter which of two addresses is asked. -/
theorem sameDevice_comm (htype : a.deviceType = b.deviceType) :
    a.sameDevice b = b.sameDevice a := by
  by_cases hmedium : a.medium = b.medium
  · have hrule := comparator?_congr htype hmedium
    unfold sameDevice
    rw [hmedium, hrule, htype, Bool.and_comm]
    cases b.comparator? with
    | none => rfl
    | some rule => simp only [rule.designateSame_comm a.mac b.mac]
  · rw [sameDevice, if_pos hmedium, sameDevice, if_pos (Ne.symm hmedium)]

/-- An address that cannot be compared designates all that is of its type and on its medium. -/
theorem sameDevice_of_type (hinvalid : a.isValid = false) (htype : a.deviceType = b.deviceType)
    (hmedium : a.medium = b.medium) : a.sameDevice b = true :=
  (sameDevice_invalid (.inl hinvalid)).mpr ⟨hmedium, htype⟩

/-- Without a rule to compare them, devices of different types are different devices. -/
theorem not_sameDevice_of_type (hinvalid : b.isValid = false) (htype : a.deviceType ≠ b.deviceType) :
    a.sameDevice b = false := by
  rw [← Bool.not_eq_true, sameDevice_invalid (.inr hinvalid)]
  exact fun hsame => htype hsame.2

/-! The designation of an address. -/

/-- An address whose rule is made for another kind of transport address designates nothing. -/
def designation? (a : DeviceAddr) : Option Designation :=
  if a.isValid then a.comparator?.bind fun rule => rule.reads? a.mac
  else some (.kind a.deviceType a.medium)

theorem designation?_valid (h : a.isValid = true) :
    a.designation? = some here ↔
      ∃ rule, a.comparator? = some rule ∧ rule.reads? a.mac = some here := by
  rw [designation?, if_pos h, Option.bind_eq_some_iff]

theorem designation?_invalid (h : a.isValid = false) :
    a.designation? = some (.kind a.deviceType a.medium) := by
  rw [designation?, h, if_neg Bool.false_ne_true]

theorem medium_of_designation (h : a.designation? = some here) : here.medium = a.medium := by
  cases hvalid : a.isValid with
  | true =>
    obtain ⟨rule, -, hreads⟩ := (designation?_valid hvalid).mp h
    exact Comparator.medium_of_reads? hreads
  | false =>
    rw [designation?_invalid hvalid] at h
    cases h
    rfl

theorem sameDevice_self_iff (a : DeviceAddr) :
    a.sameDevice a = true ↔ a.designation?.isSome := by
  cases hvalid : a.isValid with
  | true =>
    obtain ⟨rule, hrule⟩ := rule_of_isValid hvalid
    rw [sameDevice_valid hvalid hvalid, designation?, if_pos hvalid, hrule, Option.bind_some,
      Option.isSome_iff_exists]
    simp [Comparator.designateSame_iff]
  | false => simp [sameDevice_invalid (.inl hvalid), designation?_invalid hvalid]

/-- Only an address that cannot be compared designates all of its type and medium. -/
theorem designation?_kind_iff {deviceType : DeviceType} {medium : Medium} :
    a.designation? = some (.kind deviceType medium) ↔
      a.isValid = false ∧ a.deviceType = deviceType ∧ a.medium = medium := by
  cases hvalid : a.isValid with
  | true =>
    simp only [Bool.true_eq_false, false_and, iff_false]
    intro h
    obtain ⟨rule, -, hreads⟩ := (designation?_valid hvalid).mp h
    exact Comparator.ne_kind_of_reads? hreads _ _ rfl
  | false => simp [designation?_invalid hvalid]

/-- Of addresses with a designation, those designate one device that have the same one. -/
theorem sameDevice_iff_designation (ha : a.designation? = some here)
    (hb : b.designation? = some there) : a.sameDevice b = true ↔ here = there := by
  cases hvalid : a.isValid && b.isValid with
  | true =>
    rw [Bool.and_eq_true] at hvalid
    obtain ⟨rule, hrule, hreads⟩ := (designation?_valid hvalid.1).mp ha
    obtain ⟨other, -, hother⟩ := (designation?_valid hvalid.2).mp hb
    rw [sameDevice_valid hvalid.1 hvalid.2, hrule]
    constructor
    · rintro ⟨-, _, ⟨⟩, hsame⟩
      obtain ⟨what, hhere, hthere⟩ := Comparator.designateSame_iff.mp hsame
      cases Comparator.eq_of_reads? hthere hother
      exact Option.some.inj (hreads.symm.trans (hhere.trans (hthere.symm.trans hother)))
    · rintro rfl
      cases Comparator.eq_of_reading hreads hother
      refine ⟨?_, rule, rfl, Comparator.designateSame_iff.mpr ⟨here, hreads, hother⟩⟩
      rw [← medium_of_designation ha, medium_of_designation hb]
  | false =>
    rw [Bool.and_eq_false_iff] at hvalid
    rw [sameDevice_invalid hvalid]
    constructor
    · rintro ⟨hmedium, htype⟩
      rw [isValid_congr htype hmedium, or_self] at hvalid
      have hkind : a.designation? = some (.kind b.deviceType b.medium) :=
        designation?_kind_iff.mpr ⟨(isValid_congr htype hmedium).trans hvalid, htype, hmedium⟩
      have hsame := ha.symm.trans (hkind.trans (designation?_invalid hvalid).symm)
      exact Option.some.inj (hsame.trans hb)
    · rintro rfl
      -- One of the two designates a kind, and so both designate it.
      rcases hvalid with hvalid | hvalid
      · rw [ha.symm.trans (designation?_invalid hvalid), designation?_kind_iff] at hb
        exact ⟨hb.2.2.symm, hb.2.1.symm⟩
      · rw [hb.symm.trans (designation?_invalid hvalid), designation?_kind_iff] at ha
        exact ⟨ha.2.2, ha.2.1⟩

/-- A valid address is found by the rule that its type or medium calls for. Where this rule is
made for another kind of address, the address does not even designate its own device. -/
theorem not_sameDevice_self_iff_rule (a : DeviceAddr) :
    a.sameDevice a = false ↔
      a.isValid = true ∧ ∃ rule, a.comparator? = some rule ∧ rule.compares a.mac = false := by
  rw [← Bool.not_eq_true, sameDevice_self_iff]
  cases hvalid : a.isValid with
  | true =>
    obtain ⟨rule, hrule⟩ := rule_of_isValid hvalid
    simp [designation?, hvalid, hrule, ← rule.isSome_reads?]
  | false => simp [designation?_invalid hvalid]

theorem not_sameDevice_self_iff (addr : DeviceAddr) :
    addr.sameDevice addr = false ↔
      (addr.deviceType = .caniot ∧ ∀ did, addr.mac ≠ .bus did) ∨
        ((addr.deviceType = .xiaomiMijia ∨ addr.deviceType = .nucleoF429zi) ∧
          ∃ did, addr.mac = .bus did) := by
  obtain ⟨deviceType, mac⟩ := addr
  cases deviceType <;> cases mac <;>
    simp [sameDevice, isValid, comparator?, medium, MacAddr.medium, DeviceType.comparator?,
      Medium.comparator?, Comparator.designateSame]

/-- On the addresses that designate their own device, of whatever medium and whether valid or not,
to designate one device is an equivalence. The others are those that are valid and of another kind
than the rule for them compares: boards with anything but a bus id, and thermometers and gateways
with a bus id. -/
theorem sameDevice_equivalence :
    Equivalence (fun a b : { a : DeviceAddr // a.sameDevice a = true } =>
        a.1.sameDevice b.1 = true) ∧
      ∀ a : DeviceAddr,
        (a.sameDevice a = false ↔
          a.isValid = true ∧ ∃ rule, a.comparator? = some rule ∧ rule.compares a.mac = false) ∧
        (a.sameDevice a = false ↔
          (a.deviceType = .caniot ∧ ∀ did, a.mac ≠ .bus did) ∨
            ((a.deviceType = .xiaomiMijia ∨ a.deviceType = .nucleoF429zi) ∧
              ∃ did, a.mac = .bus did)) := by
  have hdesignates (a : { a : DeviceAddr // a.sameDevice a = true }) :
      ∃ what, a.1.designation? = some what :=
    Option.isSome_iff_exists.mp ((sameDevice_self_iff a.1).mp a.2)
  refine ⟨⟨fun a => a.2, fun {a b} hab => ?_, fun {a b c} hab hbc => ?_⟩,
    fun a => ⟨not_sameDevice_self_iff_rule a, not_sameDevice_self_iff a⟩⟩
  · obtain ⟨here, ha⟩ := hdesignates a
    obtain ⟨there, hb⟩ := hdesignates b
    rw [sameDevice_iff_designation ha hb] at hab
    exact (sameDevice_iff_designation hb ha).mpr hab.symm
  · obtain ⟨here, ha⟩ := hdesignates a
    obtain ⟨between, hb⟩ := hdesignates b
    obtain ⟨there, hc⟩ := hdesignates c
    rw [sameDevice_iff_designation ha hb] at hab
    rw [sameDevice_iff_designation hb hc] at hbc
    exact (sameDevice_iff_designation ha hc).mpr (hab.trans hbc)

/-- A board with a radio address does not designate its own device, and whether it is found to be
the device of a thermometer at that address depends on which of the two is asked. -/
example :
    let radio : BleAddr := ⟨#v[2, 0, 0, 0, 0, 1]⟩
    (ble .caniot radio).sameDevice (ble .xiaomiMijia radio) = false ∧
      (ble .xiaomiMijia radio).sameDevice (ble .caniot radio) = true := by
  decide

end DeviceAddr

end HomeGateway
