import Mathlib
import HomeGateway.Device.Registry
import HomeGateway.Proofs.Device.Address

/-!
The list of known devices as time goes on. A device joins it at its end, under the next session
id, and stays; all that changes of it later is its traffic and what it keeps. So positions and
session ids are for good, and an address that leads to a device leads to it for ever.
-/

namespace HomeGateway

/-- A device as it was when it joined, without its traffic and what it keeps. -/
def Device.asRegistered (d : Device) : Device :=
  { d with endpoints := d.endpoints.map fun e => { e with retained := none }, stats := {} }

namespace Device

theorem session_of_same {d other : Device} (h : d.asRegistered = other.asRegistered) :
    d.session = other.session := by
  have hsession := congrArg Device.session h
  exact hsession

theorem addr_of_same {d other : Device} (h : d.asRegistered = other.asRegistered) :
    d.addr = other.addr := by
  have haddr := congrArg Device.addr h
  exact haddr

theorem room_of_same {d other : Device} (h : d.asRegistered = other.asRegistered) :
    d.room = other.room := by
  have hroom := congrArg Device.room h
  exact hroom

theorem endpoints_length_of_same {d other : Device} (h : d.asRegistered = other.asRegistered) :
    d.endpoints.length = other.endpoints.length := by
  have hlength := congrArg (fun d : Device => d.endpoints.length) h
  simpa [asRegistered] using hlength

theorem select_of_same {d other : Device} (h : d.asRegistered = other.asRegistered) :
    d.select = other.select := by
  have hselect := congrArg Device.select h
  exact hselect

theorem configs_of_same {d other : Device} (h : d.asRegistered = other.asRegistered) :
    d.endpoints.map Endpoint.config = other.endpoints.map Endpoint.config := by
  have hconfigs := congrArg (fun d : Device => d.endpoints.map Endpoint.config) h
  simpa [asRegistered, Function.comp_def] using hconfigs

theorem retain_asRegistered (d : Device) (index : Nat) (ref : EventRef) :
    (d.retain index ref).asRegistered = d.asRegistered := by
  unfold asRegistered retain
  congr 1
  apply List.ext_getElem?
  intro i
  simp only [List.getElem?_map, List.getElem?_modify]
  cases d.endpoints[i]? with
  | none => rfl
  | some e => by_cases hi : index = i <;> simp [hi]

/-- A device that a capability table set up. -/
structure SetUpBy (d : Device) (capability : Capability) : Prop where
  endpoints : capability.setup d.addr = .endpoints (d.endpoints.map Endpoint.config)
  select : d.select = capability.select

/-- It was set up when it joined. -/
theorem SetUpBy.congr {d other : Device} {capability : Capability} (h : d.SetUpBy capability)
    (hsame : other.asRegistered = d.asRegistered) : other.SetUpBy capability where
  endpoints := by rw [addr_of_same hsame, configs_of_same hsame, h.endpoints]
  select := (select_of_same hsame).trans h.select

end Device

namespace Registry

variable {r next : Registry} {addr : DeviceAddr} {now : UInt32} {index : Nat} {d : Device}

/-- An address leads to a device by what the device was when it joined. -/
theorem locate?_eq (r : Registry) (addr : DeviceAddr) :
    r.locate? addr = (r.devices.map Device.asRegistered).findIdx? (answers addr) := by
  rw [List.findIdx?_map]
  rfl

theorem answers_self (haddr : d.addr = addr) : answers addr d = addr.sameDevice addr := by
  unfold answers
  rw [haddr]
  split
  · rfl
  · rename_i hinvalid
    rw [Bool.not_eq_true] at hinvalid
    unfold DeviceAddr.sameDevice
    simp only [ne_eq, not_true_eq_false, if_false, hinvalid, Bool.false_and, Bool.false_eq_true,
      decide_true]
    split <;> rfl

/-- A known address leads to a device that is there. -/
theorem lookup?_of_locate? (h : r.locate? addr = some index) :
    ∃ d, r.devices[index]? = some d ∧ r.lookup? addr = some (index, d) := by
  obtain ⟨hlt, -⟩ := List.findIdx?_eq_some_iff_getElem.mp h
  refine ⟨r.devices[index], List.getElem?_eq_getElem hlt, ?_⟩
  simp [lookup?, h, List.getElem?_eq_getElem hlt]

theorem locate?_of_lookup? (h : r.lookup? addr = some (index, d)) :
    r.locate? addr = some index ∧ r.devices[index]? = some d := by
  unfold lookup? at h
  simp only [Option.bind_eq_bind, Option.pure_def, Option.bind_eq_some_iff, Option.some.injEq,
    Prod.mk.injEq] at h
  obtain ⟨i, hlocate, found, hfound, rfl, rfl⟩ := h
  exact ⟨hlocate, hfound⟩

theorem answers_of_lookup? (h : r.lookup? addr = some (index, d)) : answers addr d = true := by
  obtain ⟨hlocate, hdevice⟩ := locate?_of_lookup? h
  obtain ⟨hlt, hanswers, -⟩ := List.findIdx?_eq_some_iff_getElem.mp hlocate
  rw [List.getElem?_eq_getElem hlt, Option.some.injEq] at hdevice
  rwa [hdevice] at hanswers

/-! What a registration does. -/

/-- Endpoints are declared for devices there is room for, one or two for each, by the table of the
device type. -/
theorem declare_ok {capability : Capability} {configs : List EndpointConfig}
    (h : r.declare addr = .ok (capability, configs)) :
    r.devices.length < r.capacity ∧ (configs.length = 1 ∨ configs.length = 2) ∧
      r.capability? addr.deviceType = some capability ∧
        capability.setup addr = .endpoints configs := by
  unfold declare at h
  split at h
  · cases h
  rename_i hroom
  split at h
  · cases h
  rename_i hcapability
  split at h
  · cases h
  · cases h
  rename_i hsetup
  split at h
  · cases h
  rename_i hsome
  split at h
  · cases h
  rename_i hmax
  cases h
  rw [List.isEmpty_iff, ← List.length_eq_zero_iff] at hsome
  unfold Device.maxEndpoints at hmax
  refine ⟨by omega, by omega, hcapability, hsetup⟩

/-- A device that may join the list at an address. -/
structure Joins (r : Registry) (addr : DeviceAddr) (d : Device) : Prop where
  address : d.addr = addr
  session : d.session = r.nextSession
  endpoints : d.endpoints.length = 1 ∨ d.endpoints.length = 2
  unknown : r.locate? addr = none
  room : r.devices.length < r.capacity
  setUp : ∃ capability, r.capability? addr.deviceType = some capability ∧ d.SetUpBy capability

/-- The list with one more device. -/
def enrol (r : Registry) (d : Device) : Registry :=
  { r with
    devices := r.devices ++ [d]
    nextSession := r.nextSession.next
    rooms := (r.rooms.assign d.addr).2 }

/-- All that can become of a registration. -/
theorem register_cases (r : Registry) (addr : DeviceAddr) (now : UInt32) :
    (∃ index, r.locate? addr = some index ∧ r.register addr now = (.ok index, r)) ∨
    (∃ halt, r.locate? addr = none ∧ r.declare addr = .error halt ∧
      r.register addr now = (.error halt, r)) ∨
    (∃ d, r.Joins addr d ∧ r.register addr now = (.ok r.devices.length, r.enrol d)) := by
  unfold register
  cases hlocate : r.locate? addr with
  | some index => exact .inl ⟨index, rfl, rfl⟩
  | none =>
    cases hdeclare : r.declare addr with
    | error halt => exact .inr (.inl ⟨halt, rfl, rfl, rfl⟩)
    | ok declared =>
      obtain ⟨capability, configs⟩ := declared
      obtain ⟨hroom, hcount, hcapability, hsetup⟩ := declare_ok hdeclare
      refine .inr (.inr ⟨_, ⟨rfl, rfl, ?_, hlocate, hroom, capability, hcapability, ?_, rfl⟩, rfl⟩)
      · simpa using hcount
      · simpa [Function.comp_def] using hsetup

/-- A registration that fails changes nothing. -/
theorem register_error {halt : Halt RegistryError} (h : (r.register addr now).1 = .error halt) :
    r.declare addr = .error halt ∧ (r.register addr now).2 = r := by
  rcases r.register_cases addr now with
    ⟨index, -, hcase⟩ | ⟨cause, -, hdeclare, hcase⟩ | ⟨d, -, hcase⟩
  · rw [hcase] at h
    cases h
  · rw [hcase] at h ⊢
    cases h
    exact ⟨hdeclare, rfl⟩
  · rw [hcase] at h
    cases h

/-- A registration that succeeds answers with a device that is there. -/
theorem register_ok (h : (r.register addr now).1 = .ok index) :
    ∃ d, (r.register addr now).2.devices[index]? = some d := by
  rcases r.register_cases addr now with
    ⟨found, hlocate, hcase⟩ | ⟨halt, -, -, hcase⟩ | ⟨d, -, hcase⟩
  · rw [hcase] at h ⊢
    cases h
    obtain ⟨d, hdevice, -⟩ := lookup?_of_locate? hlocate
    exact ⟨d, hdevice⟩
  · rw [hcase] at h
    cases h
  · rw [hcase] at h ⊢
    cases h
    exact ⟨d, by simp [enrol]⟩

theorem register_known (h : r.locate? addr = some index) : r.register addr now = (.ok index, r) := by
  unfold register
  rw [h]

/-- A device that joins bears the address at which it joins. -/
theorem register_unknown (h : (r.register addr now).1 = .ok index)
    (hunknown : r.locate? addr = none) :
    ∃ d, (r.register addr now).2.devices[index]? = some d ∧ d.addr = addr := by
  rcases r.register_cases addr now with
    ⟨found, hknown, -⟩ | ⟨halt, -, -, hcase⟩ | ⟨d, hjoins, hcase⟩
  · rw [hknown] at hunknown
    cases hunknown
  · rw [hcase] at h
    cases h
  · rw [hcase] at h ⊢
    cases h
    exact ⟨d, by simp [enrol], hjoins.address⟩

/-! How a registry changes as time goes on. -/

/-- The devices of `r` are all still there, at their positions; others have joined after them. -/
structure Extends (r next : Registry) : Prop where
  capacity : next.capacity = r.capacity
  devices : r.devices.map Device.asRegistered <+: next.devices.map Device.asRegistered

theorem Extends.refl (r : Registry) : r.Extends r := ⟨rfl, List.prefix_rfl⟩

theorem Extends.trans {last : Registry} (h : r.Extends next) (hlast : next.Extends last) :
    r.Extends last :=
  ⟨hlast.capacity.trans h.capacity, h.devices.trans hlast.devices⟩

theorem Extends.locate? (h : r.Extends next) (hlocate : r.locate? addr = some index) :
    next.locate? addr = some index := by
  obtain ⟨joined, hdevices⟩ := h.devices
  rw [locate?_eq] at hlocate ⊢
  rw [← hdevices, List.findIdx?_append, hlocate, Option.some_or]

theorem Extends.device (h : r.Extends next) (hdevice : r.devices[index]? = some d) :
    ∃ later, next.devices[index]? = some later ∧ later.asRegistered = d.asRegistered := by
  have hmapped : (r.devices.map Device.asRegistered)[index]? = some d.asRegistered := by
    rw [List.getElem?_map, hdevice, Option.map_some]
  obtain ⟨joined, hdevices⟩ := h.devices
  have hlater : (next.devices.map Device.asRegistered)[index]? = some d.asRegistered := by
    rw [← hdevices, List.getElem?_append_left (List.getElem?_eq_some_iff.mp hmapped).1, hmapped]
  rwa [List.getElem?_map, Option.map_eq_some_iff] at hlater

/-- An address goes on leading to the same device. -/
theorem Extends.lookup? (h : r.Extends next) (hlookup : r.lookup? addr = some (index, d)) :
    ∃ later, next.lookup? addr = some (index, later) ∧ later.asRegistered = d.asRegistered := by
  obtain ⟨hlocate, hdevice⟩ := locate?_of_lookup? hlookup
  obtain ⟨later, hlater, hsame⟩ := h.device hdevice
  obtain ⟨found, hfound, hlookup⟩ := lookup?_of_locate? (h.locate? hlocate)
  rw [hlater, Option.some.injEq] at hfound
  exact ⟨later, hfound ▸ hlookup, hsame⟩

/-- What happens to a registry: registrations, and updates that leave each device what it is. -/
inductive Becomes (r : Registry) : Registry → Prop where
  | refl : Becomes r r
  | register {next : Registry} (addr : DeviceAddr) (now : UInt32) (h : Becomes r next) :
    Becomes r (next.register addr now).2
  | update {next : Registry} (index : Nat) (f : Device → Device)
    (hsame : ∀ d, (f d).asRegistered = d.asRegistered) (h : Becomes r next) :
    Becomes r (next.update index f)

theorem Becomes.trans {last : Registry} (h : r.Becomes next) (hlast : next.Becomes last) :
    r.Becomes last := by
  induction hlast with
  | refl => exact h
  | register addr now _ ih => exact ih.register addr now
  | update index f hsame _ ih => exact ih.update index f hsame

theorem update_asRegistered (r : Registry) (index : Nat) {f : Device → Device}
    (hsame : ∀ d, (f d).asRegistered = d.asRegistered) :
    (r.update index f).devices.map Device.asRegistered = r.devices.map Device.asRegistered := by
  apply List.ext_getElem?
  intro i
  simp only [update, List.getElem?_map, List.getElem?_modify]
  cases r.devices[i]? with
  | none => rfl
  | some d => by_cases hi : index = i <;> simp [hi, hsame]

theorem Extends.register (r : Registry) (addr : DeviceAddr) (now : UInt32) :
    r.Extends (r.register addr now).2 := by
  rcases r.register_cases addr now with ⟨index, -, hcase⟩ | ⟨halt, -, -, hcase⟩ | ⟨d, -, hcase⟩
  · rw [hcase]
    exact .refl r
  · rw [hcase]
    exact .refl r
  · rw [hcase]
    refine ⟨rfl, [d.asRegistered], ?_⟩
    simp [enrol]

theorem Becomes.extends (h : r.Becomes next) : r.Extends next := by
  induction h with
  | refl => exact .refl r
  | register addr now _ ih => exact ih.trans (.register _ addr now)
  | update index f hsame _ ih =>
    exact ih.trans ⟨rfl, by rw [update_asRegistered _ index hsame]⟩

/-- The tables stay as devices join. -/
theorem Becomes.capability?_eq (h : r.Becomes next) : next.capability? = r.capability? := by
  induction h with
  | refl => rfl
  | @register middle addr now _ ih =>
    rw [← ih]
    rcases middle.register_cases addr now with
      ⟨index, -, hcase⟩ | ⟨halt, -, -, hcase⟩ | ⟨d, -, hcase⟩ <;> rw [hcase]
    rfl
  | update index f hsame _ ih => exact ih

/-- Every device was set up by the table of its type. -/
def SetUp (r : Registry) : Prop :=
  ∀ d ∈ r.devices, ∃ capability, r.capability? d.addr.deviceType = some capability ∧
    d.SetUpBy capability

theorem SetUp.new (capacity : Nat) (capability? : DeviceType → Option Capability)
    (rooms : RoomTable) : (Registry.new capacity capability? rooms).SetUp :=
  fun _ hnone => absurd hnone List.not_mem_nil

theorem SetUp.enrol (h : r.SetUp) (hjoins : r.Joins addr d) : (r.enrol d).SetUp := by
  intro found hfound
  rcases List.mem_append.mp hfound with hold | hnew
  · exact h found hold
  · rw [List.mem_singleton.mp hnew, hjoins.address]
    exact hjoins.setUp

theorem SetUp.register (h : r.SetUp) (addr : DeviceAddr) (now : UInt32) :
    (r.register addr now).2.SetUp := by
  rcases r.register_cases addr now with
    ⟨index, -, hcase⟩ | ⟨halt, -, -, hcase⟩ | ⟨d, hjoins, hcase⟩
  · rw [hcase]
    exact h
  · rw [hcase]
    exact h
  · rw [hcase]
    exact h.enrol hjoins

/-- Tables set up what joins, and nothing else is ever set up. -/
theorem Becomes.setUp (h : r.Becomes next) (hfirst : r.SetUp) : next.SetUp := by
  induction h with
  | refl => exact hfirst
  | register addr now _ ih => exact ih.register addr now
  | @update middle index f hsame _ ih =>
    intro found hfound
    have hin := List.mem_map_of_mem (f := Device.asRegistered) hfound
    rw [update_asRegistered middle index hsame] at hin
    obtain ⟨d, hd, hd'⟩ := List.mem_map.mp hin
    obtain ⟨capability, hcapability, hsetUp⟩ := ih d hd
    exact ⟨capability, by rw [Device.addr_of_same hd'.symm]; exact hcapability,
      hsetUp.congr hd'.symm⟩

/-- Session ids count the devices in the order in which they joined, within the capacity. -/
structure Numbered (r : Registry) : Prop where
  session : ∀ i d, r.devices[i]? = some d → d.session.value.toNat = i + 1
  next : r.nextSession.value = UInt32.ofNat (r.devices.length + 1)
  within : r.devices.length ≤ r.capacity
  endpoints : ∀ d ∈ r.devices, d.endpoints.length = 1 ∨ d.endpoints.length = 2

theorem new_numbered (capacity : Nat) (capability? : DeviceType → Option Capability)
    (rooms : RoomTable) : (Registry.new capacity capability? rooms).Numbered where
  session := by simp [Registry.new]
  next := rfl
  within := Nat.zero_le capacity
  endpoints := by simp [Registry.new]

/-- The next session id is a new one as long as the devices can be counted. -/
theorem Numbered.enrol (h : r.Numbered) (hcapacity : r.capacity < UInt32.size)
    (hjoins : r.Joins addr d) : (r.enrol d).Numbered where
  session i found hfound := by
    rcases Nat.lt_trichotomy i r.devices.length with hlt | rfl | hgt
    · rw [Registry.enrol, List.getElem?_append_left hlt] at hfound
      exact h.session i found hfound
    · simp only [Registry.enrol, List.getElem?_concat_length, Option.some.injEq] at hfound
      have hroom := hjoins.room
      rw [← hfound, hjoins.session, h.next, UInt32.toNat_ofNat_of_lt']
      omega
    · have hbeyond : (r.devices ++ [d])[i]? = none := by
        apply List.getElem?_eq_none
        simp only [List.length_append, List.length_singleton]
        omega
      rw [Registry.enrol, hbeyond] at hfound
      cases hfound
  next := by
    simp only [Registry.enrol, SessionId.next, h.next, List.length_append, List.length_singleton]
    rw [UInt32.ofNat_add (r.devices.length + 1) 1]
    rfl
  within := by
    have hroom := hjoins.room
    simp only [Registry.enrol, List.length_append, List.length_singleton]
    omega
  endpoints found hfound := by
    rcases List.mem_append.mp hfound with hold | hnew
    · exact h.endpoints found hold
    · rw [List.mem_singleton.mp hnew]
      exact hjoins.endpoints

/-- Numbers are of what devices were when they joined. -/
theorem Numbered.congr (h : r.Numbered) (hcapacity : next.capacity = r.capacity)
    (hsession : next.nextSession = r.nextSession)
    (hdevices : next.devices.map Device.asRegistered = r.devices.map Device.asRegistered) :
    next.Numbered := by
  have hlength : next.devices.length = r.devices.length := by
    simpa using congrArg List.length hdevices
  have hsame (i : Nat) (d : Device) (hd : next.devices[i]? = some d) :
      ∃ earlier, r.devices[i]? = some earlier ∧ earlier.asRegistered = d.asRegistered := by
    have hget := congrArg (fun devices : List Device => devices[i]?) hdevices
    simp only [List.getElem?_map, hd, Option.map_some] at hget
    exact Option.map_eq_some_iff.mp hget.symm
  constructor
  · intro i d hd
    obtain ⟨earlier, hearlier, heq⟩ := hsame i d hd
    rw [← Device.session_of_same heq]
    exact h.session i earlier hearlier
  · rw [hsession, hlength]
    exact h.next
  · rw [hcapacity, hlength]
    exact h.within
  · intro d hd
    obtain ⟨i, hi⟩ := List.mem_iff_getElem?.mp hd
    obtain ⟨earlier, hearlier, heq⟩ := hsame i d hi
    rw [← Device.endpoints_length_of_same heq]
    exact h.endpoints earlier (List.mem_of_getElem? hearlier)

theorem Numbered.register (h : r.Numbered) (hcapacity : r.capacity < UInt32.size)
    (addr : DeviceAddr) (now : UInt32) : (r.register addr now).2.Numbered := by
  rcases r.register_cases addr now with
    ⟨index, -, hcase⟩ | ⟨halt, -, -, hcase⟩ | ⟨d, hjoins, hcase⟩
  · rw [hcase]
    exact h
  · rw [hcase]
    exact h
  · rw [hcase]
    exact h.enrol hcapacity hjoins

theorem Becomes.numbered (h : r.Becomes next) (hcapacity : r.capacity < UInt32.size)
    (hnumbered : r.Numbered) : next.Numbered := by
  induction h with
  | refl => exact hnumbered
  | register addr now hbefore ih =>
    exact ih.register (hbefore.extends.capacity ▸ hcapacity) addr now
  | update index f hsame _ ih => exact ih.congr rfl rfl (update_asRegistered _ index hsame)

/-- Session ids are in the order of the list, each once. -/
theorem Numbered.increasing (h : r.Numbered) :
    (r.devices.map fun d => d.session.value).Pairwise (· < ·) := by
  rw [List.pairwise_map, List.pairwise_iff_getElem]
  intro i j hi hj hlt
  have hfirst := h.session i r.devices[i] (List.getElem?_eq_getElem hi)
  have hsecond := h.session j r.devices[j] (List.getElem?_eq_getElem hj)
  apply UInt32.lt_iff_toNat_lt.mpr
  omega

/-- A session id is as good as a position. -/
theorem Numbered.findSession?_eq (h : r.Numbered) {i : Nat} (hi : i + 1 < UInt32.size) :
    r.findSession? ⟨UInt32.ofNat (i + 1)⟩ = r.devices[i]? := by
  have hid : (UInt32.ofNat (i + 1)).toNat = i + 1 := UInt32.toNat_ofNat_of_lt' hi
  have hmatches (j : Nat) (d : Device) (hd : r.devices[j]? = some d) :
      d.session = ⟨UInt32.ofNat (i + 1)⟩ ↔ j = i := by
    have hsession := h.session j d hd
    constructor
    · intro heq
      rw [heq] at hsession
      change (UInt32.ofNat (i + 1)).toNat = j + 1 at hsession
      omega
    · rintro rfl
      apply congrArg SessionId.mk
      exact UInt32.toNat_inj.mp (hsession.trans hid.symm)
  unfold findSession?
  cases hget : r.devices[i]? with
  | some d =>
    obtain ⟨hlt, hd⟩ := List.getElem?_eq_some_iff.mp hget
    rw [List.find?_eq_some_iff_getElem]
    refine ⟨decide_eq_true ((hmatches i d hget).mpr rfl), i, hlt, hd, ?_⟩
    intro j hj
    have hother := (hmatches j r.devices[j] (List.getElem?_eq_getElem _)).not.mpr (by omega)
    simpa using hother
  | none =>
    rw [List.find?_eq_none]
    intro d hd heq
    obtain ⟨j, hj⟩ := List.mem_iff_getElem?.mp hd
    have hsame := (hmatches j d hj).mp (of_decide_eq_true heq)
    rw [hsame, hget] at hj
    cases hj

end Registry

end HomeGateway
