import Mathlib
import HomeGateway.Proofs.Hub.Enrolment
import HomeGateway.Wire.Device

/-!
The classes of boards. An id has three bits for its class, and neither the ways to make one nor
the frames on the bus give it more. But an id that is read keeps all its eight bits, and names a
class that no board has a table for: such a board, and nothing else, brings down whoever
registers it, if it would join.
-/

namespace HomeGateway

namespace BusDeviceId

theorem toNat_cls (did : BusDeviceId) : did.cls.toNat = did.raw.toNat / 8 := by
  unfold cls
  rw [UInt8.toNat_shiftRight, Nat.shiftRight_eq_div_pow]
  rfl

/-- An id that was put together from its parts, or cut to its six bits. -/
def IsMade (did : BusDeviceId) : Prop :=
  (∃ cls subId, ofParts? cls subId = some did) ∨ ∃ raw, ofRaw raw = did

theorem toNat_ofRaw_lt (raw : UInt8) : (ofRaw raw).raw.toNat < 64 := by
  have hmasked : raw.toNat &&& 0x3F ≤ 0x3F := Nat.and_le_right
  simp only [ofRaw, UInt8.toNat_and]
  exact Nat.lt_succ_of_le hmasked

theorem ofRaw_raw {did : BusDeviceId} (h : did.raw.toNat < 64) : ofRaw did.raw = did := by
  have hmasked : did.raw &&& 0x3F = did.raw := by
    apply UInt8.toNat_inj.mp
    rw [UInt8.toNat_and]
    change did.raw.toNat &&& (2 ^ 6 - 1) = did.raw.toNat
    rw [Nat.and_two_pow_sub_one_eq_mod]
    exact Nat.mod_eq_of_lt h
  unfold ofRaw
  rw [hmasked]

theorem toNat_ofParts?_lt {cls subId : UInt8} {did : BusDeviceId}
    (h : ofParts? cls subId = some did) : did.raw.toNat < 64 := by
  unfold ofParts? at h
  split at h
  · rename_i hparts
    cases h
    have hcls : cls.toNat ≤ 7 := hparts.1
    have hsub : subId.toNat ≤ 7 := hparts.2
    have hhigh : (cls <<< 3).toNat < 2 ^ 6 := by
      rw [UInt8.toNat_shiftLeft, Nat.shiftLeft_eq]
      change cls.toNat * 2 ^ 3 % 256 < 2 ^ 6
      omega
    have hlow : subId.toNat < 2 ^ 6 := by omega
    rw [UInt8.toNat_or]
    exact Nat.or_lt_two_pow hhigh hlow
  · cases h

/-- Ids that are made are those of the eight classes. -/
theorem isMade_iff (did : BusDeviceId) : did.IsMade ↔ did.cls.toNat < 8 := by
  rw [toNat_cls]
  constructor
  · rintro (⟨cls, subId, hparts⟩ | ⟨raw, rfl⟩)
    · have hlt := toNat_ofParts?_lt hparts
      omega
    · have hlt := toNat_ofRaw_lt raw
      omega
  · intro hlt
    exact .inr ⟨did.raw, ofRaw_raw (by omega)⟩

end BusDeviceId

namespace Builtin

/-- A board falls for want of a row of its class. -/
theorem boardSetup_abort_iff (addr : DeviceAddr) :
    boardSetup addr = .abort ↔ ∃ did, addr.mac = .bus did ∧ 8 ≤ did.cls.toNat := by
  unfold boardSetup
  cases addr.mac with
  | bus did =>
    dsimp only
    by_cases hbroadcast : did.isBroadcast = true
    · rw [if_pos hbroadcast]
      have hdid : did = .broadcast := of_decide_eq_true hbroadcast
      refine iff_of_false Setup.noConfusion ?_
      rintro ⟨_, ⟨⟩, hcls⟩
      rw [hdid] at hcls
      exact absurd hcls (by decide)
    · rw [if_neg hbroadcast]
      by_cases hcls : did.cls.toNat < 8
      · have hrow : boards[did.cls.toNat]? = some boards[did.cls.toNat] :=
          List.getElem?_eq_getElem hcls
        rw [hrow]
        refine iff_of_false Setup.noConfusion ?_
        rintro ⟨_, ⟨⟩, hother⟩
        omega
      · have hnone : boards[did.cls.toNat]? = none :=
          List.getElem?_eq_none (Nat.not_lt.mp hcls)
        rw [hnone]
        exact iff_of_true rfl ⟨did, rfl, Nat.not_lt.mp hcls⟩
  | none | ble | can => exact iff_of_false Setup.noConfusion nofun

/-- Other devices do not fall. -/
theorem setup_abort_iff (addr : DeviceAddr) :
    (∃ capability, capability? addr.deviceType = some capability ∧
      capability.setup addr = .abort) ↔
    addr.deviceType = .caniot ∧ ∃ did, addr.mac = .bus did ∧ 8 ≤ did.cls.toNat := by
  rw [← boardSetup_abort_iff]
  cases addr.deviceType with
  | caniot => simp [capability?]
  | none | xiaomiMijia | nucleoF429zi => simp [capability?]

end Builtin

namespace Registry

variable {r : Registry} {addr : DeviceAddr} {now : UInt32}

/-- Whoever falls does so in the set-up of a device that is to join. -/
theorem register_abort_iff (r : Registry) (addr : DeviceAddr) (now : UInt32) :
    (r.register addr now).1 = .error .abort ↔
      r.locate? addr = none ∧ r.devices.length < r.capacity ∧
        ∃ capability, r.capability? addr.deviceType = some capability ∧
          capability.setup addr = .abort := by
  have hdeclare : r.declare addr = .error .abort ↔ r.devices.length < r.capacity ∧
      ∃ capability, r.capability? addr.deviceType = some capability ∧
        capability.setup addr = .abort := by
    unfold declare
    by_cases hfull : r.capacity ≤ r.devices.length
    · rw [if_pos hfull]
      exact iff_of_false nofun fun h => absurd h.1 (Nat.not_lt.mpr hfull)
    · rw [if_neg hfull]
      cases r.capability? addr.deviceType with
      | none => simp
      | some capability =>
        dsimp only
        cases hsetup : capability.setup addr with
        | abort => simp [hsetup, Nat.not_le.mp hfull]
        | refused reason => simp [hsetup]
        | endpoints configs =>
          dsimp only
          split
          · simp [hsetup]
          · split <;> simp [hsetup]
  unfold register
  cases r.locate? addr with
  | some index => simp
  | none =>
    rw [← hdeclare]
    cases r.declare addr with
    | error halt => simp
    | ok declared => simp

/-- A board that would join, under an id that names a class which there is not. -/
structure Unclassed (r : Registry) (addr : DeviceAddr) : Prop where
  unknown : r.locate? addr = none
  room : r.devices.length < r.capacity
  board : addr.deviceType = .caniot
  beyond : ∃ did, addr.mac = .bus did ∧ 8 ≤ did.cls.toNat

theorem register_abort_iff_unclassed (htables : r.capability? = Builtin.capability?)
    (addr : DeviceAddr) (now : UInt32) :
    (r.register addr now).1 = .error .abort ↔ r.Unclassed addr := by
  rw [register_abort_iff, htables, Builtin.setup_abort_iff]
  exact ⟨fun ⟨hunknown, hroom, hboard, hbeyond⟩ => ⟨hunknown, hroom, hboard, hbeyond⟩,
    fun h => ⟨h.unknown, h.room, h.board, h.beyond⟩⟩

end Registry

namespace Hub

variable {σ : Type} {hub : Hub σ} {addr : DeviceAddr}

/-- A fall leaves everything as it was. -/
theorem register_fallen (h : (hub.register addr).1 = .error .abort) :
    (hub.register addr).2 = hub := by
  rw [register_result] at h
  have hsame := (Registry.register_error h).2
  unfold Hub.register
  dsimp only
  rw [h, hsame]

theorem intake_abort_iff (hub : Hub σ) (addr : DeviceAddr) (payload : Payload) :
    (hub.intake addr payload).1 = .error .abort ↔ (hub.register addr).1 = .error .abort := by
  rcases hub.intake_cases addr payload with
    ⟨cause, hregister, hcase⟩ | ⟨hregister, hcase⟩ |
      ⟨index, device, hregister, -, result, next, -, hcase⟩
  · rw [hcase, hregister]
    exact iff_of_false nofun nofun
  · rw [hcase, hregister]
    exact iff_of_true rfl rfl
  · rw [hcase, hregister]
    refine iff_of_false ?_ nofun
    cases result <;> exact nofun

theorem intake_fallen {payload : Payload} (h : (hub.register addr).1 = .error .abort) :
    hub.intake addr payload = (.error .abort, hub) := by
  rcases hub.intake_cases addr payload with
    ⟨cause, hregister, -⟩ | ⟨-, hcase⟩ | ⟨index, device, hregister, -⟩
  · rw [hregister] at h
    cases h
  · rw [hcase, register_fallen h]
  · rw [hregister] at h
    cases h

/-- A payload falls with the registration of its device, and not otherwise. -/
theorem receive_abort_iff (hub : Hub σ) (addr : DeviceAddr) (bytes : List UInt8)
    (timestamp : UInt32) (client : σ) :
    (hub.receive addr bytes timestamp client).1 = .error .abort ↔
      (hub.register addr).1 = .error .abort := by
  rw [← hub.intake_abort_iff addr { bytes, timestamp }]
  unfold Hub.receive
  generalize hub.intake addr { bytes, timestamp } = taken
  obtain ⟨result, next⟩ := taken
  cases result <;> simp

theorem receive_fallen {bytes : List UInt8} {timestamp : UInt32} {client : σ}
    (h : (hub.register addr).1 = .error .abort) :
    (hub.receive addr bytes timestamp client).2 = (hub, client) := by
  unfold Hub.receive
  rw [intake_fallen h]

end Hub

namespace HubInUse

variable {κ σ : Type}

/-- Who falls in a state, and who does not. -/
structure Classed (e : HubInUse κ σ) : Prop where
  register : ∀ addr, (e.hub.register addr).1 = .error .abort ↔ e.hub.registry.Unclassed addr
  receive : ∀ addr bytes timestamp,
    (e.hub.receive addr bytes timestamp e.client).1 = .error .abort ↔
      e.hub.registry.Unclassed addr
  /-- Everybody else gets a device or the reason why there is none. -/
  answered : ∀ addr, ¬e.hub.registry.Unclassed addr →
    (∃ index, (e.hub.register addr).1 = .ok index) ∨
      ∃ cause, (e.hub.register addr).1 = .error (.error cause)
  /-- Ids that are made are safe. -/
  made : ∀ addr did, addr.mac = .bus did → did.IsMade → ¬e.hub.registry.Unclassed addr
  left : ∀ addr bytes timestamp, e.hub.registry.Unclassed addr →
    (e.hub.register addr).2 = e.hub ∧
      (e.hub.receive addr bytes timestamp e.client).2 = (e.hub, e.client)

theorem classed_of_builtin {e : HubInUse κ σ}
    (htables : e.hub.registry.capability? = Builtin.capability?) : e.Classed := by
  have hregister (addr : DeviceAddr) :
      (e.hub.register addr).1 = .error .abort ↔ e.hub.registry.Unclassed addr := by
    rw [Hub.register_result]
    exact Registry.register_abort_iff_unclassed htables addr e.hub.now
  constructor
  · exact hregister
  · intro addr bytes timestamp
    rw [Hub.receive_abort_iff]
    exact hregister addr
  · intro addr hclassed
    rw [← hregister] at hclassed
    generalize (e.hub.register addr).1 = result at hclassed
    rcases result with (cause | _) | index
    · exact .inr ⟨cause, rfl⟩
    · exact absurd rfl hclassed
    · exact .inl ⟨index, rfl⟩
  · intro addr did hmac hmade hunclassed
    obtain ⟨other, hother, hbeyond⟩ := hunclassed.beyond
    rw [hmac] at hother
    cases hother
    exact absurd (did.isMade_iff.mp hmade) (Nat.not_lt.mpr hbeyond)
  · intro addr bytes timestamp hunclassed
    have hfallen := (hregister addr).mpr hunclassed
    exact ⟨Hub.register_fallen hfallen, Hub.receive_fallen hfallen⟩

/-- With the built-in tables, exactly the boards of the classes that there are not bring down
whoever registers them, in every state of a run. -/
theorem states_classed (config : HubConfig) (now : UInt32) {hub : Hub σ}
    (hnew : Hub.new config Builtin.capability? now = .ok hub)
    (confOf : Nat → κ → SubscriptionConf σ) (actions : List (HubAction κ σ)) (client : σ) :
    ∀ w ∈ states confOf actions (start hub client), w.Classed := by
  intro w hw
  have hbecomes := states_reached (registry_moves confOf) actions (start hub client) w hw
  have htables : hub.registry.capability? = Builtin.capability? := by
    unfold Hub.new at hnew
    split at hnew
    · cases hnew
    · cases hnew
      rfl
  exact classed_of_builtin (hbecomes.capability?_eq.trans htables)

/-- A board of class 7 joins before and after one that falls. -/
theorem states_classed_boards :
    ∃ hub : Hub Unit, Hub.new {} Builtin.capability? 0 = .ok hub ∧
      let run := states (fun _ conf => conf)
        [.operate (.register (.bus ⟨62⟩)), .operate (.register (.bus ⟨64⟩)),
          .operate (.receive (.bus ⟨61⟩) { bytes := [0, 0, 0, 0, 0, 0, 0, 0], timestamp := 0 })]
        (HubInUse.start hub ())
      run.map (fun w => w.hub.registry.devices.length) = [0, 1, 1, 2] ∧ ∀ w ∈ run, w.Classed :=
  ⟨_, rfl, rfl, states_classed {} 0 rfl _ _ _⟩

/-- The address of a board whose id was read, of class 8: the default hub falls when it registers
it, and when it takes its payload. -/
theorem states_unclassed :
    ∃ hub : Hub Unit, Hub.new {} Builtin.capability? 0 = .ok hub ∧
      let addr : DeviceAddr := .bus ⟨64⟩
      let written : Json := .object [("device_type".toList, .text "caniot".toList),
        ("mac".toList, .object [("kind".toList, .text "bus".toList), ("value".toList, .ofInt 64)])]
      JsonForm.read? written = some addr ∧ addr.isValid ∧ BusDeviceId.cls ⟨64⟩ = 8 ∧
        (hub.register addr).1 = .error .abort ∧
        (hub.receive addr [0, 0, 0, 0, 0, 0, 0, 0] 0 ()).1 = .error .abort :=
  ⟨_, rfl, rfl, rfl, rfl, rfl, rfl⟩

end HubInUse

end HomeGateway
