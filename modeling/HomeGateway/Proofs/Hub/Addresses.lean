import Mathlib
import HomeGateway.Proofs.Hub.Enrolment

/-!
The addresses of registered devices against each other. Nothing checks them: all there is to it is
the lookup that comes before a device joins, by address where the address can be compared and by
type where it cannot. It is the rule of the earlier device that tells it from a later one. The rule
of the later device may well take the two for one.
-/

namespace HomeGateway

namespace DeviceAddr

/-- A device at the first address is not taken for a later one at the second. If the later one
cannot be compared, it is the first of its type. -/
structure Precludes (earlier later : DeviceAddr) : Prop where
  address : earlier.sameDevice later = false
  type : later.isValid = false → earlier.deviceType ≠ later.deviceType

/-- Two boards on one bus id are told apart by the rule of the thermometer, and not by that of the
field bus. -/
example :
    let thermometer : DeviceAddr := ⟨.xiaomiMijia, .bus ⟨24⟩⟩
    thermometer.Precludes (.bus ⟨24⟩) ∧ (DeviceAddr.bus ⟨24⟩).sameDevice thermometer = true :=
  ⟨⟨by decide, by decide⟩, by decide⟩

end DeviceAddr

namespace Registry

variable {r next : Registry} {addr : DeviceAddr}

/-- Who does not answer to an address is told from whoever joins at it. -/
theorem precludes_of_not_answers {d : Device} (h : answers addr d = false) :
    d.addr.Precludes addr := by
  unfold answers at h
  split at h
  · rename_i hvalid
    exact ⟨h, fun hinvalid => absurd hvalid (Bool.eq_false_iff.mp hinvalid)⟩
  · rename_i hinvalid
    rw [Bool.not_eq_true] at hinvalid
    have htype := of_decide_eq_false h
    exact ⟨DeviceAddr.not_sameDevice_of_type hinvalid htype, fun _ => htype⟩

/-- Every device is told from those that joined after it. -/
def Distinguishes (r : Registry) : Prop :=
  (r.devices.map Device.addr).Pairwise DeviceAddr.Precludes

theorem Distinguishes.enrol {d : Device} (h : r.Distinguishes) (hjoins : r.Joins addr d) :
    (r.enrol d).Distinguishes := by
  unfold Distinguishes Registry.enrol
  rw [List.map_append, List.map_singleton]
  refine List.pairwise_append.mpr ⟨h, List.pairwise_singleton _ _, ?_⟩
  intro earlier hearlier later hlater
  obtain ⟨known, hknown, rfl⟩ := List.mem_map.mp hearlier
  rw [List.mem_singleton.mp hlater, hjoins.address]
  have hunknown := List.findIdx?_eq_none_iff.mp hjoins.unknown
  exact precludes_of_not_answers (hunknown known hknown)

theorem Distinguishes.register (h : r.Distinguishes) (addr : DeviceAddr) (now : UInt32) :
    (r.register addr now).2.Distinguishes := by
  rcases r.register_cases addr now with
    ⟨index, -, hcase⟩ | ⟨halt, -, -, hcase⟩ | ⟨d, hjoins, hcase⟩
  · rw [hcase]
    exact h
  · rw [hcase]
    exact h
  · rw [hcase]
    exact h.enrol hjoins

/-- An address is part of what a device was when it joined. -/
theorem update_addr (r : Registry) (index : Nat) {f : Device → Device}
    (hsame : ∀ d, (f d).asRegistered = d.asRegistered) :
    (r.update index f).devices.map Device.addr = r.devices.map Device.addr := by
  have haddr : Device.addr ∘ Device.asRegistered = Device.addr := rfl
  have hdevices := congrArg (List.map Device.addr) (r.update_asRegistered index hsame)
  simpa only [List.map_map, haddr] using hdevices

theorem Becomes.distinguishes (h : r.Becomes next) (hfirst : r.Distinguishes) :
    next.Distinguishes := by
  induction h with
  | refl => exact hfirst
  | register addr now _ ih => exact ih.register addr now
  | update index f hsame _ ih =>
    unfold Distinguishes
    rw [update_addr _ index hsame]
    exact ih

theorem Distinguishes.precludes (h : r.Distinguishes) {i j : Nat} {earlier later : Device}
    (hlt : i < j) (hearlier : r.devices[i]? = some earlier)
    (hlater : r.devices[j]? = some later) : earlier.addr.Precludes later.addr := by
  obtain ⟨hi, rfl⟩ := List.getElem?_eq_some_iff.mp hearlier
  obtain ⟨hj, rfl⟩ := List.getElem?_eq_some_iff.mp hlater
  have hpair := List.pairwise_iff_getElem.mp (List.pairwise_map.mp h)
  exact hpair i j hi hj hlt

end Registry

namespace HubInUse

variable {κ σ : Type}

/-- Whatever clients do with a registry that was empty, no device is taken for a later one, and a
device whose address cannot be compared is the first of its type. -/
theorem states_distinguished {e : HubInUse κ σ} {capacity : Nat}
    {capability? : DeviceType → Option Capability} {rooms : RoomTable}
    (hnew : e.hub.registry = .new capacity capability? rooms)
    (confOf : Nat → κ → SubscriptionConf σ) (actions : List (HubAction κ σ)) :
    ∀ w ∈ states confOf actions e, ∀ (i j : Nat) (earlier later : Device), i < j →
      w.hub.registry.devices[i]? = some earlier → w.hub.registry.devices[j]? = some later →
        earlier.addr.sameDevice later.addr = false ∧
          (later.addr.isValid = false → earlier.addr.deviceType ≠ later.addr.deviceType) := by
  intro w hw i j earlier later hlt hearlier hlater
  have hbecomes := states_reached (registry_moves confOf) actions e w hw
  have hfirst : e.hub.registry.Distinguishes := by
    rw [hnew]
    exact List.Pairwise.nil
  have hprecludes := (hbecomes.distinguishes hfirst).precludes hlt hearlier hlater
  exact ⟨hprecludes.address, hprecludes.type⟩

/-- A thermometer on the bus, the board with its bus id, and the gateway's own board, whose address
cannot be compared. -/
theorem states_distinguished_mixed :
    ∃ hub : Hub Unit, Hub.new {} Builtin.capability? 0 = .ok hub ∧
      let run := states (fun _ (conf : SubscriptionConf Unit) => conf)
        [.operate (.register ⟨.xiaomiMijia, .bus ⟨24⟩⟩), .operate (.register (.bus ⟨24⟩)),
          .operate
            (.receive (.onBoard .nucleoF429zi) { bytes := [0, 0, 200, 65], timestamp := 0 })]
        (HubInUse.start hub ())
      ∃ w ∈ run, w.hub.registry.devices.map Device.addr =
          [⟨.xiaomiMijia, .bus ⟨24⟩⟩, .bus ⟨24⟩, .onBoard .nucleoF429zi] ∧
        ∀ (i j : Nat) (earlier later : Device), i < j →
          w.hub.registry.devices[i]? = some earlier → w.hub.registry.devices[j]? = some later →
            earlier.addr.sameDevice later.addr = false ∧
              (later.addr.isValid = false → earlier.addr.deviceType ≠ later.addr.deviceType) := by
  refine ⟨_, rfl, ?_⟩
  intro run
  have hlast := List.mem_of_getElem? (l := run) (i := 3) rfl
  exact ⟨_, hlast, rfl, states_distinguished rfl _ _ _ hlast⟩

end HubInUse

end HomeGateway
