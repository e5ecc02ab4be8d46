import Mathlib
import HomeGateway.Proofs.Hub.Enrolment
import HomeGateway.Proofs.Pool

/-!
Payloads that become no event. What a payload took on its way in is given back wherever it
fails, and all that is left of it are marks of the failure: on the device, in the counters, and
in the peak of the budget if its bytes had been reserved.
-/

namespace HomeGateway

/-- Only the peak tells of bytes that were reserved and given back. -/
theorem Budget.release_reserve {budget next : Budget} {size : UInt64}
    (h : budget.reserve size = .ok next) :
    next.release size = { budget with peak := max budget.peak (budget.used + size) } := by
  rw [Budget.reserve_eq] at h
  split at h
  · cases h
    simp [Budget.release]
  · cases h

namespace EventStore

theorem freeSlot_takeSlot {store next : EventStore} {slot : Nat}
    (h : store.takeSlot = .ok (slot, next)) : next.freeSlot slot = store := by
  unfold takeSlot at h
  split at h
  · rename_i taken slots hacquire
    cases h
    unfold freeSlot
    rw [Pool.release_acquire hacquire]
  · cases h

/-- The store with the mark of a reservation that came to nothing. -/
def marked (store : EventStore) (size : UInt64) : EventStore :=
  { store with
    budget := { store.budget with peak := max store.budget.peak (store.budget.used + size) } }

theorem freeSlot_release_reserve {store begun paid : EventStore} {slot : Nat} {size : UInt64}
    (htake : store.takeSlot = .ok (slot, begun)) (hreserve : begun.reserve size = .ok paid) :
    { paid with budget := paid.budget.release size }.freeSlot slot = store.marked size := by
  have hstore := freeSlot_takeSlot htake
  unfold reserve at hreserve
  split at hreserve
  · rename_i budget hbudget
    cases hreserve
    subst hstore
    unfold marked freeSlot
    dsimp only
    rw [Budget.release_reserve hbudget]
  · cases hreserve

end EventStore

namespace Hub

variable {σ : Type} {hub : Hub σ} {addr : DeviceAddr} {payload : Payload} {client : σ}

/-- A payload that a decoder of the device refuses, after `size` bytes were reserved for it. -/
def Undecoded (device : Device) (payload : Payload) (cause : IngestError) (size : UInt64) : Prop :=
  ∃ endpoint config, device.route payload = .ok (endpoint, config) ∧ config.dataSize = size ∧
    config.decode payload = .error cause

/-- Whatever a payload fails at, the store is as before, but for the mark of a reservation. -/
theorem ingest_error {store next : EventStore} {device : Device} {now : UInt32}
    {cause : IngestError} (h : ingest store device payload now = (.error cause, next)) :
    next = store ∨ ∃ size, Undecoded device payload cause size ∧ next = store.marked size := by
  unfold ingest at h
  cases htake : store.takeSlot with
  | error _ =>
    rw [htake] at h
    cases h
    exact .inl rfl
  | ok taken =>
    obtain ⟨slot, begun⟩ := taken
    have hgiven : begun.freeSlot slot = store := EventStore.freeSlot_takeSlot htake
    rw [htake] at h
    dsimp only at h
    cases hroute : device.route payload with
    | error _ =>
      rw [hroute] at h
      cases h
      exact .inl hgiven
    | ok route =>
      obtain ⟨endpoint, config⟩ := route
      rw [hroute] at h
      dsimp only at h
      cases hreserve : begun.reserve config.dataSize with
      | error _ =>
        rw [hreserve] at h
        cases h
        exact .inl hgiven
      | ok paid =>
        rw [hreserve] at h
        dsimp only at h
        cases hdecode : config.decode payload with
        | error _ =>
          rw [hdecode] at h
          cases h
          exact .inr ⟨config.dataSize, ⟨endpoint, config, hroute, rfl, hdecode⟩,
            EventStore.freeSlot_release_reserve htake hreserve⟩
        | ok decoded =>
          rw [hdecode] at h
          cases h

/-- The device with the marks of a failure. -/
def failing (cause : IngestError) (d : Device) : Device :=
  { d with
    stats :=
      { d.stats with failed := d.stats.failed + 1, flags := d.stats.flags.union (.ofError cause) } }

/-- A payload of the device at `index`, which may just have joined, came to nothing. -/
structure Drops (hub : Hub σ) (addr : DeviceAddr) (payload : Payload) (cause : IngestError)
    (index : Nat) (next : Hub σ) : Prop where
  located : (hub.register addr).1 = .ok index
  /-- Slots, bytes, live events and subscriptions are as before. -/
  rest : next =
    { hub with
      registry := (hub.register addr).2.registry.update index (failing cause)
      exchange :=
        { hub.exchange with
          events :=
            { hub.events with
              budget := { hub.events.budget with peak := next.events.budget.peak } }
          counters := next.counters } }
  /-- What was there of devices is there, and only the one that failed is marked. -/
  devices : ∀ i d, hub.registry.devices[i]? = some d →
    next.registry.devices[i]? = some (if i = index then failing cause d else d)
  peak : next.events.budget.peak = hub.events.budget.peak ∨
    ∃ device size, (hub.register addr).2.registry.devices[index]? = some device ∧
      Undecoded device payload cause size ∧
      next.events.budget.peak = max hub.events.budget.peak (hub.events.budget.used + size)
  counted : hub.counters.Raised next.counters [.eventsDropped, .dataDropped, cause.tally]

/-- A registration that succeeds is not counted. -/
theorem register_rest {index : Nat} (h : (hub.register addr).1 = .ok index) :
    (hub.register addr).2 =
      { hub with registry := (hub.registry.register addr hub.now).2 } := by
  rw [register_result] at h
  unfold Hub.register
  dsimp only
  rw [h]

theorem absorb_error {index : Nat} {device : Device} {cause : IngestError} {next : Hub σ}
    (h : hub.absorb index device payload = (.error cause, next)) :
    ∃ events, (events = hub.events ∨
        ∃ size, Undecoded device payload cause size ∧ events = hub.events.marked size) ∧
      next = (hub.withEvents events).countFailure index cause false := by
  unfold Hub.absorb at h
  cases hingest : ingest hub.events device payload hub.now with
  | mk result events =>
    rw [hingest] at h
    cases result with
    | error other =>
      cases h
      exact ⟨events, ingest_error hingest, rfl⟩
    | ok made => cases h

/-- Devices that were there before somebody joined are there after. -/
theorem register_devices (hub : Hub σ) (addr : DeviceAddr) {i : Nat} {d : Device}
    (hd : hub.registry.devices[i]? = some d) :
    (hub.register addr).2.registry.devices[i]? = some d := by
  rw [register_registry]
  rcases hub.registry.register_cases addr hub.now with
    ⟨index, -, hcase⟩ | ⟨halt, -, -, hcase⟩ | ⟨device, -, hcase⟩
  · rwa [hcase]
  · rwa [hcase]
  · rw [hcase]
    simp only [Registry.enrol]
    rwa [List.getElem?_append_left (List.getElem?_eq_some_iff.mp hd).1]

theorem absorb_drops {index : Nat} {device : Device} {cause : IngestError} {next : Hub σ}
    (hregister : (hub.register addr).1 = .ok index)
    (hdevice : (hub.register addr).2.registry.devices[index]? = some device)
    (habsorb : (hub.register addr).2.absorb index device payload = (.error cause, next)) :
    hub.Drops addr payload cause index next := by
  obtain ⟨events, hevents, hnext⟩ := absorb_error habsorb
  have hknown := register_rest hregister
  have hsame : (hub.register addr).2.events = hub.events := by
    rw [hknown]
    rfl
  rw [hsame] at hevents
  have hregistry : next.registry = (hub.register addr).2.registry.update index (failing cause) := by
    rw [hnext]
    rfl
  have hcounters : next.counters = hub.counters.eventDropped cause false := by
    rw [hnext, hknown]
    rfl
  constructor
  · exact hregister
  · rw [hnext, hknown]
    rcases hevents with rfl | ⟨size, -, rfl⟩
    · rfl
    · rfl
  · intro i d hd
    rw [hregistry]
    simp only [Registry.update, List.getElem?_modify, hub.register_devices addr hd]
    by_cases hi : index = i <;> simp [hi, eq_comm]
  · rw [hnext]
    rcases hevents with rfl | ⟨size, hundecoded, rfl⟩
    · exact .inl rfl
    · exact .inr ⟨device, size, hdevice, hundecoded, rfl⟩
  · rw [hcounters]
    exact hub.counters.eventDropped_raised cause false

/-- How a payload fails: its device cannot join, or it is dropped. -/
inductive Fails (hub : Hub σ) (addr : DeviceAddr) (payload : Payload) :
    Error → Hub σ → Prop where
  | refused {cause : RegistryError} {next : Hub σ} (h : hub.Refuses cause next) :
    Fails hub addr payload (.registry cause) next
  | dropped {cause : IngestError} {index : Nat} {next : Hub σ}
    (h : hub.Drops addr payload cause index next) : Fails hub addr payload (.ingest cause) next

/-- A payload that fails leaves nothing behind but its marks, and nobody is asked or told. -/
theorem receive_fails {bytes : List UInt8} {timestamp : UInt32} {later : σ} {cause : Error}
    {next : Hub σ}
    (h : hub.receive addr bytes timestamp client = (.error (.error cause), next, later)) :
    hub.Fails addr { bytes, timestamp } cause next ∧ later = client := by
  obtain ⟨hintake, hleft⟩ := receive_error (congrArg Prod.fst h)
  rw [h] at hleft
  cases hleft
  refine ⟨?_, rfl⟩
  rcases hub.intake_cases addr { bytes, timestamp } with
    ⟨reason, hregister, hcase⟩ | ⟨-, hcase⟩ |
      ⟨index, device, hregister, hdevice, result, next, habsorb, hcase⟩
  · rw [hcase] at hintake ⊢
    cases hintake
    exact .refused (register_refuses hregister)
  · rw [hcase] at hintake
    cases hintake
  · rw [hcase] at hintake ⊢
    cases result with
    | error reason =>
      cases hintake
      exact .dropped (absorb_drops hregister hdevice habsorb)
    | ok made => cases hintake

/-- The gateway's own board reports no number: it joins, and its payload is dropped after bytes
were reserved for it. -/
theorem receive_fails_undecoded :
    ∃ (hub next : Hub Unit) (later : Unit), Hub.new {} Builtin.capability? 0 = .ok hub ∧
      hub.receive (.onBoard .nucleoF429zi) [0, 0, 192, 127] 0 () =
        (.error (.error (.ingest (.decode "invalid die temperature NaN"))), next, later) ∧
      hub.Fails (.onBoard .nucleoF429zi) { bytes := [0, 0, 192, 127], timestamp := 0 }
        (.ingest (.decode "invalid die temperature NaN")) next ∧ later = () :=
  ⟨_, _, _, rfl, rfl, receive_fails rfl⟩

end Hub

end HomeGateway
