import Mathlib
import HomeGateway.Proofs.Device.Registry
import HomeGateway.Proofs.Hub.Run
import HomeGateway.Proofs.Statistics

/-!
The devices of a hub over whole runs. Whatever clients do, devices only join; they keep their
positions and their session ids, and whoever finds a device by its address finds it again. A
device that its own address does not lead to is the exception: it joins again and again.
-/

namespace HomeGateway

variable {κ σ : Type}

/-- A device that cannot join is counted by the reason. -/
theorem Registry.declare_error {r : Registry} {addr : DeviceAddr} {cause : RegistryError}
    (h : r.declare addr = .error (.error cause)) : ∃ t, cause.tally? = some t := by
  unfold Registry.declare at h
  split at h
  · cases h
    exact ⟨_, rfl⟩
  split at h
  · cases h
    exact ⟨_, rfl⟩
  split at h
  · cases h
  · cases h
    exact ⟨_, rfl⟩
  split at h
  · cases h
    exact ⟨_, rfl⟩
  split at h
  · cases h
    exact ⟨_, rfl⟩
  · cases h

namespace Hub

variable {hub : Hub σ} {addr : DeviceAddr} {payload : Payload} {client : σ}

/-! What becomes of the registry. -/

theorem register_registry (hub : Hub σ) (addr : DeviceAddr) :
    (hub.register addr).2.registry = (hub.registry.register addr hub.now).2 := by
  unfold Hub.register
  dsimp only
  split <;> rfl

theorem register_result (hub : Hub σ) (addr : DeviceAddr) :
    (hub.register addr).1 = (hub.registry.register addr hub.now).1 := by
  unfold Hub.register
  dsimp only
  split <;> rfl

theorem register_becomes (hub : Hub σ) (addr : DeviceAddr) :
    hub.registry.Becomes (hub.register addr).2.registry := by
  rw [register_registry]
  exact Registry.Becomes.refl.register addr hub.now

/-- Traffic is counted on the device. -/
theorem updateStats_becomes (hub : Hub σ) (index : Nat) (f : DeviceStats → DeviceStats) :
    hub.registry.Becomes
      (hub.updateDevice index fun d => { d with stats := f d.stats }).registry :=
  Registry.Becomes.refl.update index _ fun _ => rfl

theorem retain_becomes (hub : Hub σ) (index endpoint : Nat) (ref : EventRef) :
    hub.registry.Becomes (hub.retain index endpoint ref).registry := by
  have hkept : hub.registry.Becomes (hub.registry.update index fun d => d.retain endpoint ref) :=
    Registry.Becomes.refl.update index _ fun d => d.retain_asRegistered endpoint ref
  unfold Hub.retain
  dsimp only
  split
  · exact hkept
  · exact hkept

theorem absorb_becomes (hub : Hub σ) (index : Nat) (device : Device) (payload : Payload) :
    hub.registry.Becomes (hub.absorb index device payload).2.registry := by
  unfold Hub.absorb
  split
  · rename_i cause events hingest
    exact (hub.withEvents events).updateStats_becomes index fun stats => stats.fail cause
  · rename_i ref endpoint events hingest
    have hreceived := (hub.withEvents events).updateStats_becomes index
      fun stats => stats.receive payload.bytes.length
    dsimp only
    split
    · exact hreceived.trans (retain_becomes _ index endpoint ref)
    · exact hreceived

/-- All that can become of a payload on its way in. -/
theorem intake_cases (hub : Hub σ) (addr : DeviceAddr) (payload : Payload) :
    (∃ cause, (hub.register addr).1 = .error (.error cause) ∧
      hub.intake addr payload = (.error (.error (.registry cause)), (hub.register addr).2)) ∨
    ((hub.register addr).1 = .error .abort ∧
      hub.intake addr payload = (.error .abort, (hub.register addr).2)) ∨
    (∃ index device, (hub.register addr).1 = .ok index ∧
      (hub.register addr).2.registry.devices[index]? = some device ∧
      ∃ result next, (hub.register addr).2.absorb index device payload = (result, next) ∧
        hub.intake addr payload =
          (result.mapError fun cause => .error (.ingest cause), next)) := by
  have hresult := hub.register_result addr
  have hregistry := hub.register_registry addr
  unfold Hub.intake
  cases hregister : hub.register addr with
  | mk result known =>
    rw [hregister] at hresult hregistry
    rcases result with (cause | _) | index
    · exact .inl ⟨cause, rfl, rfl⟩
    · exact .inr (.inl ⟨rfl, rfl⟩)
    · obtain ⟨device, hdevice⟩ := Registry.register_ok hresult.symm
      rw [← hregistry] at hdevice
      refine .inr (.inr ⟨index, device, rfl, hdevice, ?_⟩)
      dsimp only
      rw [hdevice]
      dsimp only
      cases known.absorb index device payload with
      | mk result next => cases result <;> exact ⟨_, _, rfl, rfl⟩

/-- Once its device is registered, a payload leaves every device what it is. -/
theorem intake_registered (hub : Hub σ) (addr : DeviceAddr) (payload : Payload) :
    (hub.register addr).2.registry.Becomes (hub.intake addr payload).2.registry := by
  rcases hub.intake_cases addr payload with
    ⟨cause, -, hcase⟩ | ⟨-, hcase⟩ | ⟨index, device, -, -, result, next, habsorb, hcase⟩
  · rw [hcase]
    exact .refl
  · rw [hcase]
    exact .refl
  · have habsorbed := (hub.register addr).2.absorb_becomes index device payload
    rw [habsorb] at habsorbed
    rw [hcase]
    exact habsorbed

theorem intake_becomes (hub : Hub σ) (addr : DeviceAddr) (payload : Payload) :
    hub.registry.Becomes (hub.intake addr payload).2.registry :=
  (hub.register_becomes addr).trans (hub.intake_registered addr payload)

/-- A payload that fails is not dispatched. -/
theorem receive_error {bytes : List UInt8} {timestamp : UInt32} {halt : Halt Error}
    (h : (hub.receive addr bytes timestamp client).1 = .error halt) :
    (hub.intake addr { bytes, timestamp }).1 = .error halt ∧
      (hub.receive addr bytes timestamp client).2 =
        ((hub.intake addr { bytes, timestamp }).2, client) := by
  unfold Hub.receive at h ⊢
  cases hintake : hub.intake addr { bytes, timestamp } with
  | mk result next =>
    rw [hintake] at h
    cases result with
    | error cause =>
      cases h
      exact ⟨rfl, rfl⟩
    | ok made => cases h

/-- A dispatch leaves the devices alone. -/
theorem receive_registry (hub : Hub σ) (addr : DeviceAddr) (bytes : List UInt8)
    (timestamp : UInt32) (client : σ) :
    (hub.receive addr bytes timestamp client).2.1.registry =
      (hub.intake addr { bytes, timestamp }).2.registry := by
  unfold Hub.receive
  generalize hub.intake addr { bytes, timestamp } = taken
  obtain ⟨result, next⟩ := taken
  cases result <;> rfl

theorem receive_becomes (hub : Hub σ) (addr : DeviceAddr) (bytes : List UInt8)
    (timestamp : UInt32) (client : σ) :
    hub.registry.Becomes (hub.receive addr bytes timestamp client).2.1.registry := by
  rw [receive_registry]
  exact hub.intake_becomes addr { bytes, timestamp }

theorem report_registry (hub : Hub σ) (event : Event) :
    (hub.report event).2.registry = hub.registry := by
  unfold Hub.report
  split <;> rfl

theorem order_becomes (hub : Hub σ) (addr : DeviceAddr) (endpoint : Nat) (value : DataValue) :
    hub.registry.Becomes (hub.order addr endpoint value).2.2.registry := by
  unfold Hub.order
  split
  · exact .refl
  · rename_i index device hlookup
    split
    · rename_i frame assignment hencode
      rw [report_registry]
      exact hub.updateStats_becomes index fun stats => stats.send frame.length
    · rename_i cause hencode
      rw [report_registry]
      exact hub.updateStats_becomes index fun stats => stats.fail cause

theorem command_registry (hub : Hub σ) (addr : DeviceAddr) (endpoint : Nat) (value : DataValue)
    (client : σ) :
    (hub.command addr endpoint value client).2.1.registry =
      (hub.order addr endpoint value).2.2.registry := by
  unfold Hub.command
  generalize hub.order addr endpoint value = ordered
  obtain ⟨result, made, next⟩ := ordered
  cases made <;> rfl

theorem command_becomes (hub : Hub σ) (addr : DeviceAddr) (endpoint : Nat) (value : DataValue)
    (client : σ) : hub.registry.Becomes (hub.command addr endpoint value client).2.1.registry := by
  rw [command_registry]
  exact hub.order_becomes addr endpoint value

/-! What a registration that fails leaves behind. -/

/-- Nothing came of a registration but its counters: the one of all failures and the one of the
reason. -/
structure Refuses (hub : Hub σ) (cause : RegistryError) (next : Hub σ) : Prop where
  rest : next = hub.count fun _ => next.counters
  counted : ∃ reason, cause.tally? = some reason ∧
    hub.counters.Raised next.counters [.registrationsDropped, reason]

theorem register_refuses {cause : RegistryError}
    (h : (hub.register addr).1 = .error (.error cause)) :
    hub.Refuses cause (hub.register addr).2 := by
  rw [register_result] at h
  obtain ⟨hdeclare, hsame⟩ := Registry.register_error h
  obtain ⟨reason, hreason⟩ := Registry.declare_error hdeclare
  have hnext : (hub.register addr).2 = hub.count fun c => c.registrationFailed cause := by
    unfold Hub.register
    dsimp only
    rw [h, hsame]
  rw [hnext]
  exact ⟨rfl, reason, hreason, hub.counters.registrationFailed_raised hreason⟩

theorem receive_refuses {bytes : List UInt8} {timestamp : UInt32} {cause : RegistryError}
    (h : (hub.receive addr bytes timestamp client).1 = .error (.error (.registry cause))) :
    hub.Refuses cause (hub.receive addr bytes timestamp client).2.1 ∧
      (hub.receive addr bytes timestamp client).2.2 = client := by
  obtain ⟨hintake, hleft⟩ := receive_error h
  rw [hleft]
  rcases hub.intake_cases addr { bytes, timestamp } with
    ⟨other, hregister, hcase⟩ | ⟨-, hcase⟩ | ⟨index, device, -, -, result, next, -, hcase⟩
  · rw [hcase] at hintake ⊢
    cases hintake
    exact ⟨register_refuses hregister, rfl⟩
  · rw [hcase] at hintake
    cases hintake
  · rw [hcase] at hintake
    cases result with
    | error other => cases hintake
    | ok made => cases hintake

end Hub

namespace HubInUse

/-- Only devices that join, payloads and commands change the registry. -/
theorem operate_registry (confOf : Nat → κ → SubscriptionConf σ) (e : HubInUse κ σ)
    (operation : HubOperation κ) :
    (e.operate confOf operation).hub.registry =
      match operation with
      | .register addr => (e.hub.register addr).2.registry
      | .receive addr payload =>
        (e.hub.receive addr payload.bytes payload.timestamp e.client).2.1.registry
      | .command addr endpoint value => (e.hub.command addr endpoint value e.client).2.1.registry
      | _ => e.hub.registry := by
  cases operation with
  | register | receive | command | setClock | unsubscribe => rfl
  | subscribe conf =>
    simp only [HubInUse.operate, HubInUse.subscribe, Hub.subscribe]
    split <;> rfl
  | next id =>
    have hsame : (e.hub.next id).2.registry = e.hub.registry := rfl
    simp only [HubInUse.operate, HubInUse.next]
    generalize e.hub.next id = taken at hsame ⊢
    obtain ⟨ref, hub⟩ := taken
    cases ref with
    | none => exact hsame
    | some ref => exact hsame
  | latest | duplicate | letGo | publish | begin | reserve | attach | freeze | discard | repay =>
    simp only [HubInUse.operate, HubInUse.latest, HubInUse.duplicate, HubInUse.letGo,
      HubInUse.publish, HubInUse.begin, HubInUse.reserve, HubInUse.attach, HubInUse.freeze,
      HubInUse.discard, HubInUse.repay]
    split <;> rfl

/-- Every operation leaves devices where they are. -/
theorem operate_becomes (confOf : Nat → κ → SubscriptionConf σ) (e : HubInUse κ σ)
    (operation : HubOperation κ) :
    e.hub.registry.Becomes (e.operate confOf operation).hub.registry := by
  rw [operate_registry]
  cases operation with
  | register addr => exact e.hub.register_becomes addr
  | receive addr payload => exact e.hub.receive_becomes addr payload.bytes payload.timestamp e.client
  | command addr endpoint value => exact e.hub.command_becomes addr endpoint value e.client
  | _ => exact .refl

theorem registry_moves (confOf : Nat → κ → SubscriptionConf σ) :
    MovesBy confOf fun e later : HubInUse κ σ => e.hub.registry.Becomes later.hub.registry where
  refl _ := .refl
  trans := .trans
  operate := operate_becomes confOf
  pin _ _ := .refl
  unpin _ _ _ := .refl

/-- Whatever clients do, devices are set up by the tables that the registry was given. -/
theorem states_setUp {e : HubInUse κ σ} {capacity : Nat}
    {capability? : DeviceType → Option Capability} {rooms : RoomTable}
    (hnew : e.hub.registry = .new capacity capability? rooms)
    (confOf : Nat → κ → SubscriptionConf σ) (actions : List (HubAction κ σ)) :
    ∀ w ∈ states confOf actions e,
      w.hub.registry.SetUp ∧ w.hub.registry.capability? = capability? := by
  intro w hw
  have hbecomes := states_reached (registry_moves confOf) actions e w hw
  rw [hnew] at hbecomes
  exact ⟨hbecomes.setUp (.new capacity capability? rooms), hbecomes.capability?_eq⟩

/-- Session ids go by position, and who cannot join leaves a trace in the counters only. -/
structure Enrolled (e : HubInUse κ σ) (capacity : Nat) : Prop where
  session : ∀ i d, e.hub.registry.devices[i]? = some d → d.session.value.toNat = i + 1
  increasing : (e.hub.registry.devices.map fun d => d.session.value).Pairwise (· < ·)
  found : ∀ i, i + 1 < UInt32.size →
    e.hub.registry.findSession? ⟨UInt32.ofNat (i + 1)⟩ = e.hub.registry.devices[i]?
  within : e.hub.registry.devices.length ≤ capacity
  endpoints : ∀ d ∈ e.hub.registry.devices, d.endpoints.length = 1 ∨ d.endpoints.length = 2
  refused : ∀ addr cause, (e.hub.register addr).1 = .error (.error cause) →
    e.hub.Refuses cause (e.hub.register addr).2
  refusedData : ∀ addr bytes timestamp cause,
    (e.hub.receive addr bytes timestamp e.client).1 = .error (.error (.registry cause)) →
      e.hub.Refuses cause (e.hub.receive addr bytes timestamp e.client).2.1

/-- Devices join at the end only, and addresses stay with the devices they lead to. -/
structure Continues (e later : HubInUse κ σ) : Prop where
  devices : e.hub.registry.devices.map Device.asRegistered <+:
    later.hub.registry.devices.map Device.asRegistered
  settled : ∀ addr index d, e.hub.registry.lookup? addr = some (index, d) →
    ∃ kept, later.hub.registry.lookup? addr = some (index, kept) ∧
      kept.asRegistered = d.asRegistered

theorem enrolled_of_numbered {e : HubInUse κ σ} (h : e.hub.registry.Numbered) :
    e.Enrolled e.hub.registry.capacity where
  session := h.session
  increasing := h.increasing
  found _ hi := h.findSession?_eq hi
  within := h.within
  endpoints := h.endpoints
  refused _ _ hrefused := Hub.register_refuses hrefused
  refusedData _ _ _ _ hrefused := (Hub.receive_refuses hrefused).1

/-- Whatever clients do with a registry that was empty, its devices are numbered in every state on
the way, and stay as time goes on. -/
theorem states_enrolled {e : HubInUse κ σ} {capacity : Nat}
    {capability? : DeviceType → Option Capability} {rooms : RoomTable}
    (hnew : e.hub.registry = .new capacity capability? rooms) (hcapacity : capacity < UInt32.size)
    (confOf : Nat → κ → SubscriptionConf σ) (actions : List (HubAction κ σ)) :
    (∀ w ∈ states confOf actions e, w.Enrolled capacity) ∧
      (states confOf actions e).Pairwise Continues := by
  constructor
  · intro w hw
    have hbecomes := states_reached (registry_moves confOf) actions e w hw
    rw [hnew] at hbecomes
    have hnumbered := hbecomes.numbered hcapacity (Registry.new_numbered capacity capability? rooms)
    have hsame : w.hub.registry.capacity = capacity := hbecomes.extends.capacity
    rw [← hsame]
    exact enrolled_of_numbered hnumbered
  · refine (states_ordered (registry_moves confOf) actions e).imp ?_
    intro earlier later hbecomes
    exact ⟨hbecomes.extends.devices, fun _ _ _ hlookup => hbecomes.extends.lookup? hlookup⟩

/-- The gateway's own board joins by its data and is found again, an address without a type is
refused, and a visitor sees to it that a board on the bus joins. -/
theorem states_enrolled_visited :
    ∃ hub : Hub Unit, Hub.new { maxDevices := 2 } Builtin.capability? 0 = .ok hub ∧
      let run := states (fun _ conf => conf)
        [.operate (.receive (.onBoard .nucleoF429zi) { bytes := [0, 0, 200, 65], timestamp := 0 }),
          .operate (.register (.onBoard .nucleoF429zi)), .operate (.register .unknown),
          .survey {} 0 (fun _ _ => false) fun _ _ => [.operate (.register (.bus ⟨24⟩))]]
        (HubInUse.start hub ())
      (∀ w ∈ run, w.Enrolled 2) ∧ run.Pairwise Continues :=
  ⟨_, rfl, states_enrolled rfl (by decide) _ _⟩

end HubInUse

/-! Registering an address again. -/

/-- An address leads to a device, and to register it once more is to find it. -/
structure Hub.Settled (hub : Hub σ) (addr : DeviceAddr) (index : Nat) (d : Device) : Prop where
  found : ∃ kept, hub.registry.lookup? addr = some (index, kept) ∧
    kept.asRegistered = d.asRegistered
  again : hub.register addr = (.ok index, hub)

theorem Hub.settled_of_lookup? {hub : Hub σ} {addr : DeviceAddr} {index : Nat} {d kept : Device}
    (hlookup : hub.registry.lookup? addr = some (index, kept))
    (hsame : kept.asRegistered = d.asRegistered) : hub.Settled addr index d where
  found := ⟨kept, hlookup, hsame⟩
  again := by
    obtain ⟨hlocate, -⟩ := Registry.locate?_of_lookup? hlookup
    unfold Hub.register
    rw [Registry.register_known hlocate]

/-- A device that joins is found by its address if this designates it. -/
theorem Registry.locate?_enrol {r : Registry} {addr : DeviceAddr} {d : Device}
    (h : r.Joins addr d) :
    (r.enrol d).locate? addr =
      if addr.sameDevice addr then some r.devices.length else none := by
  have hunknown : r.devices.findIdx? (answers addr) = none := h.unknown
  simp only [Registry.locate?, Registry.enrol, List.findIdx?_append, hunknown, Option.none_or,
    List.findIdx?_singleton, answers_self h.address]
  split <;> simp

/-- Right after it was registered, an address leads to the device that it was given if it did so
before or designates itself, and not otherwise. -/
theorem Registry.locate?_register {r : Registry} {addr : DeviceAddr} {now : UInt32} {index : Nat}
    (h : (r.register addr now).1 = .ok index) :
    (r.register addr now).2.locate? addr = some index ↔
      (r.locate? addr).isSome ∨ addr.sameDevice addr := by
  rcases r.register_cases addr now with
    ⟨found, hlocate, hcase⟩ | ⟨halt, -, -, hcase⟩ | ⟨d, hjoins, hcase⟩
  · rw [hcase] at h ⊢
    cases h
    simp [hlocate]
  · rw [hcase] at h
    cases h
  · rw [hcase] at h ⊢
    cases h
    rw [locate?_enrol hjoins, hjoins.unknown]
    cases addr.sameDevice addr <;> simp

namespace HubInUse

/-- A registered address is settled for ever exactly if it led to a device before or designates
itself. -/
theorem register_settles_iff {e : HubInUse κ σ} {addr : DeviceAddr} {index : Nat}
    (hok : (e.hub.register addr).1 = .ok index) :
    ∃ d, (e.hub.register addr).2.registry.devices[index]? = some d ∧
      ((e.hub.registry.locate? addr).isSome ∨ addr.sameDevice addr ↔
        ∀ (confOf : Nat → κ → SubscriptionConf σ) (actions : List (HubAction κ σ)),
          ∀ w ∈ states confOf actions (e.register addr), w.hub.Settled addr index d) := by
  have hresult := hok
  rw [Hub.register_result] at hresult
  have hlocate := Registry.locate?_register hresult
  have hdevice := Registry.register_ok hresult
  rw [← Hub.register_registry] at hlocate hdevice
  obtain ⟨d, hdevice⟩ := hdevice
  refine ⟨d, hdevice, ?_⟩
  rw [← hlocate]
  constructor
  · intro hfound confOf actions w hw
    obtain ⟨found, hsame, hlookup⟩ := Registry.lookup?_of_locate? hfound
    rw [hdevice, Option.some.injEq] at hsame
    rw [← hsame] at hlookup
    have hbecomes := states_reached (registry_moves confOf) actions (e.register addr) w hw
    obtain ⟨kept, hkept, hkeeps⟩ := hbecomes.extends.lookup? hlookup
    exact Hub.settled_of_lookup? hkept hkeeps
  · intro hsettled
    obtain ⟨kept, hlookup, -⟩ :=
      (hsettled (fun _ _ => { criteria := {} }) [] (e.register addr) List.mem_cons_self).found
    exact (Registry.locate?_of_lookup? hlookup).1

/-- The gateway's own board is settled as soon as it is registered. -/
theorem register_settles_board :
    ∃ hub : Hub Unit, Hub.new {} Builtin.capability? 0 = .ok hub ∧
      let e : HubInUse Unit Unit := HubInUse.start hub ()
      let addr : DeviceAddr := .onBoard .nucleoF429zi
      addr.sameDevice addr ∧ ∃ d, (e.hub.register addr).2.registry.devices[0]? = some d ∧
        ((e.hub.registry.locate? addr).isSome ∨ addr.sameDevice addr ↔
          ∀ (confOf : Nat → Unit → SubscriptionConf Unit) (actions : List (HubAction Unit Unit)),
            ∀ w ∈ states confOf actions (e.register addr), w.hub.Settled addr 0 d) :=
  ⟨_, rfl, rfl, register_settles_iff rfl⟩

/-- A thermometer at an address on the bus joins, is not found, and joins once more. -/
theorem register_never_settles :
    ∃ hub : Hub Unit, Hub.new {} Builtin.capability? 0 = .ok hub ∧
      let addr : DeviceAddr := ⟨.xiaomiMijia, .bus ⟨24⟩⟩
      let (result, next) := hub.register addr
      result = .ok 0 ∧ next.registry.find? addr = none ∧
        (next.register addr).1 = .ok 1 ∧ (next.register addr).2.registry.devices.length = 2 :=
  ⟨_, rfl, rfl, rfl, rfl, rfl⟩

end HubInUse

end HomeGateway
