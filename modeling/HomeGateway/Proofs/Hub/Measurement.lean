import Mathlib
import HomeGateway.Catalog.Bench
import HomeGateway.Feed
import HomeGateway.Proofs.Catalog.Thermometer
import HomeGateway.Proofs.Hub.Reception

/-!
A measurement of a thermometer, from the bytes of its record to who subscribed. The record goes to
the first device at the radio address, whatever its type, and the table of that type makes of the
bytes what it likes. Where thermometers and gateway boards have the tables that every gateway has,
only a thermometer takes a record, and its event tells just what the record says.
-/

namespace HomeGateway

variable {κ σ : Type}

/-- An event that tells what a record says, at the time of the record if it has one. -/
structure Event.Reports (event : Event) (r : ThermometerRecord) (now : UInt32) : Prop where
  kind : event.kind = .data
  timestamp : event.timestamp = if r.time = 0 then now else r.time
  measured : ∃ t, event.reading = some (.thermometer t) ∧ t.rssi.value = r.rssi ∧
    t.temperature.value = r.temperature ∧ t.humidity.value = r.humidity ∧
    t.battery.voltageMv = r.batteryMv ∧ t.battery.level = r.batteryLevel ∧
    ((∃ field ∈ t.table.fields, field.descr.dataType = .batteryLevel) ↔ r.batteryLevel ≠ 0)

/-- The payload that a record is fed as. -/
def ThermometerRecord.payload (r : ThermometerRecord) : Payload :=
  { bytes := r.toBytes, timestamp := r.time }

/-- A time of zero stands for now wherever it is read: in the record, in the payload, by the hub. -/
theorem Device.Makes.reports {d : Device} {r : ThermometerRecord} {now : UInt32} {endpoint : Nat}
    {event : Event} (h : d.Makes r.payload now Builtin.thermometer endpoint event) :
    event.Reports r now := by
  obtain ⟨decoded, hdecode, rfl⟩ := h.decoded
  rw [ThermometerRecord.payload, Builtin.thermometer_decode, Except.ok.injEq] at hdecode
  subst hdecode
  refine ⟨rfl, ?_, .ofRecord r, rfl, rfl, rfl, rfl, rfl, rfl, ThermometerReading.battery_listed _⟩
  by_cases hzero : r.time = 0 <;>
    simp [Device.measured, Payload.receivedAt, ThermometerRecord.payload, hzero]

/-! Who takes a record. -/

theorem DeviceAddr.thermometer_sameDevice_self (addr : BleAddr) :
    (ble .xiaomiMijia addr).sameDevice (ble .xiaomiMijia addr) = true := by
  simp [sameDevice, ble, isValid, comparator?, medium, MacAddr.medium, DeviceType.comparator?,
    Medium.comparator?, Comparator.designateSame]

/-- Only thermometers and gateway boards are looked up by radio address. -/
theorem Registry.type_of_answers {addr : BleAddr} {d : Device}
    (h : answers (.ble .xiaomiMijia addr) d = true) :
    d.addr.deviceType = .xiaomiMijia ∨ d.addr.deviceType = .nucleoF429zi := by
  have hsame : d.addr.sameDevice (.ble .xiaomiMijia addr) = true := h
  generalize d.addr = there at hsame ⊢
  obtain ⟨deviceType, mac⟩ := there
  cases deviceType <;> cases mac <;>
    simp_all [DeviceAddr.sameDevice, DeviceAddr.isValid, DeviceAddr.comparator?, DeviceAddr.medium,
      DeviceAddr.ble, MacAddr.medium, DeviceType.comparator?, Medium.comparator?,
      Comparator.designateSame]

/-- An endpoint that asks for a size gets payloads of that size only. -/
theorem Device.length_of_route {d : Device} {payload : Payload} {endpoint : Nat}
    {config : EndpointConfig} (h : d.route payload = .ok (endpoint, config))
    (hsize : config.payloadSize ≠ 0) : payload.bytes.length = config.payloadSize := by
  unfold Device.route at h
  split at h
  · cases h
  split at h
  · cases h
  split at h
  · cases h
  · rename_i hfits
    cases h
    by_contra hlength
    exact hfits ⟨hsize, hlength⟩

/-- What is sent to a device that was set up with a single endpoint goes there. -/
theorem Device.SetUpBy.config_of_route {d : Device} {capability : Capability}
    (h : d.SetUpBy capability) {only config : EndpointConfig} {payload : Payload} {endpoint : Nat}
    (honly : capability.setup d.addr = .endpoints [only])
    (hroute : d.route payload = .ok (endpoint, config)) : config = only := by
  have hconfigs := h.endpoints
  rw [honly, Setup.endpoints.injEq] at hconfigs
  have hconfig := (Device.route_lt hroute).1
  rw [Device.config?_eq, ← hconfigs] at hconfig
  cases endpoint with
  | zero => exact (Option.some.inj hconfig).symm
  | succ _ => cases hconfig

/-- The tables for what is looked up by radio address are those that every gateway has. -/
structure Builtin.OnRadio (tables : DeviceType → Option Capability) : Prop where
  thermometer : tables .xiaomiMijia = capability? .xiaomiMijia
  board : tables .nucleoF429zi = capability? .nucleoF429zi

/-- The record of a thermometer is too long for a gateway board. -/
theorem Registry.SetUp.takes_record {r : Registry} (h : r.SetUp)
    (hbuiltin : Builtin.OnRadio r.capability?) {addr : BleAddr} {d : Device} (hmem : d ∈ r.devices)
    (hanswers : answers (.ble .xiaomiMijia addr) d = true) {record : ThermometerRecord}
    {endpoint : Nat} {config : EndpointConfig}
    (hroute : d.route record.payload = .ok (endpoint, config)) : config = Builtin.thermometer := by
  obtain ⟨capability, hcapability, hsetUp⟩ := h d hmem
  rcases type_of_answers hanswers with htype | htype
  · rw [htype, hbuiltin.thermometer] at hcapability
    cases hcapability
    exact hsetUp.config_of_route rfl hroute
  · rw [htype, hbuiltin.board] at hcapability
    cases hcapability
    cases hsetUp.config_of_route rfl hroute
    -- The endpoint of a board asks for four bytes.
    have hlength := Device.length_of_route hroute (by decide)
    rw [ThermometerRecord.payload, ThermometerRecord.length_toBytes] at hlength
    cases hlength

namespace Hub

variable {hub : Hub σ} {addr : DeviceAddr} {payload : Payload} {a : Arrival} {d : Device}
  {config : EndpointConfig} {bounds : EventStore.Bounds} {outside : List EventRef}
  {slots : List Nat} {loans : List UInt64} {capacity : Nat}

/-- A device that takes a payload answers to the address, unless it joined at an address that does
not lead to it. -/
theorem Takes.answers (h : hub.Takes addr payload a d config)
    (hself : addr.sameDevice addr = true) : Registry.answers addr d = true := by
  have hresult := h.registered
  have hdevice := h.device
  rw [register_result] at hresult
  have hlocate := (Registry.locate?_register hresult).mpr (.inr hself)
  obtain ⟨found, hfound, hlookup⟩ := Registry.lookup?_of_locate? hlocate
  rw [register_registry, hfound, Option.some.injEq] at hdevice
  rw [← hdevice]
  exact Registry.answers_of_lookup? hlookup

/-- A payload that was taken at an address: who took it, how its event was dispatched, and what the
queues got of it. -/
structure Lands (hub : Hub σ) (addr : DeviceAddr) (payload : Payload) (client : σ) (matched : Nat)
    (a : Arrival) (d : Device) (config : EndpointConfig) : Prop where
  taken : hub.Takes addr payload a d config
  dispatched : let next := (hub.intake addr payload).2
    Exchange.Dispatched a.ref a.event next.exchange client (next.turns a client) matched
      (Exchange.publish a.ref next.exchange client).2
  /-- What is in a queue afterwards and was not before names the event. -/
  queued : let later := (hub.receive addr payload.bytes payload.timestamp client).2.1
    ∀ id, ∀ ref ∈ later.exchange.dispatcher.queue id,
      ref ∈ hub.exchange.dispatcher.queue id ∨
        ref = a.ref ∧ later.events.event? ref = some a.event

theorem receive_lands (h : hub.Accounts bounds outside slots loans)
    (htenured : hub.exchange.dispatcher.Tenured capacity) (payload : Payload) {client : σ}
    {matched : Nat}
    (hok : (hub.receive addr payload.bytes payload.timestamp client).1 = .ok matched) :
    ∃ a d config, hub.Lands addr payload client matched a d config := by
  obtain ⟨-, hrecalls, harrives⟩ := hub.receive_arrives addr payload client h
  obtain ⟨a, harrival⟩ := Option.isSome_iff_exists.mp (harrives.mpr ⟨matched, hok⟩)
  obtain ⟨-, -, -, -, d, config, htakes⟩ := intake_of_arrival? h harrival
  obtain ⟨⟨stored, hlive, hstored⟩, hdispatcher, hanswer, hlast⟩ :=
    receive_publishes h harrival client
  have hlater := h.receive addr payload.bytes payload.timestamp client
  rw [← hdispatcher] at htenured
  rw [hok, Except.ok.injEq] at hanswer
  have hdispatched := Exchange.publish_dispatched htenured hlive client
  rw [hstored, ← hanswer] at hdispatched
  refine ⟨a, d, config, htakes, hdispatched, ?_⟩
  intro later id ref href
  have hheld := List.mem_append_left later.registry.kept (Dispatcher.mem_queued_of_mem_queue href)
  obtain ⟨event, hevent⟩ := hlater.events.event?_held (List.mem_append_left outside hheld)
  -- A closed queue is empty, and an open one grew by the event at most.
  cases hopen : later.exchange.dispatcher.isOpen id with
  | true =>
    rw [hlast] at hopen href
    rw [hdispatched.queues id hopen, hdispatcher, List.mem_append] at href
    refine href.imp_right fun hnew => ?_
    have hnamed : ref = a.ref := by
      split at hnew
      · exact List.mem_singleton.mp hnew
      · cases hnew
    rw [hnamed] at hevent ⊢
    rw [hevent, (hrecalls a harrival).event event hevent]
    exact ⟨rfl, rfl⟩
  | false =>
    rw [hlater.ordered.queue_closed hopen] at href
    cases href

/-- A record that was taken at a radio address, and what its event tells. -/
structure Conveys (hub : Hub σ) (addr : BleAddr) (r : ThermometerRecord) (client : σ)
    (matched : Nat) (a : Arrival) (d : Device) (config : EndpointConfig) : Prop where
  lands : hub.Lands (.ble .xiaomiMijia addr) r.payload client matched a d config
  reports : config = Builtin.thermometer → a.event.Reports r hub.now
  builtin : Builtin.OnRadio hub.registry.capability? → config = Builtin.thermometer

theorem receiveRecord_conveys {addr : BleAddr} {r : ThermometerRecord} {client : σ} {matched : Nat}
    (h : hub.Accounts bounds outside slots loans)
    (htenured : hub.exchange.dispatcher.Tenured capacity) (hsetUp : hub.registry.SetUp)
    (hok : (hub.receiveRecord addr r client).1 = .ok matched) :
    ∃ a d config, hub.Conveys addr r client matched a d config := by
  obtain ⟨a, d, config, hlands⟩ := receive_lands h htenured r.payload hok
  have htakes := hlands.taken
  refine ⟨a, d, config, hlands, ?_, fun hbuiltin => ?_⟩
  · rintro rfl
    exact htakes.makes.reports
  · have hbecomes := hub.register_becomes (.ble .xiaomiMijia addr)
    have hmem := List.mem_of_getElem? htakes.device
    rw [← hbecomes.capability?_eq] at hbuiltin
    have hanswers := htakes.answers (DeviceAddr.thermometer_sameDevice_self addr)
    exact (hbecomes.setUp hsetUp).takes_record hbuiltin hmem hanswers htakes.makes.routed

end Hub

namespace HubInUse

/-- A record and its bytes are one and the same, and of what a new hub took, whatever clients did
before, every queue gets an event with just what the record says. Where a table of its own was
given to thermometers or to gateway boards, this holds as far as the endpoint that takes the record
is the one that every gateway has. -/
theorem states_reported {config : HubConfig} {capability? : DeviceType → Option Capability}
    {now : UInt32} {hub : Hub σ} (hnew : Hub.new config capability? now = .ok hub) (client : σ)
    (confOf : Nat → κ → SubscriptionConf σ) (actions : List (HubAction κ σ)) :
    (∀ r, ThermometerRecord.ofBytes? r.toBytes = some r) ∧
      (∀ bytes, (ThermometerRecord.ofBytes? bytes).isSome ↔ bytes.length = 12) ∧
      (∀ bytes r, ThermometerRecord.ofBytes? bytes = some r → r.toBytes = bytes) ∧
      ∀ e ∈ states confOf actions (HubInUse.start hub client),
        e.hub.registry.capability? = capability? ∧
          ∀ addr r matched, (e.hub.receiveRecord addr r e.client).1 = .ok matched →
            ∃ a d config, e.hub.Conveys addr r e.client matched a d config := by
  refine ⟨ThermometerRecord.ofBytes?_toBytes, ThermometerRecord.isSome_ofBytes?,
    fun _ _ => ThermometerRecord.toBytes_ofBytes?, fun e he => ?_⟩
  have haccounts := states_keep (accounts_kept confOf _) actions (start_accounts hnew client) e he
  have htenured := states_tenured hnew client confOf actions e he
  obtain ⟨hsetUp, htables⟩ := states_setUp (start_registry hnew client) confOf actions e he
  exact ⟨htables, fun addr r matched hok => Hub.receiveRecord_conveys haccounts htenured hsetUp hok⟩

/-- A cold day, told by a thermometer that does not know the time and has no charge to tell of. -/
theorem states_reported_frost :
    ∃ hub : Hub Unit, Hub.new {} Builtin.capability? 7 = .ok hub ∧
      let addr : BleAddr := ⟨#v[164, 193, 56, 0, 0, 1]⟩
      let r : ThermometerRecord :=
        { time := 0, rssi := -60, temperature := -1250, humidity := 8100, batteryMv := 2900,
          batteryLevel := 0 }
      let run := states (fun _ (conf : SubscriptionConf Unit) => conf)
        [.operate (.subscribe { criteria := {} })] (HubInUse.start hub ())
      ∃ e ∈ run, (e.hub.receiveRecord addr r ()).1 = .ok 1 ∧
        e.hub.exchange.dispatcher.queue 1 = [] ∧
        let later := (e.hub.receiveRecord addr r ()).2.1
        ∃ ref event, later.exchange.dispatcher.queue 1 = [ref] ∧
          later.events.event? ref = some event ∧ event.Reports r 7 := by
  refine ⟨_, rfl, ?_⟩
  intro addr r run
  have hlast := List.mem_of_getElem? (l := run) (i := 1) rfl
  obtain ⟨-, -, -, hconveys⟩ := @states_reported _ _ {} Builtin.capability? 7 _ rfl () _ _
  obtain ⟨a, d, config, hconveys⟩ := (hconveys _ hlast).2 addr r 1 rfl
  have hreports := hconveys.reports (hconveys.builtin ⟨rfl, rfl⟩)
  refine ⟨_, hlast, rfl, rfl, _, a.event, rfl, ?_, hreports⟩
  obtain hbefore | ⟨-, hevent⟩ := hconveys.lands.queued 1 0 (by decide +kernel)
  · cases hbefore
  · exact hevent

/-- A board with a table of its own is registered at the radio address of a thermometer. The record
goes to the board, and what is queued tells nothing of it. -/
theorem states_not_reported_by_board :
    ∃ hub : Hub Unit, Hub.new {}
        (fun
          | .nucleoF429zi => some (Bench.capability none [.flex] .first)
          | deviceType => Builtin.capability? deviceType) 7 = .ok hub ∧
      let addr : BleAddr := ⟨#v[164, 193, 56, 0, 0, 1]⟩
      let r : ThermometerRecord :=
        { time := 10, rssi := -60, temperature := 2000, humidity := 4500, batteryMv := 3000,
          batteryLevel := 90 }
      let run := states (fun _ (conf : SubscriptionConf Unit) => conf)
        [.operate (.register (.ble .nucleoF429zi addr)), .operate (.subscribe { criteria := {} })]
        (HubInUse.start hub ())
      ∃ e ∈ run, (e.hub.receiveRecord addr r ()).1 = .ok 1 ∧
        e.hub.exchange.dispatcher.queue 1 = [] ∧
        let later := (e.hub.receiveRecord addr r ()).2.1
        ∃ ref event, later.exchange.dispatcher.queue 1 = [ref] ∧
          later.events.event? ref = some event ∧ ¬ event.Reports r 7 := by
  refine ⟨_, rfl, ?_⟩
  intro addr r run
  have hlast := List.mem_of_getElem? (l := run) (i := 2) rfl
  refine ⟨_, hlast, rfl, rfl, _, _, rfl, rfl, ?_⟩
  rintro ⟨-, -, t, hreading, -⟩
  cases hreading

end HubInUse

end HomeGateway
