import Mathlib
import HomeGateway.Proofs.Hub.Admission

/-!
How full a hub is when all is quiet. Its slots and bytes are then taken by what endpoints keep,
and by nothing else, so that this decides about the next payload. Nobody can make an endpoint
give up its event but by the next one: once every slot is kept, no payload is taken in any more.
-/

namespace HomeGateway

variable {κ σ : Type}

/-- Nothing is taken in, whatever it is and wherever it comes from. -/
def Hub.Rejects (hub : Hub σ) (client : σ) : Prop :=
  ∀ (addr : DeviceAddr) (payload : Payload),
    (hub.receive addr payload.bytes payload.timestamp client).1 =
    match (hub.register addr).1 with
    | .ok _ => .error (.error (.ingest .poolExhausted))
    | .error (.error cause) => .error (.error (.registry cause))
    | .error .abort => .error .abort

/-- A payload for an endpoint of the device at a position. -/
structure Parcel where
  addr : DeviceAddr
  payload : Payload
  device : Nat
  endpoint : Nat
  config : EndpointConfig

/-- Its address leads to the device, and the endpoint can decode it and is told to keep its latest
event. -/
def Registry.Reaches (r : Registry) (f : Parcel) : Prop :=
  ∃ d, r.lookup? f.addr = some (f.device, d) ∧ d.route f.payload = .ok (f.endpoint, f.config) ∧
    (∃ decoded, f.config.decode f.payload = .ok decoded) ∧ f.config.retains = true

theorem Device.route_of_same {d other : Device} (h : d.asRegistered = other.asRegistered)
    (payload : Payload) : d.route payload = other.route payload := by
  unfold route
  rw [select_of_same h]
  simp only [config?_of_same h]

theorem Registry.Extends.reaches {r next : Registry} {f : Parcel} (h : r.Extends next)
    (hreaches : r.Reaches f) : next.Reaches f := by
  obtain ⟨d, hlookup, hroute, hdecodes⟩ := hreaches
  obtain ⟨later, hlater, hsame⟩ := h.lookup? hlookup
  exact ⟨later, hlater, by rw [Device.route_of_same hsame, hroute], hdecodes⟩

namespace HubInUse

/-- Nothing is queued, and clients hold nothing. -/
structure Drained (e : HubInUse κ σ) : Prop where
  queues : ∀ s ∈ e.hub.exchange.dispatcher.known, s.queue = []
  handles : e.handles = []
  pins : e.pins = []
  builders : e.builders = []
  loans : e.loans = []

variable {e : HubInUse κ σ} {bounds : EventStore.Bounds}

theorem Drained.places (h : e.Drained) : e.places = e.hub.registry.kept := by
  have hqueued : e.hub.exchange.dispatcher.queued = [] := List.flatMap_eq_nil_iff.mpr h.queues
  simp [HubInUse.places, Hub.inside, hqueued, h.handles, h.pins]

/-- What is live is kept, each by one endpoint. -/
theorem Drained.refs_perm (h : e.Drained) (haccounts : e.Accounts bounds) :
    e.hub.events.refs.Perm e.hub.registry.kept := by
  have hlive := haccounts.live_perm
  rwa [h.places, haccounts.keptOnce.dedup] at hlive

/-- The bytes in use are those that endpoints charge for what they keep. -/
theorem Drained.leases_perm (h : e.Drained) (haccounts : e.Accounts bounds)
    (hcharged : e.hub.Charged) : e.hub.events.leases.Perm e.hub.registry.charges := by
  let leaseOf (ref : EventRef) : Option UInt64 := (e.hub.events.made? ref).bind Prod.snd
  have hleases : e.hub.events.leases = e.hub.events.refs.filterMap leaseOf := by
    rw [EventStore.refs, List.filterMap_map]
    apply List.filterMap_congr
    intro s hs
    simp [leaseOf, haccounts.events.made?_live hs, StoredEvent.made]
  have hcharges : e.hub.registry.charges = e.hub.registry.kept.filterMap leaseOf := by
    rw [Registry.kept_eq, List.filterMap_filterMap]
    apply List.filterMap_congr
    intro state hstate
    obtain ⟨i, p, hat⟩ := Registry.mem_endpoints.mp hstate
    cases hretained : state.retained with
    | none => simp [Endpoint.charge?, hretained]
    | some ref =>
      obtain ⟨event, hmade⟩ := hcharged i p state ref hat hretained
      simp [Endpoint.charge?, hretained, leaseOf, hmade]
  rw [hleases, hcharges]
  exact (h.refs_perm haccounts).filterMap leaseOf

/-- A payload that its endpoint can decode is taken in if there is a slot that is not kept, and room
beside what is kept for what the endpoint charges. -/
theorem Drained.admits_iff (h : e.Drained) (haccounts : e.Accounts bounds)
    (hcharged : e.hub.Charged) {addr : DeviceAddr} {payload : Payload} {index : Nat} {d : Device}
    {endpoint : Nat} {config : EndpointConfig} {decoded : Decoded}
    (hregister : (e.hub.register addr).1 = .ok index)
    (hdevice : (e.hub.register addr).2.registry.devices[index]? = some d)
    (hroute : d.route payload = .ok (endpoint, config))
    (hdecode : config.decode payload = .ok decoded) :
    (∃ matched, (e.hub.receive addr payload.bytes payload.timestamp e.client).1 = .ok matched) ↔
      e.hub.registry.kept.length < bounds.capacity ∧
        totalBytes e.hub.registry.charges + config.dataSize.toNat ≤ bounds.limit.toNat := by
  have hslots : e.hub.events.live.length = e.hub.registry.kept.length := by
    have hlength := (h.refs_perm haccounts).length_eq
    rwa [EventStore.refs, List.length_map] at hlength
  have hloans : e.unattached = [] := by simp [unattached, h.builders, h.loans]
  rw [← (Hub.receive_result hregister hdevice e.client).2,
    Hub.ingest_ok_iff haccounts.events hroute hdecode, hslots, hloans, List.append_nil,
    totalBytes_perm (h.leases_perm haccounts hcharged), h.builders]
  rfl

/-! A hub that keeps as many events as it has slots. -/

theorem Accounts.kept_le_live (h : e.Accounts bounds) :
    e.hub.registry.kept.length ≤ e.hub.events.live.length := by
  have hkept : e.hub.registry.kept.Subperm e.hub.events.refs := by
    refine List.subperm_of_subset h.keptOnce fun ref hkept => ?_
    exact (h.events.held ref).mp (List.mem_append_left _ (List.mem_append_right _ hkept))
  have hlength := hkept.length_le
  rwa [EventStore.refs, List.length_map] at hlength

theorem Accounts.kept_le (h : e.Accounts bounds) :
    e.hub.registry.kept.length ≤ bounds.capacity := by
  have hlive := h.kept_le_live
  have htaken := h.events.slotted.length
  rw [h.events.capacity, List.length_append, List.length_map] at htaken
  omega

theorem Accounts.rejects (h : e.Accounts bounds)
    (hfull : e.hub.registry.kept.length = bounds.capacity) (client : σ) :
    e.hub.Rejects client := by
  intro addr payload
  rcases e.hub.intake_cases addr payload with
    ⟨cause, hregister, hcase⟩ | ⟨hregister, hcase⟩ | ⟨index, device, hregister, hdevice, -⟩
  · rw [hregister]
    unfold Hub.receive
    rw [hcase]
  · rw [hregister]
    unfold Hub.receive
    rw [hcase]
  · rw [hregister]
    exact (Hub.receive_result hregister hdevice client).1 _
      (Hub.ingest_full device payload e.hub.now h.events
        (hfull.symm.le.trans (h.kept_le_live.trans (Nat.le_add_right _ _))))

/-- Only a payload that is taken in changes what is kept. -/
theorem operate_kept (confOf : Nat → κ → SubscriptionConf σ) (operation : HubOperation κ)
    (hrejects : e.hub.Rejects e.client) :
    (e.operate confOf operation).hub.registry.kept = e.hub.registry.kept := by
  rw [operate_registry]
  cases operation with
  | register addr =>
    dsimp only
    rw [Hub.register_registry, Registry.kept_register]
  | receive addr payload =>
    dsimp only
    have hknown : (e.hub.register addr).2.registry.kept = e.hub.registry.kept := by
      rw [Hub.register_registry, Registry.kept_register]
    have hresult := hrejects addr payload
    rw [Hub.receive_registry]
    unfold Hub.receive at hresult
    rcases e.hub.intake_cases addr payload with
      ⟨cause, -, hcase⟩ | ⟨-, hcase⟩ | ⟨index, device, hregister, -, result, next, habsorb, hcase⟩
    · rw [hcase]
      exact hknown
    · rw [hcase]
      exact hknown
    · rw [hcase] at hresult ⊢
      rw [hregister] at hresult
      cases result with
      | ok made => cases hresult
      | error cause =>
        obtain ⟨events, -, rfl⟩ := Hub.absorb_error habsorb
        exact (Registry.kept_update_same _ index
          (fun d => { d with stats := d.stats.fail cause }) fun _ => rfl).trans hknown
  | command addr endpoint value =>
    dsimp only
    rw [Hub.command_registry]
    rcases e.hub.order_cases addr endpoint value with
      ⟨-, hcase⟩ | ⟨-, result, known, event, bumps, -, hkept, -, hcase, -⟩
    · rw [hcase]
    · rw [hcase]
      dsimp only
      rw [Hub.report_registry, hkept]
  | _ => rfl

/-- For ever. -/
theorem full_kept (confOf : Nat → κ → SubscriptionConf σ) (bounds : EventStore.Bounds) :
    KeptBy confOf fun e : HubInUse κ σ =>
      e.Accounts bounds ∧ e.hub.registry.kept.length = bounds.capacity :=
  (accounts_kept confOf bounds).with_registry (fun r => r.kept.length = bounds.capacity)
    fun e operation haccounts hfull => by
      rw [operate_kept confOf operation (haccounts.rejects hfull e.client), hfull]

/-! How a hub gets there. -/

/-- What operations lead to is a state of the run of these operations. -/
theorem foldl_mem_states (confOf : Nat → κ → SubscriptionConf σ)
    (operations : List (HubOperation κ)) (e : HubInUse κ σ) :
    operations.foldl (HubInUse.operate confOf) e ∈
      states confOf (operations.map HubAction.operate) e := by
  induction operations generalizing e with
  | nil => exact List.mem_cons_self
  | cons operation rest ih => exact List.mem_cons_of_mem e (ih (e.operate confOf operation))

/-- Nobody is subscribed, and clients hold nothing. -/
structure Idle (e : HubInUse κ σ) : Prop where
  listed : e.hub.exchange.dispatcher.listed = []
  handles : e.handles = []
  pins : e.pins = []
  builders : e.builders = []
  loans : e.loans = []

theorem Idle.drained (h : e.Idle) (haccounts : e.Accounts bounds) : e.Drained where
  queues s hs := by
    refine haccounts.ordered.emptied s hs ?_
    by_contra hopen
    have hlisted := haccounts.ordered.mem_listed hs (by simpa using hopen)
    rw [h.listed] at hlisted
    cases hlisted
  handles := h.handles
  pins := h.pins
  builders := h.builders
  loans := h.loans

end HubInUse

/-- Nobody listens to an event. -/
theorem Exchange.publish_unlisted {x : Exchange σ} (ref : EventRef) (client : σ)
    (hlisted : x.dispatcher.listed = []) : Exchange.publish ref x client = (0, x, client) := by
  unfold Exchange.publish
  rw [hlisted]
  split <;> rfl

namespace Hub

variable {hub : Hub σ} {bounds : EventStore.Bounds} {outside : List EventRef} {slots : List Nat}
  {loans : List UInt64}

/-- A payload of a known device that is taken in is kept by its endpoint, if that is told to. -/
theorem receive_retains {addr : DeviceAddr} {payload : Payload} {client : σ} {index matched : Nat}
    {d : Device} {endpoint : Nat} {config : EndpointConfig}
    (h : hub.Accounts bounds outside slots loans)
    (hlookup : hub.registry.lookup? addr = some (index, d))
    (hroute : d.route payload = .ok (endpoint, config)) (hretains : config.retains = true)
    (hok : (hub.receive addr payload.bytes payload.timestamp client).1 = .ok matched) :
    ∃ events ref, (hub.receive addr payload.bytes payload.timestamp client).2.1.registry =
      (hub.credited events index payload).registry.update index fun d => d.retain endpoint ref := by
  have hknown : hub.register addr = (.ok index, hub) := (settled_of_lookup? hlookup rfl).again
  have hdevice := (Registry.locate?_of_lookup? hlookup).2
  rw [receive_registry]
  unfold Hub.receive at hok
  rcases hub.intake_cases addr payload with
    ⟨cause, hregister, -⟩ | ⟨hregister, -⟩ |
      ⟨i, device, hregister, hfound, result, next, habsorb, hcase⟩
  · rw [hknown] at hregister
    cases hregister
  · rw [hknown] at hregister
    cases hregister
  · rw [hknown] at hregister hfound habsorb
    cases hregister
    cases hdevice.symm.trans hfound
    rw [hcase] at hok ⊢
    cases result with
    | error cause => cases hok
    | ok made =>
      obtain ⟨ref, retained⟩ := made
      obtain ⟨routed, events, hingest, hkeeps, hnext⟩ := absorb_ok habsorb
      obtain ⟨other, event, hmakes, -, -⟩ := ingest_made h.events hingest
      cases hroute.symm.trans hmakes.routed
      rw [(Device.route_lt hroute).1, Option.any_some, hretains] at hkeeps
      rw [hkeeps, if_pos rfl] at hnext
      refine ⟨events, ref, ?_⟩
      rw [hnext, retain_registry]

theorem receive_unlisted (addr : DeviceAddr) (payload : Payload) (client : σ)
    (hlisted : hub.exchange.dispatcher.listed = []) :
    (hub.receive addr payload.bytes payload.timestamp client).2.1.exchange.dispatcher.listed =
      [] := by
  have hsame := hub.intake_dispatcher addr payload
  unfold Hub.receive
  generalize hub.intake addr payload = taken at hsame ⊢
  obtain ⟨result, next⟩ := taken
  rw [← hsame] at hlisted
  cases result with
  | error halt => exact hlisted
  | ok made =>
    unfold Hub.dispatch
    dsimp only
    rw [Exchange.publish_unlisted made.1 client hlisted]
    exact hlisted

end Hub

namespace HubInUse

variable {e : HubInUse κ σ} {bounds : EventStore.Bounds}

/-- An endpoint that kept nothing is fed, while nobody listens. -/
structure Fed (e : HubInUse κ σ) (f : Parcel) (later : HubInUse κ σ) : Prop where
  idle : later.Idle
  kept : later.hub.registry.kept.length = e.hub.registry.kept.length + 1
  charges : totalBytes later.hub.registry.charges =
    totalBytes e.hub.registry.charges + f.config.dataSize.toNat
  others : ∀ i p, (i, p) ≠ (f.device, f.endpoint) →
    later.hub.registry.retainedAt i p = e.hub.registry.retainedAt i p

theorem Idle.feed (h : e.Idle) (haccounts : e.Accounts bounds) (hcharged : e.hub.Charged)
    {f : Parcel} (hreaches : e.hub.registry.Reaches f)
    (hfree : e.hub.registry.retainedAt f.device f.endpoint = none)
    (hslots : e.hub.registry.kept.length < bounds.capacity)
    (hbytes : totalBytes e.hub.registry.charges + f.config.dataSize.toNat ≤ bounds.limit.toNat) :
    e.Fed f (e.receive f.addr f.payload) := by
  obtain ⟨d, hlookup, hroute, ⟨decoded, hdecode⟩, hretains⟩ := hreaches
  have hdevice := (Registry.locate?_of_lookup? hlookup).2
  have hknown : e.hub.register f.addr = (.ok f.device, e.hub) :=
    (Hub.settled_of_lookup? hlookup rfl).again
  obtain ⟨matched, hok⟩ := ((h.drained haccounts).admits_iff haccounts hcharged (by rw [hknown])
    (by rwa [hknown]) hroute hdecode).mpr ⟨hslots, hbytes⟩
  obtain ⟨events, ref, hregistry⟩ :=
    Hub.receive_retains haccounts hlookup hroute hretains hok
  obtain ⟨hconfig, hendpoint⟩ := Device.route_lt hroute
  have hcredited := Hub.credited_device events hdevice f.payload
  obtain ⟨state, hstate, hstateConfig⟩ := Option.map_eq_some_iff.mp hconfig
  obtain ⟨before, after, hsplit, hchanged⟩ := Registry.endpoints_retain ref hcredited hstate
  have hsame : (e.hub.credited events f.device f.payload).registry.endpoints =
      e.hub.registry.endpoints :=
    e.hub.registry.endpoints_update_same f.device
      (f := fun d => { d with stats := d.stats.receive f.payload.bytes.length }) fun _ => rfl
  rw [hsame] at hsplit
  rw [← hregistry] at hchanged
  have hnone : state.retained = none := by
    rw [Registry.retainedAt_of_device hdevice, Device.retained?, hstate] at hfree
    exact hfree
  change (e.receive f.addr f.payload).hub.registry.endpoints = _ at hchanged
  constructor
  · exact ⟨Hub.receive_unlisted f.addr f.payload e.client h.listed, h.handles, h.pins, h.builders,
      h.loans⟩
  · rw [Registry.kept_eq, Registry.kept_eq, hsplit, hchanged]
    simp [hnone]
    omega
  · unfold Registry.charges
    rw [hsplit, hchanged]
    simp [Endpoint.charge?, hnone, hstateConfig]
    omega
  · intro i p hother
    change (e.hub.receive f.addr f.payload.bytes f.payload.timestamp
      e.client).2.1.registry.retainedAt i p = _
    rw [hregistry, Registry.retain_retainedAt ref hcredited hendpoint, if_neg,
      Hub.credited_retainedAt]
    rintro ⟨rfl, rfl⟩
    exact hother rfl

/-- Parcels for endpoints that keep nothing fill a hub that has room for them. -/
theorem Idle.fill (confOf : Nat → κ → SubscriptionConf σ) (parcels : List Parcel) (h : e.Idle)
    (haccounts : e.Accounts bounds) (hcharged : e.hub.Charged)
    (hreaches : ∀ f ∈ parcels, e.hub.registry.Reaches f)
    (hfree : ∀ f ∈ parcels, e.hub.registry.retainedAt f.device f.endpoint = none)
    (hdistinct : (parcels.map fun f => (f.device, f.endpoint)).Nodup)
    (hmany : bounds.capacity ≤ e.hub.registry.kept.length + parcels.length)
    (hbytes : totalBytes e.hub.registry.charges +
      totalBytes (parcels.map fun f => f.config.dataSize) ≤ bounds.limit.toNat) :
    ∃ operations : List (HubOperation κ),
      (operations.foldl (HubInUse.operate confOf) e).hub.registry.kept.length =
        bounds.capacity := by
  induction parcels generalizing e with
  | nil => exact ⟨[], Nat.le_antisymm haccounts.kept_le hmany⟩
  | cons f rest ih =>
    rcases Nat.eq_or_lt_of_le haccounts.kept_le with hfull | hslots
    · exact ⟨[], hfull⟩
    rw [List.map_cons, totalBytes_cons] at hbytes
    rw [List.map_cons, List.nodup_cons] at hdistinct
    have hfed := h.feed haccounts hcharged (hreaches f List.mem_cons_self)
      (hfree f List.mem_cons_self) hslots (by omega)
    obtain ⟨hlater, hlaterCharged⟩ :=
      (charged_kept confOf bounds).operate e (.receive f.addr f.payload) ⟨haccounts, hcharged⟩
    have hextends := (e.operate_becomes confOf (.receive f.addr f.payload)).extends
    obtain ⟨operations, hoperations⟩ := ih hfed.idle hlater hlaterCharged
      (fun g hg => hextends.reaches (hreaches g (List.mem_cons_of_mem f hg)))
      (fun g hg => by
        have hother : (g.device, g.endpoint) ≠ (f.device, f.endpoint) := fun heq =>
          hdistinct.1 (heq ▸ List.mem_map_of_mem (f := fun f => (f.device, f.endpoint)) hg)
        rw [hfed.others _ _ hother]
        exact hfree g (List.mem_cons_of_mem f hg))
      hdistinct.2
      (by
        rw [List.length_cons] at hmany
        rw [hfed.kept]
        omega)
      (by
        rw [hfed.charges]
        omega)
    exact ⟨.receive f.addr f.payload :: operations, hoperations⟩

end HubInUse

/-- Who is closed is off the list. -/
theorem Exchange.unsubscribe_listed {x : Exchange σ} (h : x.dispatcher.Ordered) (id : Nat) :
    (x.unsubscribe id).dispatcher.listed = x.dispatcher.listed.filter fun other => other ≠ id := by
  cases hopen : x.dispatcher.isOpen id with
  | true =>
    unfold Dispatcher.isOpen at hopen
    split at hopen
    · rename_i s hfind
      unfold Exchange.unsubscribe
      rw [hfind]
      simp only [hopen]
      rfl
    · cases hopen
  | false =>
    rw [Exchange.unsubscribe_closed hopen]
    symm
    rw [List.filter_eq_self]
    intro other hother
    rw [h.listed] at hother
    obtain ⟨s, hs, rfl⟩ := List.mem_map.mp hother
    obtain ⟨hknown, hsopen⟩ := List.mem_filter.mp hs
    have hfind := Dispatcher.find?_eq_some h.distinct hknown
    rw [decide_eq_true_eq]
    rintro rfl
    rw [Dispatcher.isOpen, hfind] at hopen
    exact Bool.false_ne_true (hopen.symm.trans hsopen)

/-! The built-in endpoints, of which a device has one. -/

/-- An endpoint that keeps its latest event, charges something for it and can decode some payload. -/
structure EndpointConfig.Collects (config : EndpointConfig) : Prop where
  retains : config.retains = true
  charges : config.dataSize ≠ 0
  decodes : ∃ payload decoded, payload.bytes.length = config.payloadSize ∧
    config.decode payload = .ok decoded

namespace Builtin

theorem thermometer_collects : thermometer.Collects where
  retains := rfl
  charges := by decide
  decodes := ⟨{ bytes := List.replicate 12 0, timestamp := 0 }, _, rfl, rfl⟩

theorem die_collects : die.Collects where
  retains := rfl
  charges := by decide
  decodes := ⟨{ bytes := List.replicate 4 0, timestamp := 0 }, _, rfl, rfl⟩

theorem board_collects (cls : UInt8) : (board cls).Collects where
  retains := rfl
  charges := by
    change (18 : UInt64) ≠ 0
    decide
  decodes := ⟨{ bytes := List.replicate 8 0, timestamp := 0 }, _, rfl, rfl⟩

theorem setup_collects {deviceType : DeviceType} {capability : Capability} {addr : DeviceAddr}
    {configs : List EndpointConfig} (hcapability : capability? deviceType = some capability)
    (hsetup : capability.setup addr = .endpoints configs) :
    (∀ payload, capability.select payload = some 0) ∧
      ∃ config, configs = [config] ∧ config.Collects := by
  cases deviceType with
  | none => cases hcapability
  | xiaomiMijia =>
    cases hcapability
    cases hsetup
    exact ⟨fun _ => rfl, _, rfl, thermometer_collects⟩
  | nucleoF429zi =>
    cases hcapability
    cases hsetup
    exact ⟨fun _ => rfl, _, rfl, die_collects⟩
  | caniot =>
    cases hcapability
    refine ⟨fun _ => rfl, ?_⟩
    change boardSetup addr = .endpoints configs at hsetup
    unfold boardSetup at hsetup
    split at hsetup
    · split at hsetup
      · cases hsetup
      · split at hsetup
        · rename_i config hrow
          cases hsetup
          obtain ⟨cls, -, rfl⟩ := List.mem_map.mp (List.mem_of_getElem? hrow)
          exact ⟨_, rfl, board_collects cls⟩
        · cases hsetup
    · cases hsetup

end Builtin

namespace Registry

variable {r : Registry}

theorem SetUp.collects (h : r.SetUp) (htables : r.capability? = Builtin.capability?) {d : Device}
    (hd : d ∈ r.devices) :
    (∀ payload, d.select payload = some 0) ∧
      ∃ config, d.endpoints.map Endpoint.config = [config] ∧ config.Collects := by
  obtain ⟨capability, hcapability, hsetUp⟩ := h d hd
  rw [htables] at hcapability
  rw [hsetUp.select]
  exact Builtin.setup_collects hcapability hsetUp.endpoints

theorem SetUp.dataSize_ne_zero (h : r.SetUp) (htables : r.capability? = Builtin.capability?) :
    ∀ p ∈ r.endpoints, p.config.dataSize ≠ 0 := by
  intro p hp
  obtain ⟨d, hd, hin⟩ := List.mem_flatMap.mp hp
  obtain ⟨-, config, hconfigs, hcollects⟩ := h.collects htables hd
  have hmem : p.config ∈ d.endpoints.map Endpoint.config := List.mem_map_of_mem hin
  rw [hconfigs, List.mem_singleton] at hmem
  rw [hmem]
  exact hcollects.charges

/-- Whoever has a built-in endpoint can be fed under an address that leads there. -/
theorem SetUp.reaches (h : r.SetUp) (htables : r.capability? = Builtin.capability?)
    {addr : DeviceAddr} {index endpoint : Nat} {d : Device} {p : Endpoint}
    (hlookup : r.lookup? addr = some (index, d)) (hendpoint : d.endpoints[endpoint]? = some p) :
    ∃ payload, r.Reaches ⟨addr, payload, index, endpoint, p.config⟩ := by
  have hd := List.mem_of_getElem? (locate?_of_lookup? hlookup).2
  obtain ⟨hselect, config, hconfigs, hcollects⟩ := h.collects htables hd
  obtain ⟨payload, decoded, hlength, hdecode⟩ := hcollects.decodes
  have hconfig : [config][endpoint]? = some p.config := by
    rw [← hconfigs, List.getElem?_map, hendpoint, Option.map_some]
  obtain ⟨hfirst, hsame⟩ := List.getElem?_eq_some_iff.mp hconfig
  obtain rfl : endpoint = 0 := by simpa using hfirst
  obtain rfl : config = p.config := hsame
  have hroute : d.route payload = .ok (0, p.config) := by
    unfold Device.route
    rw [hselect]
    simp [Device.config?, hendpoint, hlength]
  exact ⟨payload, d, hlookup, hroute, ⟨decoded, hdecode⟩, hcollects.retains⟩

end Registry

namespace HubInUse

variable {e : HubInUse κ σ} {bounds : EventStore.Bounds}

/-- A hub whose clients hold nothing can be left without subscriptions. -/
theorem exists_idle (confOf : Nat → κ → SubscriptionConf σ) (ids : List Nat)
    (haccounts : e.Accounts bounds) (hhandles : e.handles = []) (hpins : e.pins = [])
    (hbuilders : e.builders = []) (hloans : e.loans = [])
    (hlisted : ∀ id ∈ e.hub.exchange.dispatcher.listed, id ∈ ids) :
    ∃ operations : List (HubOperation κ),
      (operations.foldl (HubInUse.operate confOf) e).Idle ∧
        (operations.foldl (HubInUse.operate confOf) e).hub.registry = e.hub.registry := by
  induction ids generalizing e with
  | nil =>
    have hnone := List.eq_nil_iff_forall_not_mem.mpr fun id hid => by cases hlisted id hid
    exact ⟨[], ⟨hnone, hhandles, hpins, hbuilders, hloans⟩, rfl⟩
  | cons id rest ih =>
    have hfewer : ∀ other ∈ (e.hub.unsubscribe id).exchange.dispatcher.listed, other ∈ rest := by
      intro other hother
      change other ∈ (e.hub.exchange.unsubscribe id).dispatcher.listed at hother
      rw [Exchange.unsubscribe_listed haccounts.ordered, List.mem_filter, decide_eq_true_eq]
        at hother
      exact (List.mem_cons.mp (hlisted other hother.1)).resolve_left hother.2
    obtain ⟨operations, hidle, hregistry⟩ := ih
      (haccounts.operate confOf (.unsubscribe id)) hhandles hpins hbuilders hloans hfewer
    exact ⟨.unsubscribe id :: operations, hidle, hregistry⟩

/-- What becomes of payloads, now and later. -/
structure Admits (confOf : Nat → κ → SubscriptionConf σ) (config : HubConfig) (e : HubInUse κ σ) :
    Prop where
  /-- A drained hub takes in what it has a slot and room for, beside what is kept. -/
  drained : e.Drained → ∀ (addr : DeviceAddr) (payload : Payload) (index : Nat) (d : Device)
    (endpoint : Nat) (target : EndpointConfig) (decoded : Decoded),
    (e.hub.register addr).1 = .ok index →
    (e.hub.register addr).2.registry.devices[index]? = some d →
    d.route payload = .ok (endpoint, target) → target.decode payload = .ok decoded →
      ((∃ matched, (e.hub.receive addr payload.bytes payload.timestamp e.client).1 =
          .ok matched) ↔
        e.hub.registry.kept.length < config.maxEvents.toNat ∧
          totalBytes e.hub.registry.charges + target.dataSize.toNat ≤
            config.dataHeapLimit.toNat)
  /-- Whoever keeps every slot keeps it for ever, and nothing is taken in any more. -/
  full : e.hub.registry.kept.length = config.maxEvents.toNat →
    ∀ more, ∀ later ∈ states confOf more e,
      later.hub.registry.kept.length = config.maxEvents.toNat ∧ later.hub.Rejects later.client
  /-- It comes to that if there are enough endpoints that can be fed, and room for all they
  charge. -/
  fills : e.Drained → ∀ parcels : List Parcel,
    (∀ f ∈ parcels, e.hub.registry.Reaches f) →
    (∀ f ∈ parcels, e.hub.registry.retainedAt f.device f.endpoint = none) →
    (parcels.map fun f => (f.device, f.endpoint)).Nodup →
    config.maxEvents.toNat ≤ e.hub.registry.kept.length + parcels.length →
    totalBytes e.hub.registry.charges + totalBytes (parcels.map fun f => f.config.dataSize) ≤
      config.dataHeapLimit.toNat →
      ∃ more, ∃ later ∈ states confOf more e,
        later.hub.registry.kept.length = config.maxEvents.toNat
  /-- With the built-in tables, every endpoint of a device that an address leads to can be fed. -/
  reaches : e.hub.registry.capability? = Builtin.capability? →
    ∀ (addr : DeviceAddr) (index endpoint : Nat) (d : Device) (p : Endpoint),
      e.hub.registry.lookup? addr = some (index, d) → d.endpoints[endpoint]? = some p →
        ∃ payload, e.hub.registry.Reaches ⟨addr, payload, index, endpoint, p.config⟩

theorem Accounts.admits {config : HubConfig}
    (haccounts : e.Accounts ⟨config.maxEvents.toNat, config.dataHeapLimit⟩)
    (hcharged : e.hub.Charged) (hsetUp : e.hub.registry.SetUp)
    (confOf : Nat → κ → SubscriptionConf σ) : e.Admits confOf config where
  drained h _ _ _ _ _ _ _ hregister hdevice hroute hdecode :=
    h.admits_iff haccounts hcharged hregister hdevice hroute hdecode
  full hfull more later hlater := by
    obtain ⟨hbooks, hkept⟩ :=
      states_keep (full_kept confOf _) more ⟨haccounts, hfull⟩ later hlater
    exact ⟨hkept, hbooks.rejects hkept later.client⟩
  fills h parcels hreaches hfree hdistinct hmany hbytes := by
    obtain ⟨closings, hidle, hregistry⟩ := exists_idle confOf _ haccounts h.handles h.pins
      h.builders h.loans fun id hid => hid
    obtain ⟨hbooks, hcharges⟩ := states_keep (charged_kept confOf _) _ ⟨haccounts, hcharged⟩ _
      (foldl_mem_states confOf closings e)
    rw [← hregistry] at hreaches hfree hmany hbytes
    obtain ⟨feedings, hfull⟩ :=
      hidle.fill confOf parcels hbooks hcharges hreaches hfree hdistinct hmany hbytes
    rw [← List.foldl_append] at hfull
    exact ⟨_, _, foldl_mem_states confOf (closings ++ feedings) e, hfull⟩
  reaches htables _ _ _ _ _ hlookup hendpoint := hsetUp.reaches htables hlookup hendpoint

/-- In every state of a run, what is kept decides what a drained hub takes in. Once every slot is
kept, nothing is taken in for ever. -/
theorem states_admitting {config : HubConfig} {capability? : DeviceType → Option Capability}
    {now : UInt32} {hub : Hub σ} (hnew : Hub.new config capability? now = .ok hub) (client : σ)
    (confOf : Nat → κ → SubscriptionConf σ) (actions : List (HubAction κ σ)) :
    ∀ w ∈ states confOf actions (start hub client), w.Admits confOf config := by
  intro w hw
  obtain ⟨haccounts, hcharged⟩ :=
    states_keep (charged_kept confOf _) actions (start_charged hnew client) w hw
  obtain ⟨hsetUp, -⟩ := states_setUp (start_registry hnew client) confOf actions w hw
  exact haccounts.admits hcharged hsetUp confOf

/-- The gateway's own board is fed once, and keeps the only slot. -/
theorem states_admitting_single :
    ∃ hub : Hub Unit, Hub.new { maxEvents := 1 } Builtin.capability? 0 = .ok hub ∧
      let run := states (fun _ conf => conf)
        [.operate (.receive (.onBoard .nucleoF429zi) { bytes := [0, 0, 200, 65], timestamp := 0 })]
        (HubInUse.start hub ())
      run.map (fun w => w.hub.registry.kept.length) = [0, 1] ∧
        ∀ w ∈ run, w.Admits (fun _ conf => conf) { maxEvents := 1 } :=
  ⟨_, rfl, rfl, states_admitting rfl () _ _⟩

/-- Where there is no room at all, nothing is kept that is charged for. -/
theorem Accounts.kept_eq_nil (haccounts : e.Accounts bounds) (hcharged : e.hub.Charged)
    (hlimit : bounds.limit = 0) (hsizes : ∀ p ∈ e.hub.registry.endpoints, p.config.dataSize ≠ 0) :
    e.hub.registry.kept = [] := by
  refine Registry.kept_eq_nil fun i p => ?_
  by_contra hretained
  obtain ⟨ref, hkept⟩ := Option.ne_none_iff_exists'.mp hretained
  rw [Registry.retainedAt_eq] at hkept
  obtain ⟨state, hat, href⟩ := Option.bind_eq_some_iff.mp hkept
  obtain ⟨event, hmade⟩ := hcharged i p state ref hat href
  obtain ⟨s, hfind, hs⟩ := Option.map_eq_some_iff.mp hmade
  have hlease : state.config.dataSize ∈ e.hub.events.leases :=
    List.mem_filterMap.mpr ⟨s, (EventStore.mem_of_find? hfind).1, congrArg Prod.snd hs⟩
  have hused := haccounts.events.paid.used
  have hwithin := UInt64.le_iff_toNat_le.mp haccounts.events.paid.within
  rw [haccounts.events.limit, hlimit] at hwithin
  have hle : state.config.dataSize.toNat ≤ totalBytes (e.hub.events.leases ++ e.unattached) :=
    List.le_sum_of_mem (List.mem_map_of_mem (List.mem_append_left _ hlease))
  refine hsizes state (Registry.mem_endpoints.mpr ⟨i, p, hat⟩) (UInt64.toNat_inj.mp ?_)
  change _ ≤ 0 at hwithin
  change _ = 0
  omega

/-- A hub without any room for data keeps nothing, whatever it is fed. -/
theorem states_keep_nothing {config : HubConfig} {now : UInt32} {hub : Hub σ}
    (hnew : Hub.new config Builtin.capability? now = .ok hub) (hlimit : config.dataHeapLimit = 0)
    (client : σ) (confOf : Nat → κ → SubscriptionConf σ) (actions : List (HubAction κ σ)) :
    ∀ w ∈ states confOf actions (start hub client), w.hub.registry.kept = [] := by
  intro w hw
  obtain ⟨haccounts, hcharged⟩ :=
    states_keep (charged_kept confOf _) actions (start_charged hnew client) w hw
  obtain ⟨hsetUp, htables⟩ := states_setUp (start_registry hnew client) confOf actions w hw
  exact haccounts.kept_eq_nil hcharged hlimit (hsetUp.dataSize_ne_zero htables)

/-- A payload that its device has no endpoint for does not arrive. -/
theorem retainedAt_of_unselected (confOf : Nat → κ → SubscriptionConf σ)
    (operation : HubOperation κ) (haccounts : e.Accounts bounds) (hsetUp : e.hub.registry.SetUp)
    (hdeaf : ∀ deviceType capability, e.hub.registry.capability? deviceType = some capability →
      ∀ payload, capability.select payload = none) (i endpoint : Nat) :
    (e.operate confOf operation).hub.registry.retainedAt i endpoint =
      e.hub.registry.retainedAt i endpoint := by
  rw [operate_shifts confOf operation haccounts i endpoint]
  cases harrival : Deed.arrival? ⟨e, operation⟩ with
  | none => rfl
  | some a =>
    cases operation with
    | receive addr payload =>
      obtain ⟨-, -, -, -, d, config, htakes⟩ := Hub.intake_of_arrival? haccounts harrival
      have hjoined := e.hub.register_becomes addr
      obtain ⟨capability, hcapability, hd⟩ :=
        hjoined.setUp hsetUp d (List.mem_of_getElem? htakes.device)
      rw [hjoined.capability?_eq] at hcapability
      have hrouted := htakes.makes.routed
      unfold Device.route at hrouted
      rw [hd.select, hdeaf _ _ hcapability] at hrouted
      cases hrouted
    | _ => cases harrival

/-- Devices that are set up by these tables, and keep nothing. -/
structure Blank (capability? : DeviceType → Option Capability) (r : Registry) : Prop where
  setUp : r.SetUp
  tables : r.capability? = capability?
  nothing : ∀ i endpoint, r.retainedAt i endpoint = none

/-- So it is with a hub whose tables select no endpoint for any payload, whatever its endpoints
could keep. -/
theorem blank_kept (confOf : Nat → κ → SubscriptionConf σ) (bounds : EventStore.Bounds)
    {capability? : DeviceType → Option Capability}
    (hdeaf : ∀ deviceType capability, capability? deviceType = some capability →
      ∀ payload, capability.select payload = none) :
    KeptBy confOf fun e : HubInUse κ σ => e.Accounts bounds ∧ Blank capability? e.hub.registry :=
  (accounts_kept confOf bounds).with_registry (Blank capability?) fun e operation haccounts h => by
    have hbecomes := e.operate_becomes confOf operation
    refine ⟨hbecomes.setUp h.setUp, hbecomes.capability?_eq.trans h.tables, fun i endpoint => ?_⟩
    rw [retainedAt_of_unselected confOf operation haccounts h.setUp (h.tables ▸ hdeaf) i endpoint]
    exact h.nothing i endpoint

/-- The gateway's own board, whose endpoint could keep its readings and is never selected. -/
def deaf : DeviceType → Option Capability
  | .nucleoF429zi => some { setup := fun _ => .endpoints [Builtin.die], select := fun _ => none }
  | _ => none

theorem states_deaf {config : HubConfig} {now : UInt32} {hub : Hub σ}
    (hnew : Hub.new config deaf now = .ok hub) (client : σ)
    (confOf : Nat → κ → SubscriptionConf σ) (actions : List (HubAction κ σ)) :
    ∀ w ∈ states confOf actions (start hub client), w.hub.registry.kept = [] := by
  have hdeaf (deviceType : DeviceType) (capability : Capability)
      (hcapability : deaf deviceType = some capability) (payload : Payload) :
      capability.select payload = none := by
    cases deviceType with
    | nucleoF429zi =>
      cases hcapability
      rfl
    | _ => cases hcapability
  have hfirst : Blank deaf (start hub client : HubInUse κ σ).hub.registry := by
    rw [start_registry hnew client]
    exact ⟨.new _ _ _, rfl, fun _ _ => rfl⟩
  intro w hw
  obtain ⟨-, hblank⟩ :=
    states_keep (blank_kept confOf _ hdeaf) actions ⟨start_accounts hnew client, hfirst⟩ w hw
  exact Registry.kept_eq_nil hblank.nothing

/-- There are endpoints enough to keep an event in every slot, and it never comes to that. -/
def NeverFull (e : HubInUse Unit Unit) (slots : Nat) : Prop :=
  e.Drained ∧ slots ≤ (e.hub.registry.endpoints.filter fun p => p.config.retains).length ∧
    ∀ (confOf : Nat → Unit → SubscriptionConf Unit) (actions : List (HubAction Unit Unit)),
      ∀ later ∈ states confOf actions e, later.hub.registry.kept.length ≠ slots

/-- There is one slot and one endpoint that would keep its latest event. In the first hub there is
no room for it, and in the second one nothing selects the endpoint. -/
theorem states_never_full :
    (∃ hub : Hub Unit,
      Hub.new { maxEvents := 1, dataHeapLimit := 0 } Builtin.capability? 0 = .ok hub ∧
        ((start hub ()).register (.ble .xiaomiMijia ⟨#v[1, 2, 3, 4, 5, 6]⟩)).NeverFull 1) ∧
    ∃ hub : Hub Unit, Hub.new { maxEvents := 1 } deaf 0 = .ok hub ∧
      ((start hub ()).register (.onBoard .nucleoF429zi)).NeverFull 1 := by
  refine ⟨⟨_, rfl, ⟨List.forall_mem_nil _, rfl, rfl, rfl, rfl⟩, le_rfl, ?_⟩,
    ⟨_, rfl, ⟨List.forall_mem_nil _, rfl, rfl, rfl, rfl⟩, le_rfl, ?_⟩⟩
  · intro confOf actions later hlater
    rw [@states_keep_nothing Unit Unit { maxEvents := 1, dataHeapLimit := 0 } 0 _ rfl rfl () confOf
      (.operate (.register (.ble .xiaomiMijia ⟨#v[1, 2, 3, 4, 5, 6]⟩)) :: actions) later
      (List.mem_cons_of_mem _ hlater)]
    exact Nat.zero_ne_one
  · intro confOf actions later hlater
    rw [@states_deaf Unit Unit { maxEvents := 1 } 0 _ rfl () confOf
      (.operate (.register (.onBoard .nucleoF429zi)) :: actions) later
      (List.mem_cons_of_mem _ hlater)]
    exact Nat.zero_ne_one

end HubInUse

end HomeGateway
