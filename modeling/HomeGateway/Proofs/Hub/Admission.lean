import Mathlib
import HomeGateway.Proofs.Hub.Reception

/-!
What it takes to take a payload in: a slot and the bytes that its endpoint charges, both before
the event that it may replace gives its own back. Once clients hold nothing and nothing is
queued, slots and bytes are in use for what endpoints keep, and so what they keep decides.
-/

namespace HomeGateway

variable {κ σ : Type}

/-! The endpoints of all devices in one list. -/

/-- What is charged for the event that an endpoint keeps, if it keeps one. -/
def Endpoint.charge? (e : Endpoint) : Option UInt64 := e.retained.map fun _ => e.config.dataSize

namespace Registry

def endpoints (r : Registry) : List Endpoint := r.devices.flatMap Device.endpoints

/-- What is charged for the events that are kept. -/
def charges (r : Registry) : List UInt64 := r.endpoints.filterMap Endpoint.charge?

/-- The endpoint of the device at a position. -/
def endpointAt? (r : Registry) (index endpoint : Nat) : Option Endpoint :=
  r.devices[index]?.bind fun d => d.endpoints[endpoint]?

variable {r : Registry} {index endpoint : Nat} {e : Endpoint}

theorem kept_eq (r : Registry) : r.kept = r.endpoints.filterMap Endpoint.retained := by
  rw [kept, endpoints, List.filterMap_flatMap]
  rfl

theorem mem_endpoints : e ∈ r.endpoints ↔ ∃ i p, r.endpointAt? i p = some e := by
  unfold endpoints endpointAt?
  rw [List.mem_flatMap]
  constructor
  · rintro ⟨d, hd, he⟩
    obtain ⟨i, hi⟩ := List.getElem?_of_mem hd
    obtain ⟨p, hp⟩ := List.getElem?_of_mem he
    exact ⟨i, p, by rw [hi, Option.bind_some, hp]⟩
  · rintro ⟨i, p, he⟩
    obtain ⟨d, hd, he⟩ := Option.bind_eq_some_iff.mp he
    exact ⟨d, List.mem_of_getElem? hd, List.mem_of_getElem? he⟩

theorem retainedAt_eq (r : Registry) (index endpoint : Nat) :
    r.retainedAt index endpoint = (r.endpointAt? index endpoint).bind Endpoint.retained := by
  unfold retainedAt endpointAt? Device.retained?
  cases r.devices[index]? <;> rfl

theorem kept_eq_nil (h : ∀ i p, r.retainedAt i p = none) : r.kept = [] := by
  rw [kept_eq, List.filterMap_eq_nil_iff]
  intro e he
  obtain ⟨i, p, hat⟩ := mem_endpoints.mp he
  have hnone := h i p
  rwa [retainedAt_eq, hat, Option.bind_some] at hnone

theorem endpointAt?_config {d : Device} {config : EndpointConfig}
    (hdevice : r.devices[index]? = some d) (hconfig : d.config? endpoint = some config) :
    ∃ e, r.endpointAt? index endpoint = some e ∧ e.config = config := by
  obtain ⟨e, he, heq⟩ := Option.map_eq_some_iff.mp hconfig
  exact ⟨e, by rw [endpointAt?, hdevice, Option.bind_some, he], heq⟩

/-- One endpoint keeps another event, and nothing else changes. -/
theorem endpoints_retain {d : Device} (ref : EventRef) (hdevice : r.devices[index]? = some d)
    (hendpoint : d.endpoints[endpoint]? = some e) :
    ∃ before after, r.endpoints = before ++ e :: after ∧
      (r.update index fun d => d.retain endpoint ref).endpoints =
        before ++ { e with retained := some ref } :: after := by
  obtain ⟨hlt, rfl⟩ := List.getElem?_eq_some_iff.mp hdevice
  obtain ⟨hltp, rfl⟩ := List.getElem?_eq_some_iff.mp hendpoint
  obtain ⟨before, d, after, hsplit, hlength, hmodify⟩ :=
    List.exists_of_modify (fun d : Device => d.retain endpoint ref) hlt
  have hd : r.devices[index] = d := by simp [hsplit, ← hlength]
  obtain ⟨front, e, back, hends, hcount, hchange⟩ :=
    List.exists_of_modify (fun e : Endpoint => { e with retained := some ref }) hltp
  have he : r.devices[index].endpoints[endpoint] = e := by simp [hends, ← hcount]
  rw [he]
  rw [hd] at hends hchange
  refine ⟨before.flatMap Device.endpoints ++ front, back ++ after.flatMap Device.endpoints, ?_, ?_⟩
  · rw [endpoints, hsplit]
    simp [hends]
  · rw [endpoints, update, hmodify]
    simp [Device.retain, hchange]

theorem endpoints_update_same (r : Registry) (index : Nat) {f : Device → Device}
    (hsame : ∀ d, (f d).endpoints = d.endpoints) :
    (r.update index f).endpoints = r.endpoints := by
  unfold endpoints update
  by_cases hlt : index < r.devices.length
  · obtain ⟨before, d, after, hsplit, -, hmodify⟩ := List.exists_of_modify f hlt
    rw [hmodify, hsplit]
    simp [hsame]
  · rw [List.modify_eq_self (Nat.le_of_not_lt hlt)]

end Registry

/-! What is charged for an event. -/

namespace Hub

variable {hub next : Hub σ} {addr : DeviceAddr} {payload : Payload} {client : σ}
  {bounds : EventStore.Bounds} {outside : List EventRef} {slots : List Nat} {loans : List UInt64}

/-- What endpoints keep takes up what they charge. -/
def Charged (hub : Hub σ) : Prop :=
  ∀ i p e ref, hub.registry.endpointAt? i p = some e → e.retained = some ref →
    ∃ event, hub.events.made? ref = some (event, some e.config.dataSize)

theorem absorb_charged {index : Nat} {device : Device} {ref : EventRef} {retained : Bool}
    (h : hub.Accounts bounds outside slots loans)
    (habsorb : hub.absorb index device payload = (.ok (ref, retained), next)) :
    ∃ endpoint config, device.route payload = .ok (endpoint, config) ∧ ref < next.events.nextRef ∧
      ∀ event lease, next.events.made? ref = some (event, lease) →
        lease = some config.dataSize := by
  obtain ⟨endpoint, events, hingest, rfl, hnext⟩ := absorb_ok habsorb
  obtain ⟨config, event, hmakes, hmade, hnamed⟩ := ingest_made h.events hingest
  have hprecedes : events.Precedes next.events := by
    rw [hnext]
    split
    · exact (hub.credited events index payload).retain_precedes index endpoint ref
    · exact .refl events
  refine ⟨endpoint, config, hmakes.routed, hnamed.trans_le hprecedes.names, ?_⟩
  intro other lease hlater
  have hsame := hprecedes.made ref hnamed _ hlater
  rw [hmade] at hsame
  cases hsame
  rfl

/-- What arrives takes up what its endpoint charges. -/
theorem receive_charged {a : Arrival} (h : hub.Accounts bounds outside slots loans)
    (harrival : hub.arrival? addr payload = some a) (client : σ) :
    let later := (hub.receive addr payload.bytes payload.timestamp client).2.1
    ∃ e, later.registry.endpointAt? a.device a.endpoint = some e ∧
      ∀ event lease, later.events.made? a.ref = some (event, lease) →
        lease = some e.config.dataSize := by
  obtain ⟨retained, next, hintake, -, d, config, htakes⟩ := intake_of_arrival? h harrival
  have hextends := (hub.intake_registered addr payload).extends
  obtain ⟨hconfig, -⟩ := Device.route_lt htakes.makes.routed
  obtain ⟨later, hlater, hsame⟩ := hextends.device htakes.device
  rw [← Device.config?_of_same hsame] at hconfig
  have hreceived : (hub.receive addr payload.bytes payload.timestamp client).2.1 =
      (next.dispatch a.ref retained client).2.1 := by
    unfold Hub.receive
    rw [hintake]
  rw [← hub.receive_registry addr payload.bytes payload.timestamp client] at hlater
  obtain ⟨e, he, rfl⟩ := Registry.endpointAt?_config hlater hconfig
  refine ⟨e, he, ?_⟩
  intro event lease hmade
  rw [hreceived] at hmade
  rcases hub.intake_cases addr payload with
    ⟨cause, -, hcase⟩ | ⟨-, hcase⟩ |
      ⟨index, device, hregister, hdevice, result, last, habsorb, hcase⟩
  · cases hcase.symm.trans hintake
  · cases hcase.symm.trans hintake
  · cases result with
    | error cause => cases hcase.symm.trans hintake
    | ok made =>
      cases hcase.symm.trans hintake
      obtain ⟨endpoint, charged, hroute, hnamed, hcharged⟩ :=
        absorb_charged (h.register addr) habsorb
      cases hregister.symm.trans htakes.registered
      cases hdevice.symm.trans htakes.device
      cases hroute.symm.trans htakes.makes.routed
      exact hcharged event lease
        ((next.dispatch_precedes a.ref retained client).made a.ref hnamed _ hmade)

/-- What is kept is live. -/
theorem Accounts.made?_kept (h : hub.Accounts bounds outside slots loans) {ref : EventRef}
    (hkept : ref ∈ hub.registry.kept) : ∃ s, hub.events.made? ref = some (StoredEvent.made s) := by
  obtain ⟨s, hfind, -⟩ := h.events.find_held
    (List.mem_append_left outside (List.mem_append_right _ hkept))
  exact ⟨s, by rw [EventStore.made?, hfind, Option.map_some]⟩

/-- What is kept later as it was kept before is charged as it was. -/
theorem Charged.kept (h : hub.Charged) (haccounts : hub.Accounts bounds outside slots loans)
    {otherSlots : List Nat} {otherOutside : List EventRef} {otherLoans : List UInt64}
    (hnext : next.Accounts bounds otherOutside otherSlots otherLoans)
    (hextends : hub.registry.Extends next.registry) (hprecedes : hub.events.Precedes next.events)
    {i p : Nat} {e : Endpoint} {ref : EventRef} (he : next.registry.endpointAt? i p = some e)
    (hretained : e.retained = some ref) (hbefore : hub.registry.retainedAt i p = some ref) :
    ∃ event, next.events.made? ref = some (event, some e.config.dataSize) := by
  rw [Registry.retainedAt_eq] at hbefore
  obtain ⟨old, hold, holdref⟩ := Option.bind_eq_some_iff.mp hbefore
  obtain ⟨event, hmade⟩ := h i p old ref hold holdref
  have hconfig : e.config = old.config := by
    obtain ⟨d, hd, hdold⟩ := Option.bind_eq_some_iff.mp hold
    obtain ⟨later, hlater, hsame⟩ := hextends.device hd
    have hconfigs := Device.config?_of_same hsame p
    rw [Registry.endpointAt?, hlater, Option.bind_some] at he
    rw [Device.config?, he, Device.config?, hdold] at hconfigs
    exact Option.some.inj hconfigs
  have hafter : next.registry.retainedAt i p = some ref := by
    rw [Registry.retainedAt_eq, he, Option.bind_some, hretained]
  have hkept : ref ∈ hub.registry.kept :=
    Registry.retainedAt_kept (by rw [Registry.retainedAt_eq, hold, Option.bind_some, holdref])
  have hnamed : ref < hub.events.nextRef :=
    haccounts.events.lt_nextRef (List.mem_append_left _ (List.mem_append_right _ hkept))
  obtain ⟨s, hlive⟩ := hnext.made?_kept (Registry.retainedAt_kept hafter)
  have hsame := hprecedes.made ref hnamed _ hlive
  rw [hmade] at hsame
  exact ⟨event, by rw [hlive, ← hsame, hconfig]⟩

/-- Where the registry is the same, everything is kept as it was. -/
theorem Charged.of_registry (h : hub.Charged) (haccounts : hub.Accounts bounds outside slots loans)
    {otherSlots : List Nat} {otherOutside : List EventRef} {otherLoans : List UInt64}
    (hnext : next.Accounts bounds otherOutside otherSlots otherLoans)
    (hsame : next.registry = hub.registry) (hprecedes : hub.events.Precedes next.events) :
    next.Charged := by
  intro i p e ref he hretained
  have hextends : hub.registry.Extends next.registry := hsame ▸ .refl hub.registry
  refine h.kept haccounts hnext hextends hprecedes he hretained ?_
  rw [← hsame, Registry.retainedAt_eq, he, Option.bind_some, hretained]

end Hub

namespace HubInUse

variable {config : HubConfig} {capability? : DeviceType → Option Capability} {now : UInt32}
  {hub : Hub σ} {bounds : EventStore.Bounds}

/-- As long as the books agree, what is kept is charged: only a payload that arrives is kept anew. -/
theorem charged_kept (confOf : Nat → κ → SubscriptionConf σ) (bounds : EventStore.Bounds) :
    KeptBy confOf fun e : HubInUse κ σ => e.Accounts bounds ∧ e.hub.Charged where
  operate e operation h := by
    obtain ⟨haccounts, hcharged⟩ := h
    have hlater := haccounts.operate confOf operation
    have hextends := (e.operate_becomes confOf operation).extends
    have hprecedes := e.operate_precedes confOf operation
    refine ⟨hlater, ?_⟩
    intro i p state ref hstate hretained
    have hshifts := operate_shifts confOf operation haccounts i p
    have hshifted : (e.operate confOf operation).hub.registry.retainedAt i p = some ref := by
      rw [Registry.retainedAt_eq, hstate, Option.bind_some, hretained]
    rw [hshifted] at hshifts
    cases harrival : Deed.arrival? ⟨e, operation⟩ with
    | none =>
      rw [harrival] at hshifts
      exact hcharged.kept haccounts hlater hextends hprecedes hstate hretained hshifts.symm
    | some a =>
      rw [harrival] at hshifts
      dsimp only at hshifts
      split at hshifts
      · rename_i hhere
        obtain ⟨rfl, rfl, -⟩ := hhere
        cases hshifts
        cases operation with
        | receive addr payload =>
          obtain ⟨found, hfound, hmade⟩ := Hub.receive_charged haccounts harrival e.client
          cases hstate.symm.trans hfound
          obtain ⟨s, hlive⟩ := Hub.Accounts.made?_kept hlater (Registry.retainedAt_kept hshifted)
          exact ⟨s.event, by rw [hlive, ← hmade s.event s.lease hlive]; rfl⟩
        | _ => cases harrival
      · exact hcharged.kept haccounts hlater hextends hprecedes hstate hretained hshifts.symm
  pin e index d pinMask h hdevice := by
    have hlater := (accounts_kept confOf bounds).pin e index d pinMask h.1 hdevice
    have hprecedes := e.hub.events.foldl_hold_precedes ((d.pins pinMask).filterMap id)
    exact ⟨hlater, h.2.of_registry h.1 hlater rfl hprecedes⟩
  unpin e held pins h hpins := by
    have hlater := (accounts_kept confOf bounds).unpin e held pins h.1 hpins
    exact ⟨hlater, h.2.of_registry h.1 hlater rfl (e.hub.events.releaseAll_precedes held)⟩

/-- A new hub keeps nothing. -/
theorem start_charged (hnew : Hub.new config capability? now = .ok hub) (client : σ) :
    (HubInUse.start hub client : HubInUse κ σ).Accounts
        ⟨config.maxEvents.toNat, config.dataHeapLimit⟩ ∧ hub.Charged := by
  refine ⟨start_accounts hnew client, ?_⟩
  rw [Hub.new_eq hnew]
  intro i p e ref he
  simp [Registry.endpointAt?, Registry.new] at he

end HubInUse

/-! What a payload needs. -/

namespace EventStore

variable {store : EventStore} {bounds : Bounds} {holders : List EventRef} {slots : List Nat}
  {loans : List UInt64}

/-- A slot is free as long as not all are taken, by events or by events under construction. -/
theorem Accounts.takeSlot_iff (h : store.Accounts bounds holders slots loans) :
    (∃ taken, store.takeSlot = .ok taken) ↔
      store.live.length + slots.length < bounds.capacity := by
  have hlength := h.slotted.length
  rw [h.capacity, List.length_append, List.length_map] at hlength
  unfold Pool.available at hlength
  unfold EventStore.takeSlot Pool.acquire
  cases hfree : store.slots.free with
  | nil =>
    rw [hfree, List.length_nil] at hlength
    exact iff_of_false (by simp) (by omega)
  | cons slot rest =>
    rw [hfree, List.length_cons] at hlength
    exact iff_of_true ⟨_, rfl⟩ (by omega)

/-- Events have different names, so what is found under the name of a live one is that one. -/
theorem Accounts.find?_live (h : store.Accounts bounds holders slots loans) {s : StoredEvent}
    (hs : s ∈ store.live) : store.find? s.ref = some s := by
  obtain ⟨found, hfind, hfound, href⟩ := h.find_held ((h.held s.ref).mpr (List.mem_map_of_mem hs))
  rw [hfind, List.inj_on_of_nodup_map h.distinct hfound hs href]

theorem Accounts.made?_live (h : store.Accounts bounds holders slots loans) {s : StoredEvent}
    (hs : s ∈ store.live) : store.made? s.ref = some s.made := by
  rw [made?, h.find?_live hs, Option.map_some]

end EventStore

namespace Hub

variable {hub : Hub σ} {addr : DeviceAddr} {payload : Payload} {client : σ}
  {bounds : EventStore.Bounds} {outside : List EventRef} {slots : List Nat} {loans : List UInt64}

/-- A payload that its endpoint can decode needs a slot, and its bytes. -/
theorem ingest_ok_iff {store : EventStore} {holders : List EventRef} {device : Device}
    {now : UInt32} {endpoint : Nat} {config : EndpointConfig} {decoded : Decoded}
    (h : store.Accounts bounds holders slots loans)
    (hroute : device.route payload = .ok (endpoint, config))
    (hdecode : config.decode payload = .ok decoded) :
    (∃ made, (ingest store device payload now).1 = .ok made) ↔
      store.live.length + slots.length < bounds.capacity ∧
        totalBytes (store.leases ++ loans) + config.dataSize.toNat ≤ bounds.limit.toNat := by
  rw [← h.takeSlot_iff]
  unfold ingest
  cases htake : store.takeSlot with
  | error _ => exact iff_of_false (by simp) (by simp)
  | ok taken =>
    obtain ⟨slot, begun⟩ := taken
    have hbegun := h.takeSlot htake
    have hbudget : begun.budget = store.budget := by
      unfold EventStore.takeSlot at htake
      split at htake
      · cases htake
        rfl
      · cases htake
    have hbytes : (∃ paid, begun.reserve config.dataSize = .ok paid) ↔
        totalBytes (store.leases ++ loans) + config.dataSize.toNat ≤ bounds.limit.toNat := by
      rw [← h.limit, ← h.paid.used, ← hbudget, ← begun.budget.reserve_iff]
      unfold EventStore.reserve
      cases begun.budget.reserve config.dataSize <;> simp
    rw [← hbytes]
    dsimp only
    rw [hroute]
    dsimp only
    cases begun.reserve config.dataSize with
    | error _ => exact iff_of_false (by simp) (by simp)
    | ok paid =>
      dsimp only
      rw [hdecode]
      exact iff_of_true ⟨_, rfl⟩ ⟨⟨_, rfl⟩, _, rfl⟩

/-- Without a slot it does not matter what the payload is. -/
theorem ingest_full {store : EventStore} {holders : List EventRef} (device : Device)
    (payload : Payload) (now : UInt32) (h : store.Accounts bounds holders slots loans)
    (hfull : bounds.capacity ≤ store.live.length + slots.length) :
    (ingest store device payload now).1 = .error .poolExhausted := by
  unfold ingest
  cases htake : store.takeSlot with
  | error _ => rfl
  | ok taken => exact absurd (h.takeSlot_iff.mp ⟨taken, htake⟩) (Nat.not_lt.mpr hfull)

theorem register_events (hub : Hub σ) (addr : DeviceAddr) :
    (hub.register addr).2.events = hub.events := by
  unfold Hub.register
  dsimp only
  split <;> rfl

/-- Once its device is registered, a payload is taken in if it becomes an event. -/
theorem receive_result {index : Nat} {device : Device}
    (hregister : (hub.register addr).1 = .ok index)
    (hdevice : (hub.register addr).2.registry.devices[index]? = some device) (client : σ) :
    (∀ cause, (ingest hub.events device payload hub.now).1 = .error cause →
      (hub.receive addr payload.bytes payload.timestamp client).1 =
        .error (.error (.ingest cause))) ∧
    ((∃ made, (ingest hub.events device payload hub.now).1 = .ok made) ↔
      ∃ matched, (hub.receive addr payload.bytes payload.timestamp client).1 = .ok matched) := by
  rcases hub.intake_cases addr payload with
    ⟨cause, hother, -⟩ | ⟨hother, -⟩ | ⟨i, d, hother, hd, result, next, habsorb, hcase⟩
  · cases hregister.symm.trans hother
  · cases hregister.symm.trans hother
  · cases hregister.symm.trans hother
    cases hdevice.symm.trans hd
    unfold Hub.absorb at habsorb
    rw [register_events, register_now] at habsorb
    unfold Hub.receive
    rw [hcase]
    cases hingest : ingest hub.events device payload hub.now with
    | mk made events =>
      rw [hingest] at habsorb
      cases made with
      | error cause =>
        cases habsorb
        refine ⟨?_, by simp [Except.mapError]⟩
        rintro _ ⟨⟩
        rfl
      | ok made =>
        cases habsorb
        exact ⟨nofun, by simp [Except.mapError]⟩

end Hub

end HomeGateway
