import Mathlib
import HomeGateway.Proofs.Hub.Lineage
import HomeGateway.Proofs.Hub.Tallies

/-!
The events that endpoints keep, over whole runs. An endpoint that is told to keep its latest event
keeps the event of the last payload that went to it; nothing else that happens changes it. The
event of a payload takes its place before it is dispatched, so that filters and hooks find it there.
-/

namespace HomeGateway

variable {κ σ : Type}

/-! What is kept of a device. -/

namespace Device

theorem config?_eq (d : Device) (endpoint : Nat) :
    d.config? endpoint = (d.endpoints.map Endpoint.config)[endpoint]? := by
  rw [config?, List.getElem?_map]

theorem config?_of_same {d other : Device} (h : d.asRegistered = other.asRegistered)
    (endpoint : Nat) : d.config? endpoint = other.config? endpoint := by
  rw [config?_eq, configs_of_same h, ← config?_eq]

theorem origin_of_same {d other : Device} (h : d.asRegistered = other.asRegistered)
    (endpoint : Nat) : d.origin endpoint = other.origin endpoint := by
  unfold origin
  rw [session_of_same h, addr_of_same h]

theorem retained?_retain {d : Device} {endpoint : Nat} (ref : EventRef)
    (hendpoint : endpoint < d.endpoints.length) (other : Nat) :
    (d.retain endpoint ref).retained? other =
      if endpoint = other then some ref else d.retained? other := by
  simp only [retained?, retain, List.getElem?_modify]
  by_cases hother : endpoint = other
  · subst hother
    simp [List.getElem?_eq_getElem hendpoint]
  · simp [hother]

end Device

namespace Registry

variable {r next : Registry} {index : Nat} {d : Device}

/-- What an endpoint of the device at a position keeps. -/
def retainedAt (r : Registry) (index endpoint : Nat) : Option EventRef :=
  r.devices[index]?.bind fun d => d.retained? endpoint

/-- Whether an endpoint of the device at a position is told to keep its latest event. -/
def retainsAt (r : Registry) (index endpoint : Nat) : Bool :=
  (r.devices[index]?.bind fun d => d.config? endpoint).any EndpointConfig.retains

theorem retainedAt_of_device (h : r.devices[index]? = some d) (endpoint : Nat) :
    r.retainedAt index endpoint = d.retained? endpoint := by
  rw [retainedAt, h, Option.bind_some]

theorem retainsAt_of_device (h : r.devices[index]? = some d) (endpoint : Nat) :
    r.retainsAt index endpoint = (d.config? endpoint).any EndpointConfig.retains := by
  rw [retainsAt, h, Option.bind_some]

/-- Endpoints are told when their device joins. -/
theorem Extends.retainsAt (h : r.Extends next) (hdevice : r.devices[index]? = some d)
    (endpoint : Nat) : next.retainsAt index endpoint = r.retainsAt index endpoint := by
  obtain ⟨later, hlater, hsame⟩ := h.device hdevice
  rw [retainsAt_of_device hlater, retainsAt_of_device hdevice, Device.config?_of_same hsame]

/-- A device that joins keeps nothing. -/
theorem register_retainedAt (r : Registry) (addr : DeviceAddr) (now : UInt32) (i endpoint : Nat) :
    (r.register addr now).2.retainedAt i endpoint = r.retainedAt i endpoint := by
  unfold register
  split
  · rfl
  split
  · rfl
  · rename_i capability configs _
    unfold retainedAt
    rcases Nat.lt_trichotomy i r.devices.length with hlt | rfl | hgt
    · rw [List.getElem?_append_left hlt]
    · simp only [List.getElem?_concat_length, List.getElem?_eq_none le_rfl, Option.bind_some,
        Option.bind_none, Device.retained?, List.getElem?_map]
      cases configs[endpoint]? <;> rfl
    · rw [List.getElem?_eq_none hgt.le, List.getElem?_eq_none]
      simpa using hgt

theorem update_retainedAt_same (r : Registry) (index : Nat) {f : Device → Device}
    (hsame : ∀ d, (f d).endpoints = d.endpoints) (i endpoint : Nat) :
    (r.update index f).retainedAt i endpoint = r.retainedAt i endpoint := by
  simp only [retainedAt, update, List.getElem?_modify]
  cases r.devices[i]? with
  | none => rfl
  | some d => by_cases hi : index = i <;> simp [hi, Device.retained?, hsame]

/-- One endpoint keeps another event, and all others keep what they kept. -/
theorem retain_retainedAt {endpoint : Nat} (ref : EventRef)
    (hdevice : r.devices[index]? = some d) (hendpoint : endpoint < d.endpoints.length)
    (i other : Nat) :
    (r.update index fun d => d.retain endpoint ref).retainedAt i other =
      if index = i ∧ endpoint = other then some ref else r.retainedAt i other := by
  simp only [retainedAt, update, List.getElem?_modify]
  by_cases hi : index = i
  · subst hi
    simp [hdevice, Device.retained?_retain ref hendpoint]
  · cases r.devices[i]? <;> simp [hi]

theorem retainedAt_kept {endpoint : Nat} {ref : EventRef}
    (h : r.retainedAt index endpoint = some ref) : ref ∈ r.kept := by
  obtain ⟨d, hdevice, hretained⟩ := Option.bind_eq_some_iff.mp h
  obtain ⟨state, hstate, hheld⟩ := Option.bind_eq_some_iff.mp hretained
  exact List.mem_flatMap.mpr ⟨d, List.mem_of_getElem? hdevice,
    List.mem_filterMap.mpr ⟨state, List.mem_of_getElem? hstate, hheld⟩⟩

end Registry

/-! The event of a payload. -/

namespace EventStore

variable {store : EventStore} {bounds : Bounds} {holders : List EventRef} {slots : List Nat}
  {loans : List UInt64}

/-- What is held is live. -/
theorem Accounts.event?_held (h : store.Accounts bounds holders slots loans) {ref : EventRef}
    (hheld : ref ∈ holders) : ∃ event, store.event? ref = some event := by
  obtain ⟨s, hfind, -⟩ := h.find_held hheld
  exact ⟨s.event, by rw [event?, hfind, Option.map_some]⟩

/-- What was made is live under its name. -/
theorem Accounts.made?_freeze (h : store.Accounts bounds holders slots loans) (slot : Nat)
    (lease : Option UInt64) (event : Event) :
    (store.freeze slot lease event).2.made? store.nextRef = some (event, lease) := by
  have hnone : store.live.find? (fun s => s.ref = store.nextRef) = none := by
    rw [List.find?_eq_none]
    intro s hs heq
    have hlt := h.fresh s.ref (List.mem_map_of_mem hs)
    exact Nat.ne_of_lt hlt (of_decide_eq_true heq)
  unfold made? find? EventStore.freeze
  simp [List.find?_append, hnone, StoredEvent.made]

end EventStore

/-- When a payload counts as received: at its own time, or now. -/
def Payload.receivedAt (payload : Payload) (now : UInt32) : UInt32 :=
  if payload.timestamp = 0 then now else payload.timestamp

/-- The event of what was decoded at an endpoint. It bears the time that was decoded, if any. -/
def Device.measured (d : Device) (endpoint : Nat) (decoded : Decoded) (received : UInt32) :
    Event :=
  { kind := .data
    timestamp := decoded.timestamp.getD received
    origin := some (d.origin endpoint)
    reading := some decoded.reading }

/-- The endpoint that a payload goes to makes it an event. -/
structure Device.Makes (d : Device) (payload : Payload) (now : UInt32) (config : EndpointConfig)
    (endpoint : Nat) (event : Event) : Prop where
  routed : d.route payload = .ok (endpoint, config)
  decoded : ∃ decoded, config.decode payload = .ok decoded ∧
    event = d.measured endpoint decoded (payload.receivedAt now)

theorem Device.Makes.data {d : Device} {payload : Payload} {now : UInt32} {config : EndpointConfig}
    {endpoint : Nat} {event : Event} (h : d.Makes payload now config endpoint event) :
    event.kind = .data ∧ event.origin = some (d.origin endpoint) := by
  obtain ⟨decoded, -, rfl⟩ := h.decoded
  exact ⟨rfl, rfl⟩

/-- A payload that became an event: the position of its device, the endpoint that it went to, and
the event with its name. -/
structure Arrival where
  device : Nat
  endpoint : Nat
  ref : EventRef
  event : Event

/-- From one registry to a later one, endpoints keep what they kept. If a payload arrived meanwhile,
its endpoint keeps the event instead, if it is told to. -/
def Registry.Shifts (r : Registry) (arrival? : Option Arrival) (next : Registry) : Prop :=
  ∀ i endpoint, next.retainedAt i endpoint =
    match arrival? with
    | some a =>
      if a.device = i ∧ a.endpoint = endpoint ∧ next.retainsAt i endpoint = true then some a.ref
      else r.retainedAt i endpoint
    | none => r.retainedAt i endpoint

namespace Hub

variable {hub next : Hub σ} {addr : DeviceAddr} {payload : Payload}
  {bounds : EventStore.Bounds} {outside : List EventRef} {slots : List Nat} {loans : List UInt64}

/-- The event that an endpoint of the device at a position keeps. -/
def lastEvent? (hub : Hub σ) (index endpoint : Nat) : Option Event :=
  (hub.registry.retainedAt index endpoint).bind hub.events.event?

/-- A payload becomes an event of the endpoint that it is routed to, and takes up what is charged
there. -/
theorem ingest_made {store later : EventStore} {holders : List EventRef} {device : Device}
    {now : UInt32} {ref : EventRef} {endpoint : Nat}
    (h : store.Accounts bounds holders slots loans)
    (hmade : ingest store device payload now = (.ok (ref, endpoint), later)) :
    ∃ config event, device.Makes payload now config endpoint event ∧
      later.made? ref = some (event, some config.dataSize) ∧ ref < later.nextRef := by
  unfold ingest at hmade
  cases htake : store.takeSlot with
  | error _ =>
    rw [htake] at hmade
    cases hmade
  | ok taken =>
    obtain ⟨slot, begun⟩ := taken
    have hbegun := h.takeSlot htake
    rw [htake] at hmade
    dsimp only at hmade
    cases hroute : device.route payload with
    | error _ =>
      rw [hroute] at hmade
      cases hmade
    | ok route =>
      obtain ⟨routed, config⟩ := route
      rw [hroute] at hmade
      dsimp only at hmade
      cases hreserve : begun.reserve config.dataSize with
      | error _ =>
        rw [hreserve] at hmade
        cases hmade
      | ok paid =>
        have hpaid := hbegun.reserve hreserve
        rw [hreserve] at hmade
        dsimp only at hmade
        cases hdecode : config.decode payload with
        | error _ =>
          rw [hdecode] at hmade
          cases hmade
        | ok decoded =>
          rw [hdecode] at hmade
          cases hmade
          exact ⟨config, _, ⟨hroute, decoded, hdecode, rfl⟩, hpaid.made?_freeze slot _ _,
            Nat.lt_succ_self _⟩

/-- What there is to say of a payload that became an event, once it is made. -/
structure Arrives (hub : Hub σ) (a : Arrival) (next : Hub σ) : Prop where
  device : ∃ d, next.registry.devices[a.device]? = some d ∧ a.event.kind = .data ∧
    a.event.origin = some (d.origin a.endpoint)
  event : next.events.event? a.ref = some a.event
  named : a.ref < next.events.nextRef
  shifts : hub.registry.Shifts (some a) next.registry

/-- The arrival of a payload, if it becomes an event. -/
def arrival? (hub : Hub σ) (addr : DeviceAddr) (payload : Payload) : Option Arrival :=
  match (hub.register addr).1, hub.intake addr payload with
  | .ok index, (.ok (ref, _), next) => do
    let device ← (hub.register addr).2.registry.devices[index]?
    let (endpoint, _) ← (device.route payload).toOption
    let event ← next.events.event? ref
    return { device := index, endpoint, ref, event }
  | _, _ => none

/-- An event that is held after it was made is what it was. -/
theorem Accounts.event?_made {events : EventStore} {ref : EventRef} {event : Event}
    (h : next.Accounts bounds outside slots loans) (hheld : ref ∈ outside)
    (hmade : events.event? ref = some event) (hnamed : ref < events.nextRef)
    (hprecedes : events.Precedes next.events) : next.events.event? ref = some event := by
  obtain ⟨found, hfound⟩ := h.events.event?_held (List.mem_append_right next.inside hheld)
  have hsame := hprecedes.events ref hnamed found hfound
  rw [hmade] at hsame
  rw [hfound, hsame]

/-- The hub after a payload of the device at a position was made an event. -/
def credited (hub : Hub σ) (events : EventStore) (index : Nat) (payload : Payload) : Hub σ :=
  (hub.withEvents events).updateDevice index fun d =>
    { d with stats := d.stats.receive payload.bytes.length }

theorem absorb_ok {index : Nat} {device : Device} {ref : EventRef} {retained : Bool}
    (h : hub.absorb index device payload = (.ok (ref, retained), next)) :
    ∃ endpoint events, ingest hub.events device payload hub.now = (.ok (ref, endpoint), events) ∧
      retained = (device.config? endpoint).any EndpointConfig.retains ∧
      next = if retained then (hub.credited events index payload).retain index endpoint ref
        else hub.credited events index payload := by
  unfold Hub.absorb at h
  cases hingest : ingest hub.events device payload hub.now with
  | mk result events =>
    rw [hingest] at h
    cases result with
    | error cause => cases h
    | ok made =>
      cases h
      exact ⟨made.2, events, rfl, rfl, rfl⟩

theorem credited_device {index : Nat} {device : Device} (events : EventStore)
    (hdevice : hub.registry.devices[index]? = some device) (payload : Payload) :
    (hub.credited events index payload).registry.devices[index]? =
      some { device with stats := device.stats.receive payload.bytes.length } := by
  simp [credited, Hub.updateDevice, Registry.update, Hub.withEvents, hdevice]

theorem credited_retainedAt (hub : Hub σ) (events : EventStore) (index : Nat) (payload : Payload)
    (i endpoint : Nat) :
    (hub.credited events index payload).registry.retainedAt i endpoint =
      hub.registry.retainedAt i endpoint :=
  hub.registry.update_retainedAt_same index
    (f := fun d => { d with stats := d.stats.receive payload.bytes.length }) (fun _ => rfl) i
    endpoint

theorem absorb_arrives {index : Nat} {device : Device} {ref : EventRef} {retained : Bool}
    (h : hub.Accounts bounds outside slots loans)
    (hdevice : hub.registry.devices[index]? = some device)
    (habsorb : hub.absorb index device payload = (.ok (ref, retained), next)) :
    ∃ endpoint config event, device.Makes payload hub.now config endpoint event ∧
      hub.Arrives { device := index, endpoint, ref, event } next := by
  have haccounts := h.absorb payload hdevice
  have hextends := (hub.absorb_becomes index device payload).extends
  rw [habsorb] at haccounts hextends
  obtain ⟨d, hlater, hsame⟩ := hextends.device hdevice
  obtain ⟨endpoint, events, hingest, rfl, hnext⟩ := absorb_ok habsorb
  obtain ⟨config, event, hmakes, hmade, hnamed⟩ := ingest_made h.events hingest
  have hlive : events.event? ref = some event := by
    rw [EventStore.event?_eq, hmade, Option.map_some]
  obtain ⟨hkind, horigin⟩ := hmakes.data
  obtain ⟨hconfig, hendpoint⟩ := Device.route_lt hmakes.routed
  have hretains : next.registry.retainsAt index endpoint =
      (device.config? endpoint).any EndpointConfig.retains := by
    rw [Registry.retainsAt_of_device hlater, Device.config?_of_same hsame]
  have hprecedes : events.Precedes next.events := by
    rw [hnext]
    split
    · exact (hub.credited events index payload).retain_precedes index endpoint ref
    · exact .refl events
  refine ⟨endpoint, config, event, hmakes, ?_, ?_, hnamed.trans_le hprecedes.names, ?_⟩
  · refine ⟨d, hlater, hkind, ?_⟩
    rw [horigin, Device.origin_of_same hsame]
  · exact haccounts.event?_made List.mem_cons_self hlive hnamed hprecedes
  · intro i p
    dsimp only
    by_cases hhere : index = i ∧ endpoint = p
    · obtain ⟨rfl, rfl⟩ := hhere
      rw [hretains]
      cases hkeeps : (device.config? endpoint).any EndpointConfig.retains with
      | true =>
        rw [hkeeps, if_pos rfl] at hnext
        rw [hnext, retain_registry, Registry.retain_retainedAt ref
          (credited_device events hdevice payload) hendpoint]
        simp
      | false =>
        rw [hkeeps, if_neg Bool.false_ne_true] at hnext
        rw [hnext, credited_retainedAt]
        simp
    · have hother : next.registry.retainedAt i p = hub.registry.retainedAt i p := by
        rw [hnext]
        split
        · rw [retain_registry, Registry.retain_retainedAt ref
            (credited_device events hdevice payload) hendpoint, if_neg hhere, credited_retainedAt]
        · exact hub.credited_retainedAt events index payload i p
      rw [hother, if_neg]
      rintro ⟨rfl, rfl, -⟩
      exact hhere ⟨rfl, rfl⟩

theorem register_retainedAt (hub : Hub σ) (addr : DeviceAddr) (i endpoint : Nat) :
    (hub.register addr).2.registry.retainedAt i endpoint =
      hub.registry.retainedAt i endpoint := by
  rw [register_registry]
  exact hub.registry.register_retainedAt addr hub.now i endpoint

/-- The device that takes a payload, at the endpoint that it goes to. -/
structure Takes (hub : Hub σ) (addr : DeviceAddr) (payload : Payload) (a : Arrival) (d : Device)
    (config : EndpointConfig) : Prop where
  registered : (hub.register addr).1 = .ok a.device
  device : (hub.register addr).2.registry.devices[a.device]? = some d
  makes : d.Makes payload hub.now config a.endpoint a.event

theorem register_now (hub : Hub σ) (addr : DeviceAddr) : (hub.register addr).2.now = hub.now := by
  unfold Hub.register
  dsimp only
  split <;> rfl

theorem intake_arrives {ref : EventRef} {retained : Bool}
    (h : hub.Accounts bounds outside slots loans)
    (hintake : hub.intake addr payload = (.ok (ref, retained), next)) :
    ∃ a, hub.arrival? addr payload = some a ∧ a.ref = ref ∧ hub.Arrives a next ∧
      ∃ d config, hub.Takes addr payload a d config := by
  rcases hub.intake_cases addr payload with
    ⟨cause, -, hcase⟩ | ⟨-, hcase⟩ |
      ⟨index, device, hregister, hdevice, result, last, habsorb, hcase⟩
  · cases hcase.symm.trans hintake
  · cases hcase.symm.trans hintake
  · cases result with
    | error cause => cases hcase.symm.trans hintake
    | ok made =>
      cases hcase.symm.trans hintake
      obtain ⟨endpoint, config, event, hmakes, harrives⟩ :=
        absorb_arrives (h.register addr) hdevice habsorb
      rw [register_now] at hmakes
      refine ⟨_, ?_, rfl, { harrives with shifts := ?_ }, device, config, hregister, hdevice,
        hmakes⟩
      · simp [arrival?, hregister, hcase, hdevice, hmakes.routed, harrives.event,
          Except.toOption, Except.mapError]
      · intro i p
        rw [harrives.shifts i p]
        dsimp only
        rw [register_retainedAt]

/-- A payload that becomes no event changes nothing of what is kept. -/
theorem intake_lost {halt : Halt Error} (hintake : hub.intake addr payload = (.error halt, next)) :
    hub.arrival? addr payload = none ∧ hub.registry.Shifts none next.registry := by
  constructor
  · unfold arrival?
    rw [hintake]
    split
    · rename_i hok
      cases hok
    · rfl
  · intro i endpoint
    rcases hub.intake_cases addr payload with
      ⟨cause, -, hcase⟩ | ⟨-, hcase⟩ | ⟨index, device, -, -, result, last, habsorb, hcase⟩
    · cases hcase.symm.trans hintake
      exact hub.register_retainedAt addr i endpoint
    · cases hcase.symm.trans hintake
      exact hub.register_retainedAt addr i endpoint
    · cases result with
      | error cause =>
        cases hcase.symm.trans hintake
        obtain ⟨events, -, rfl⟩ := absorb_error habsorb
        have hmarked := (hub.register addr).2.registry.update_retainedAt_same index
          (f := fun d => { d with stats := d.stats.fail cause }) (fun _ => rfl) i endpoint
        exact hmarked.trans (hub.register_retainedAt addr i endpoint)
      | ok made => cases hcase.symm.trans hintake

theorem intake_of_arrival? {a : Arrival} (h : hub.Accounts bounds outside slots loans)
    (harrival : hub.arrival? addr payload = some a) :
    ∃ retained next, hub.intake addr payload = (.ok (a.ref, retained), next) ∧
      hub.Arrives a next ∧ ∃ d config, hub.Takes addr payload a d config := by
  cases hintake : hub.intake addr payload with
  | mk result next =>
    cases result with
    | error halt =>
      rw [(intake_lost hintake).1] at harrival
      cases harrival
    | ok made =>
      obtain ⟨b, hb, hnamed, harrives, htakes⟩ := intake_arrives h hintake
      rw [harrival, Option.some.injEq] at hb
      subst hb
      exact ⟨made.2, next, by rw [hnamed], harrives, htakes⟩

/-- What is known of an event that arrived, as long as it may live: it is what it was. -/
structure Recalls (hub : Hub σ) (a : Arrival) : Prop where
  device : ∃ d, hub.registry.devices[a.device]? = some d ∧ a.event.kind = .data ∧
    a.event.origin = some (d.origin a.endpoint)
  named : a.ref < hub.events.nextRef
  event : ∀ event, hub.events.event? a.ref = some event → event = a.event

theorem Arrives.recalls {a : Arrival} (h : hub.Arrives a next) : next.Recalls a where
  device := h.device
  named := h.named
  event event hlive := by
    rw [h.event] at hlive
    exact (Option.some.inj hlive).symm

/-- As time goes on, devices stay and events do not change. -/
theorem Recalls.later {a : Arrival} (h : hub.Recalls a)
    (hextends : hub.registry.Extends next.registry) (hprecedes : hub.events.Precedes next.events) :
    next.Recalls a where
  device := by
    obtain ⟨d, hdevice, hkind, horigin⟩ := h.device
    obtain ⟨later, hlater, hsame⟩ := hextends.device hdevice
    exact ⟨later, hlater, hkind, by rw [horigin, Device.origin_of_same hsame]⟩
  named := h.named.trans_le hprecedes.names
  event event hlive := h.event event (hprecedes.events a.ref h.named event hlive)

/-- The event that an endpoint keeps is live. -/
theorem Accounts.event?_kept {a : Arrival} {index endpoint : Nat}
    (h : hub.Accounts bounds outside slots loans) (hrecalls : hub.Recalls a)
    (hretained : hub.registry.retainedAt index endpoint = some a.ref) :
    hub.events.event? a.ref = some a.event := by
  have hkept := List.mem_append_right hub.exchange.dispatcher.queued
    (Registry.retainedAt_kept hretained)
  obtain ⟨event, hlive⟩ := h.events.event?_held (List.mem_append_left outside hkept)
  rw [hlive, hrecalls.event event hlive]

/-- A payload that is taken arrives, and so does no other. -/
theorem receive_arrives (addr : DeviceAddr) (payload : Payload) (client : σ)
    (h : hub.Accounts bounds outside slots loans) :
    let answer := hub.receive addr payload.bytes payload.timestamp client
    hub.registry.Shifts (hub.arrival? addr payload) answer.2.1.registry ∧
      (∀ a, hub.arrival? addr payload = some a → answer.2.1.Recalls a) ∧
      ((hub.arrival? addr payload).isSome ↔ ∃ matched, answer.1 = .ok matched) := by
  unfold Hub.receive
  cases hintake : hub.intake addr payload with
  | mk result next =>
    cases result with
    | error halt =>
      obtain ⟨hnone, hshifts⟩ := intake_lost hintake
      rw [hnone]
      exact ⟨hshifts, by simp, by simp⟩
    | ok made =>
      obtain ⟨ref, retained⟩ := made
      obtain ⟨a, hsome, -, harrives, -⟩ := intake_arrives h hintake
      rw [hsome]
      refine ⟨harrives.shifts, ?_, by simp⟩
      rintro _ ⟨⟩
      exact harrives.recalls.later (.refl _) (next.dispatch_precedes ref retained client)

/-! The dispatch of the event of a payload. -/

/-- In the dispatch of an event, whose turns these are, filters and hooks find it kept by its
endpoint. -/
structure Shows (hub : Hub σ) (a : Arrival) (client : σ) (turns : List (Turn σ)) : Prop where
  chained : Turn.Chained (hub.exchange, client) turns
    (Exchange.publish a.ref hub.exchange client).2
  lawful : ∀ t ∈ turns, t.Lawful a.ref a.event
  kept : hub.lastEvent? a.device a.endpoint = some a.event
  asked : ∀ t ∈ turns,
    ({ hub with exchange := t.found.1 } : Hub σ).lastEvent? a.device a.endpoint = some a.event
  told : ∀ t ∈ turns, ∀ x after, t.verdict = some (true, x, after) →
    x.dispatcher.isOpen t.id = true →
      ({ hub with exchange := x.push t.id a.ref } : Hub σ).lastEvent? a.device a.endpoint =
        some a.event

/-- As long as its maker holds an event, it is kept wherever the dispatch has come to. -/
theorem Arrives.shows {a : Arrival} (h : hub.Arrives a next)
    (haccounts : next.Accounts bounds (a.ref :: outside) slots loans)
    (hretains : next.registry.retainsAt a.device a.endpoint = true) (client : σ) :
    next.Shows a client
      (Exchange.course a.ref a.event next.exchange.dispatcher.listed next.exchange client) := by
  have hretained : next.registry.retainedAt a.device a.endpoint = some a.ref := by
    rw [h.shifts a.device a.endpoint]
    simp [hretains]
  have hheld : a.ref ∈ next.registry.kept ++ a.ref :: outside :=
    List.mem_append_right _ List.mem_cons_self
  have hbooks : Exchange.KeptByTurns a.ref fun x : Exchange σ =>
      x.Accounts bounds (next.registry.kept ++ a.ref :: outside) slots loans :=
    Exchange.accounts_kept hheld
  have hsame : Exchange.KeptByTurns a.ref fun x : Exchange σ => next.events.Precedes x.events :=
    Exchange.precedes_kept next.events a.ref
  have hfinds {x : Exchange σ}
      (hx : x.Accounts bounds (next.registry.kept ++ a.ref :: outside) slots loans)
      (hprecedes : next.events.Precedes x.events) :
      ({ next with exchange := x } : Hub σ).lastEvent? a.device a.endpoint = some a.event := by
    obtain ⟨event, hlive⟩ := hx.events.event?_held (List.mem_append_right _ hheld)
    have hmade := hprecedes.events a.ref h.named event hlive
    rw [h.event] at hmade
    have hfound : x.events.event? a.ref = some a.event := hlive.trans hmade.symm
    unfold Hub.lastEvent?
    rw [hretained]
    exact hfound
  have hcourse := hbooks.course a.event next.exchange.dispatcher.listed client haccounts.exchange
  have hlineage := hsame.course a.event next.exchange.dispatcher.listed client (.refl next.events)
  obtain ⟨stored, hfind, hstored⟩ := Option.map_eq_some_iff.mp h.event
  have hpublish : Exchange.publish a.ref next.exchange client =
      Exchange.offerAll a.ref a.event next.exchange.dispatcher.listed next.exchange client := by
    have hlive : next.exchange.events.find? a.ref = some stored := hfind
    unfold Exchange.publish
    rw [hlive, ← hstored]
  constructor
  · rw [hpublish]
    exact (Exchange.offerAll_course a.ref a.event _ next.exchange client).2
  · exact Exchange.course_lawful a.ref a.event _ next.exchange client
  · exact hfinds haccounts.exchange (.refl next.events)
  · intro t ht
    exact hfinds (hcourse t ht).1 (hlineage t ht).1
  · intro t ht x after hverdict hopen
    exact hfinds (hbooks.push x t.id hopen ((hcourse t ht).2 true x after hverdict))
      (hsame.push x t.id hopen ((hlineage t ht).2 true x after hverdict))

/-- A payload that arrives is dispatched from where its event is in its place. -/
theorem receive_shows {a : Arrival} (h : hub.Accounts bounds outside slots loans)
    (harrival : hub.arrival? addr payload = some a) (client : σ) :
    ∃ retained next,
      let answer := next.dispatch a.ref retained client
      hub.intake addr payload = (.ok (a.ref, retained), next) ∧
      hub.receive addr payload.bytes payload.timestamp client = (.ok answer.1, answer.2) ∧
      (next.registry.retainsAt a.device a.endpoint = true → next.Shows a client
        (Exchange.course a.ref a.event next.exchange.dispatcher.listed next.exchange client)) := by
  obtain ⟨retained, next, hintake, harrives, -⟩ := intake_of_arrival? h harrival
  have haccounts := h.intake addr payload
  rw [hintake] at haccounts
  refine ⟨retained, next, hintake, ?_, fun hretains => harrives.shows haccounts hretains client⟩
  unfold Hub.receive
  rw [hintake]

theorem command_shifts (hub : Hub σ) (addr : DeviceAddr) (endpoint : Nat) (value : DataValue)
    (client : σ) :
    hub.registry.Shifts none (hub.command addr endpoint value client).2.1.registry := by
  rw [command_registry]
  intro i p
  unfold Hub.order
  cases hlookup : hub.registry.lookup? addr with
  | none => rfl
  | some known =>
    obtain ⟨index, device⟩ := known
    have hcounted (f : DeviceStats → DeviceStats) :
        (hub.registry.update index fun d => { d with stats := f d.stats }).retainedAt i p =
          hub.registry.retainedAt i p :=
      hub.registry.update_retainedAt_same index
        (f := fun d => { d with stats := f d.stats }) (fun _ => rfl) i p
    dsimp only
    cases hencode : device.encode endpoint value with
    | ok made =>
      dsimp only
      rw [report_registry]
      exact hcounted fun stats => stats.send made.1.length
    | error cause =>
      dsimp only
      rw [report_registry]
      exact hcounted fun stats => stats.fail cause

end Hub

namespace HubInUse

/-- The arrival that an operation is, if it is one. -/
def Deed.arrival? (d : Deed κ σ) : Option Arrival :=
  match d.operation with
  | .receive addr payload => d.before.hub.arrival? addr payload
  | _ => none

variable {e : HubInUse κ σ} {bounds : EventStore.Bounds}

/-- Only a payload that arrives changes what is kept. -/
theorem operate_shifts (confOf : Nat → κ → SubscriptionConf σ) (operation : HubOperation κ)
    (h : e.Accounts bounds) :
    e.hub.registry.Shifts (Deed.arrival? ⟨e, operation⟩)
      (e.operate confOf operation).hub.registry := by
  rw [operate_registry]
  cases operation with
  | register addr => exact fun i endpoint => e.hub.register_retainedAt addr i endpoint
  | receive addr payload => exact (Hub.receive_arrives addr payload e.client h).1
  | command addr endpoint value => exact e.hub.command_shifts addr endpoint value e.client
  | _ => exact fun _ _ => rfl

/-- What arrives is remembered. -/
theorem operate_recalls (confOf : Nat → κ → SubscriptionConf σ) (operation : HubOperation κ)
    (h : e.Accounts bounds) {a : Arrival} (harrival : Deed.arrival? ⟨e, operation⟩ = some a) :
    (e.operate confOf operation).hub.Recalls a := by
  cases operation with
  | receive addr payload => exact (Hub.receive_arrives addr payload e.client h).2.1 a harrival
  | _ => cases harrival

/-- The payloads that are taken are those that arrive. -/
theorem Deed.arrival?_isSome (d : Deed κ σ) (h : d.before.Accounts bounds) :
    d.arrival?.isSome = d.payloadTaken := by
  obtain ⟨e, operation⟩ := d
  cases operation with
  | receive addr payload =>
    have htaken := (Hub.receive_arrives addr payload e.client h).2.2
    rw [Bool.eq_iff_iff]
    refine htaken.trans ?_
    simp only [payloadTaken, receipt?]
    cases (e.hub.receive addr payload.bytes payload.timestamp e.client).1 <;> simp
  | _ => rfl

/-- What arrived in some operations, in order. -/
def arrivals (deeds : List (Deed κ σ)) : List Arrival := deeds.filterMap Deed.arrival?

/-- The last that arrived for an endpoint of the device at a position. -/
def latest? (deeds : List (Deed κ σ)) (index endpoint : Nat) : Option Arrival :=
  ((arrivals deeds).filter fun a => a.device = index ∧ a.endpoint = endpoint).getLast?

theorem latest?_snoc (deeds : List (Deed κ σ)) (d : Deed κ σ) (index endpoint : Nat) :
    latest? (deeds ++ [d]) index endpoint =
      match d.arrival? with
      | some a =>
        if a.device = index ∧ a.endpoint = endpoint then some a else latest? deeds index endpoint
      | none => latest? deeds index endpoint := by
  unfold latest? arrivals
  rw [List.filterMap_append, List.filter_append]
  cases harrival : d.arrival? with
  | none => simp [harrival]
  | some a =>
    by_cases hhere : a.device = index ∧ a.endpoint = endpoint
    · simp [harrival, hhere]
    · simp [harrival, hhere]

theorem of_latest? {deeds : List (Deed κ σ)} {index endpoint : Nat} {a : Arrival}
    (h : latest? deeds index endpoint = some a) :
    a ∈ arrivals deeds ∧ a.device = index ∧ a.endpoint = endpoint := by
  have hin := List.mem_of_getLast? h
  simpa using hin

/-- What endpoints keep after some operations. -/
structure Keeps (e : HubInUse κ σ) (deeds : List (Deed κ σ)) : Prop where
  recalled : ∀ a ∈ arrivals deeds, e.hub.Recalls a
  retained : ∀ i endpoint, e.hub.registry.retainedAt i endpoint =
    if e.hub.registry.retainsAt i endpoint then (latest? deeds i endpoint).map Arrival.ref else none

/-- Nothing arrived for a device that there is not. -/
theorem Keeps.latest?_absent {deeds : List (Deed κ σ)} (h : e.Keeps deeds) {index : Nat}
    (habsent : e.hub.registry.devices[index]? = none) (endpoint : Nat) :
    latest? deeds index endpoint = none := by
  rw [Option.eq_none_iff_forall_ne_some]
  intro a hlatest
  obtain ⟨hin, rfl, -⟩ := of_latest? hlatest
  obtain ⟨d, hdevice, -⟩ := (h.recalled a hin).device
  rw [habsent] at hdevice
  cases hdevice

theorem Keeps.operate {deeds : List (Deed κ σ)} (h : e.Keeps deeds)
    (haccounts : e.Accounts bounds) (confOf : Nat → κ → SubscriptionConf σ)
    (operation : HubOperation κ) :
    (e.operate confOf operation).Keeps (deeds ++ [⟨e, operation⟩]) := by
  have hextends := (e.operate_becomes confOf operation).extends
  have hprecedes := e.operate_precedes confOf operation
  constructor
  · intro a ha
    unfold arrivals at ha
    rw [List.filterMap_append] at ha
    rcases List.mem_append.mp ha with hearlier | hnow
    · exact (h.recalled a hearlier).later hextends hprecedes
    · obtain ⟨d, hd, harrival⟩ := List.mem_filterMap.mp hnow
      rw [List.mem_singleton.mp hd] at harrival
      exact operate_recalls confOf operation haccounts harrival
  · intro i p
    -- Whether an endpoint keeps events is settled when its device joins, with nothing kept yet.
    have hbefore : e.hub.registry.retainedAt i p =
        if (e.operate confOf operation).hub.registry.retainsAt i p then
          (latest? deeds i p).map Arrival.ref else none := by
      rw [h.retained i p]
      cases hdevice : e.hub.registry.devices[i]? with
      | none => simp [h.latest?_absent hdevice]
      | some d => rw [hextends.retainsAt hdevice]
    rw [operate_shifts confOf operation haccounts i p, latest?_snoc, hbefore]
    cases Deed.arrival? ⟨e, operation⟩ with
    | none => rfl
    | some a =>
      dsimp only
      by_cases hhere : a.device = i ∧ a.endpoint = p
      · obtain ⟨rfl, rfl⟩ := hhere
        cases hkeeps : (e.operate confOf operation).hub.registry.retainsAt a.device a.endpoint <;>
          simp
      · rw [if_neg hhere, if_neg fun hall => hhere ⟨hall.1, hall.2.1⟩]

variable {config : HubConfig} {capability? : DeviceType → Option Capability} {now : UInt32}
  {hub : Hub σ}

theorem start_keeps (hnew : Hub.new config capability? now = .ok hub) (client : σ) :
    (HubInUse.start hub client : HubInUse κ σ).Keeps [] := by
  rw [Hub.new_eq hnew]
  constructor
  · intro a ha
    cases ha
  · intro i p
    simp [HubInUse.start, Registry.new, Registry.retainedAt, latest?, arrivals]

theorem Path.keeps (hnew : Hub.new config capability? now = .ok hub) {client : σ}
    {confOf : Nat → κ → SubscriptionConf σ} {deeds : List (Deed κ σ)} {e : HubInUse κ σ}
    (h : Path confOf (HubInUse.start hub client) deeds e) : e.Keeps deeds := by
  induction h with
  | start => exact start_keeps hnew client
  | operate hpath operation ih =>
    have haccounts := hpath.accounts hnew
    exact ih.operate haccounts confOf operation
  | @pin deeds e _ _ d _ pinMask ih =>
    have hheld := e.hub.events.foldl_hold_precedes ((d.pins pinMask).filterMap id)
    exact ⟨fun a ha => (ih.recalled a ha).later (.refl _) hheld, ih.retained⟩
  | @unpin deeds e _ held pins _ ih =>
    have hreleased := e.hub.events.releaseAll_precedes held
    exact ⟨fun a ha => (ih.recalled a ha).later (.refl _) hreleased, ih.retained⟩

/-- What is kept is live, and what was made of the payload. -/
theorem Keeps.lastEvent? {deeds : List (Deed κ σ)} (h : e.Keeps deeds)
    (haccounts : e.Accounts bounds) (index endpoint : Nat) :
    e.hub.lastEvent? index endpoint =
      if e.hub.registry.retainsAt index endpoint then
        (latest? deeds index endpoint).map Arrival.event else none := by
  have hretained := h.retained index endpoint
  unfold Hub.lastEvent?
  rw [hretained]
  cases hkeeps : e.hub.registry.retainsAt index endpoint with
  | false => rfl
  | true =>
    rw [hkeeps] at hretained
    simp only [if_true] at hretained ⊢
    cases hlatest : latest? deeds index endpoint with
    | none => rfl
    | some a =>
      rw [hlatest] at hretained
      exact haccounts.event?_kept (h.recalled a (of_latest? hlatest).1) hretained

/-- What an operation makes of what an endpoint keeps. -/
theorem Keeps.operate_lastEvent? {deeds : List (Deed κ σ)} (h : e.Keeps deeds)
    (haccounts : e.Accounts bounds) (confOf : Nat → κ → SubscriptionConf σ)
    (operation : HubOperation κ) (index endpoint : Nat) :
    let later := (e.operate confOf operation).hub
    later.lastEvent? index endpoint =
      match Deed.arrival? ⟨e, operation⟩ with
      | some a =>
        if a.device = index ∧ a.endpoint = endpoint ∧ later.registry.retainsAt index endpoint = true
        then some a.event else e.hub.lastEvent? index endpoint
      | none => e.hub.lastEvent? index endpoint := by
  have hextends := (e.operate_becomes confOf operation).extends
  have hbefore : e.hub.lastEvent? index endpoint =
      if (e.operate confOf operation).hub.registry.retainsAt index endpoint then
        (latest? deeds index endpoint).map Arrival.event else none := by
    rw [h.lastEvent? haccounts]
    cases hdevice : e.hub.registry.devices[index]? with
    | none => simp [h.latest?_absent hdevice]
    | some d => rw [hextends.retainsAt hdevice]
  dsimp only
  rw [(h.operate haccounts confOf operation).lastEvent? (haccounts.operate confOf operation),
    latest?_snoc, hbefore]
  cases Deed.arrival? ⟨e, operation⟩ with
  | none => rfl
  | some a =>
    dsimp only
    cases hkeeps : (e.operate confOf operation).hub.registry.retainsAt index endpoint with
    | false => simp
    | true => by_cases hhere : a.device = index ∧ a.endpoint = endpoint <;> simp [hhere]

/-- The events that endpoints keep after some operations: the last that arrived for each, if it is
told to keep it, as an event of its device and itself. -/
structure Retained (e : HubInUse κ σ) (deeds : List (Deed κ σ)) : Prop where
  /-- The payloads that were taken are those that arrived. -/
  taken : ∀ d ∈ deeds, d.arrival?.isSome = d.payloadTaken
  kept : ∀ index (d : Device), e.hub.registry.devices[index]? = some d → ∀ endpoint,
    d.retained? endpoint = if (d.config? endpoint).any EndpointConfig.retains then
      (latest? deeds index endpoint).map Arrival.ref else none
  event : ∀ index (d : Device), e.hub.registry.devices[index]? = some d → ∀ endpoint,
    e.hub.lastEvent? index endpoint = if (d.config? endpoint).any EndpointConfig.retains then
      (latest? deeds index endpoint).map Arrival.event else none
  data : ∀ index (d : Device), e.hub.registry.devices[index]? = some d → ∀ endpoint a,
    latest? deeds index endpoint = some a →
      a.event.kind = .data ∧ a.event.origin = some (d.origin endpoint)

theorem Path.taken (hnew : Hub.new config capability? now = .ok hub) {client : σ}
    {confOf : Nat → κ → SubscriptionConf σ} {deeds : List (Deed κ σ)} {e : HubInUse κ σ}
    (h : Path confOf (HubInUse.start hub client) deeds e) :
    ∀ d ∈ deeds, d.arrival?.isSome = d.payloadTaken := by
  induction h with
  | start => simp
  | @operate deeds e hpath operation ih =>
    have haccounts := hpath.accounts hnew
    intro d hd
    rcases List.mem_append.mp hd with hearlier | hnow
    · exact ih d hearlier
    · rw [List.mem_singleton.mp hnow]
      exact Deed.arrival?_isSome ⟨e, operation⟩ haccounts
  | pin _ _ _ ih => exact ih
  | unpin _ _ ih => exact ih

theorem Path.retained (hnew : Hub.new config capability? now = .ok hub) {client : σ}
    {confOf : Nat → κ → SubscriptionConf σ} {deeds : List (Deed κ σ)} {e : HubInUse κ σ}
    (h : Path confOf (HubInUse.start hub client) deeds e) : e.Retained deeds := by
  have hkeeps := h.keeps hnew
  have haccounts := h.accounts hnew
  refine ⟨h.taken hnew, ?_, ?_, ?_⟩
  · intro index d hdevice endpoint
    rw [← Registry.retainedAt_of_device hdevice, ← Registry.retainsAt_of_device hdevice]
    exact hkeeps.retained index endpoint
  · intro index d hdevice endpoint
    rw [← Registry.retainsAt_of_device hdevice]
    exact hkeeps.lastEvent? haccounts index endpoint
  · intro index d hdevice endpoint a hlatest
    obtain ⟨hin, rfl, rfl⟩ := of_latest? hlatest
    obtain ⟨later, hlater, hkind, horigin⟩ := (hkeeps.recalled a hin).device
    rw [hdevice] at hlater
    cases hlater
    exact ⟨hkind, horigin⟩

/-- Whatever clients do, an endpoint that is told to keep its latest event keeps that of the last
payload that was taken for it, and no other operation changes what it keeps. In the dispatch of
the event, filters and hooks find it there. -/
theorem states_retained (hnew : Hub.new config capability? now = .ok hub) (client : σ)
    (confOf : Nat → κ → SubscriptionConf σ) :
    (∀ actions, ∀ e ∈ states confOf actions (HubInUse.start hub client),
      ∃ deeds, Path confOf (HubInUse.start hub client) deeds e) ∧
    ∀ deeds e, Path confOf (HubInUse.start hub client) deeds e →
      e.Retained deeds ∧
      (∀ operation index endpoint,
        let later := (e.operate confOf operation).hub
        later.lastEvent? index endpoint =
          match Deed.arrival? ⟨e, operation⟩ with
          | some a =>
            if a.device = index ∧ a.endpoint = endpoint ∧
                later.registry.retainsAt index endpoint = true
            then some a.event else e.hub.lastEvent? index endpoint
          | none => e.hub.lastEvent? index endpoint) ∧
      ∀ addr payload a, e.hub.arrival? addr payload = some a → ∃ retained next,
        let answer := next.dispatch a.ref retained e.client
        e.hub.intake addr payload = (.ok (a.ref, retained), next) ∧
        e.hub.receive addr payload.bytes payload.timestamp e.client = (.ok answer.1, answer.2) ∧
        (next.registry.retainsAt a.device a.endpoint = true → next.Shows a e.client
          (Exchange.course a.ref a.event next.exchange.dispatcher.listed next.exchange
            e.client)) := by
  refine ⟨fun actions => states_path confOf actions _, ?_⟩
  intro deeds e hpath
  have haccounts := hpath.accounts hnew
  refine ⟨hpath.retained hnew, ?_, ?_⟩
  · exact (hpath.keeps hnew).operate_lastEvent? haccounts confOf
  · intro addr payload a harrival
    exact Hub.receive_shows haccounts harrival e.client

/-- The gateway's own board sends a temperature, then no number, then another temperature, and
keeps the last one. -/
theorem states_retained_nucleo :
    ∃ hub : Hub Unit, Hub.new {} Builtin.capability? 0 = .ok hub ∧
      let run := states (fun _ (conf : SubscriptionConf Unit) => conf)
        [.operate (.receive (.onBoard .nucleoF429zi) { bytes := [0, 0, 200, 65], timestamp := 5 }),
          .operate
            (.receive (.onBoard .nucleoF429zi) { bytes := [0, 0, 192, 127], timestamp := 6 }),
          .operate
            (.receive (.onBoard .nucleoF429zi) { bytes := [0, 0, 160, 65], timestamp := 7 })]
        (HubInUse.start hub ())
      ∃ e ∈ run, (e.hub.lastEvent? 0 0).map Event.timestamp = some 7 ∧
        ∃ deeds, Path (fun _ conf => conf) (HubInUse.start hub ()) deeds e ∧ e.Retained deeds := by
  refine ⟨_, rfl, ?_⟩
  intro run
  have hlast := List.mem_of_getElem? (l := run) (i := 3) rfl
  obtain ⟨hpaths, hretained⟩ := @states_retained _ _ {} Builtin.capability? 0 _ rfl ()
    fun _ (conf : SubscriptionConf Unit) => conf
  obtain ⟨deeds, hpath⟩ := hpaths _ _ hlast
  exact ⟨_, hlast, rfl, deeds, hpath, (hretained deeds _ hpath).1⟩

end HubInUse

end HomeGateway
