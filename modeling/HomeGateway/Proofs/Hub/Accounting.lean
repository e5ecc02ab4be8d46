import Mathlib
import HomeGateway.Proofs.Subscription.Exchange
import HomeGateway.Survey

/-!
The hub keeps its books. Events are held by queues, by the endpoints that keep their latest
event, and by whoever called the hub; every operation of the hub gives back what it took, also
where it fails half way.
-/

namespace HomeGateway

variable {σ : Type}

/-- What the endpoints of a device keep. -/
def Device.kept (d : Device) : List EventRef := d.endpoints.filterMap Endpoint.retained

/-- What all devices keep. -/
def Registry.kept (r : Registry) : List EventRef := r.devices.flatMap Device.kept

/-- A retained event takes the place of the one before. -/
theorem Device.kept_retain {d : Device} {endpoint : Nat} (ref : EventRef)
    (hendpoint : endpoint < d.endpoints.length) :
    ∃ rest, d.kept.Perm ((d.retained? endpoint).toList ++ rest) ∧
      (d.retain endpoint ref).kept.Perm (ref :: rest) := by
  obtain ⟨before, e, after, hsplit, hlength, hmodify⟩ :=
    List.exists_of_modify (fun e : Endpoint => { e with retained := some ref }) hendpoint
  refine ⟨(before ++ after).filterMap Endpoint.retained, ?_, ?_⟩
  · have hretained : d.retained? endpoint = e.retained := by
      simp [Device.retained?, hsplit, ← hlength]
    unfold Device.kept
    rw [hsplit, hretained]
    refine (List.perm_middle.filterMap Endpoint.retained).trans ?_
    cases hkept : e.retained <;> simp [hkept]
  · unfold Device.kept Device.retain
    rw [hmodify]
    exact List.perm_middle.filterMap Endpoint.retained

theorem Registry.kept_update {r : Registry} {index : Nat} {d : Device} (f : Device → Device)
    (hdevice : r.devices[index]? = some d) :
    ∃ rest, r.kept.Perm (d.kept ++ rest) ∧ (r.update index f).kept.Perm ((f d).kept ++ rest) := by
  obtain ⟨hlt, hget⟩ := List.getElem?_eq_some_iff.mp hdevice
  obtain ⟨before, e, after, hsplit, hlength, hmodify⟩ := List.exists_of_modify f hlt
  have he : e = d := by
    subst hget
    simp [hsplit, ← hlength]
  subst he
  refine ⟨(before ++ after).flatMap Device.kept, ?_, ?_⟩
  · unfold Registry.kept
    rw [hsplit]
    exact List.perm_middle.flatMap_right Device.kept
  · unfold Registry.kept Registry.update
    rw [hmodify]
    exact List.perm_middle.flatMap_right Device.kept

/-- An update that leaves the endpoints alone leaves what they keep alone. -/
theorem Registry.kept_update_same (r : Registry) (index : Nat) (f : Device → Device)
    (hsame : ∀ d, (f d).endpoints = d.endpoints) : (r.update index f).kept = r.kept := by
  unfold Registry.kept Registry.update
  by_cases hlt : index < r.devices.length
  · obtain ⟨before, d, after, hsplit, _, hmodify⟩ := List.exists_of_modify f hlt
    rw [hmodify, hsplit]
    simp [Device.kept, hsame]
  · rw [List.modify_eq_self (Nat.le_of_not_lt hlt)]

/-- A new device keeps nothing. -/
theorem Registry.kept_register (r : Registry) (addr : DeviceAddr) (now : UInt32) :
    (r.register addr now).2.kept = r.kept := by
  unfold Registry.register
  split
  · rfl
  · split
    · rfl
    · simp [Registry.kept, Device.kept]

/-- A payload goes to an endpoint that the device has. -/
theorem Device.route_lt {d : Device} {payload : Payload} {index : Nat} {config : EndpointConfig}
    (h : d.route payload = .ok (index, config)) :
    d.config? index = some config ∧ index < d.endpoints.length := by
  unfold Device.route at h
  split at h
  · cases h
  · split at h
    · cases h
    · rename_i found hconfig
      split at h
      · cases h
      · cases h
        obtain ⟨e, he, _⟩ := Option.map_eq_some_iff.mp hconfig
        exact ⟨hconfig, (List.getElem?_eq_some_iff.mp he).1⟩

namespace Hub

/-- The events that the hub holds itself, in queues and on endpoints. -/
def inside (hub : Hub σ) : List EventRef := hub.exchange.dispatcher.queued ++ hub.registry.kept

/-- All events are held by queues, by endpoints, each by one at most, or stand in `outside`. -/
structure Accounts (hub : Hub σ) (bounds : EventStore.Bounds) (outside : List EventRef)
    (slots : List Nat) (loans : List UInt64) : Prop where
  events : hub.events.Accounts bounds (hub.inside ++ outside) slots loans
  ordered : hub.exchange.dispatcher.Ordered
  keptOnce : hub.registry.kept.Nodup

variable {hub : Hub σ} {bounds : EventStore.Bounds} {outside : List EventRef}
  {slots : List Nat} {loans : List UInt64}

/-- A new hub knows no device, holds no event and has counted nothing. -/
theorem new_eq {config : HubConfig} {capability? : DeviceType → Option Capability}
    {now : UInt32} (h : Hub.new config capability? now = .ok hub) :
    hub =
      { config
        registry := .new config.maxDevices.toNat capability?
          (.ofConfig config.rooms config.roomAssocs)
        exchange :=
          { events := .new config.maxEvents.toNat config.dataHeapLimit
            dispatcher := .new config.maxSubscriptions.toNat
            counters := {} }
        now } := by
  unfold Hub.new at h
  split at h
  · cases h
  · cases h
    rfl

theorem new_accounts {config : HubConfig} {capability? : DeviceType → Option Capability}
    {now : UInt32} (h : Hub.new config capability? now = .ok hub) :
    hub.Accounts ⟨config.maxEvents.toNat, config.dataHeapLimit⟩ [] [] [] := by
  rw [new_eq h]
  exact ⟨EventStore.new_accounts _ _, Dispatcher.new_ordered _, List.nodup_nil⟩

theorem Accounts.exchange (h : hub.Accounts bounds outside slots loans) :
    hub.exchange.Accounts bounds (hub.registry.kept ++ outside) slots loans := by
  refine ⟨?_, h.ordered⟩
  rw [← List.append_assoc]
  exact h.events

/-- What an operation of the exchange keeps. -/
theorem Accounts.with_exchange {exchange : Exchange σ} {other : List EventRef}
    {otherSlots : List Nat} {otherLoans : List UInt64} (h : hub.Accounts bounds outside slots loans)
    (hexchange : exchange.Accounts bounds (hub.registry.kept ++ other) otherSlots otherLoans) :
    ({ hub with exchange } : Hub σ).Accounts bounds other otherSlots otherLoans := by
  refine ⟨?_, hexchange.ordered, h.keptOnce⟩
  unfold Hub.inside
  rw [List.append_assoc]
  exact hexchange.events

/-- Events change hands outside of queues and endpoints. -/
theorem Accounts.withEvents {events : EventStore} {other : List EventRef}
    {otherSlots : List Nat} {otherLoans : List UInt64} (h : hub.Accounts bounds outside slots loans)
    (hevents : events.Accounts bounds (hub.inside ++ other) otherSlots otherLoans) :
    (hub.withEvents events).Accounts bounds other otherSlots otherLoans :=
  ⟨hevents, h.ordered, h.keptOnce⟩

/-- An event that was not held before is held by its maker. -/
theorem Accounts.with_new {events : EventStore} {ref : EventRef} {otherSlots : List Nat}
    {otherLoans : List UInt64} (h : hub.Accounts bounds outside slots loans)
    (hevents : events.Accounts bounds (ref :: (hub.inside ++ outside)) otherSlots otherLoans) :
    (hub.withEvents events).Accounts bounds (ref :: outside) otherSlots otherLoans :=
  h.withEvents (hevents.holders_perm List.perm_middle.symm)

theorem Accounts.outside_perm {other : List EventRef} (h : hub.Accounts bounds outside slots loans)
    (hperm : outside.Perm other) : hub.Accounts bounds other slots loans :=
  ⟨h.events.holders_perm (hperm.append_left _), h.ordered, h.keptOnce⟩

theorem Accounts.perm {other : List EventRef} {otherSlots : List Nat} {otherLoans : List UInt64}
    (h : hub.Accounts bounds outside slots loans) (houtside : outside.Perm other)
    (hslots : slots.Perm otherSlots) (hloans : loans.Perm otherLoans) :
    hub.Accounts bounds other otherSlots otherLoans :=
  ⟨h.events.perm (houtside.append_left _) hslots hloans, h.ordered, h.keptOnce⟩

/-- Counters hold no events. -/
theorem Accounts.count (f : Counters → Counters) (h : hub.Accounts bounds outside slots loans) :
    (hub.count f).Accounts bounds outside slots loans :=
  ⟨h.events, h.ordered, h.keptOnce⟩

theorem Accounts.with_registry {registry : Registry} (h : hub.Accounts bounds outside slots loans)
    (hkept : registry.kept = hub.registry.kept) :
    ({ hub with registry } : Hub σ).Accounts bounds outside slots loans := by
  refine ⟨?_, h.ordered, ?_⟩
  · change hub.events.Accounts bounds (hub.exchange.dispatcher.queued ++ registry.kept ++ outside)
      slots loans
    rw [hkept]
    exact h.events
  · change registry.kept.Nodup
    rw [hkept]
    exact h.keptOnce

/-- Statistics hold no events either. -/
theorem inside_updateStats (hub : Hub σ) (index : Nat) (f : DeviceStats → DeviceStats) :
    (hub.updateDevice index fun d => { d with stats := f d.stats }).inside = hub.inside := by
  have hkept := hub.registry.kept_update_same index
    (fun d => { d with stats := f d.stats }) fun _ => rfl
  unfold Hub.inside
  rw [← hkept]
  rfl

theorem Accounts.updateStats (index : Nat) (f : DeviceStats → DeviceStats)
    (h : hub.Accounts bounds outside slots loans) :
    (hub.updateDevice index fun d => { d with stats := f d.stats }).Accounts
      bounds outside slots loans :=
  h.with_registry (hub.registry.kept_update_same index _ fun _ => rfl)

theorem Accounts.countFailure {index : Nat} {cause : IngestError} {command : Bool}
    (h : hub.Accounts bounds outside slots loans) :
    (hub.countFailure index cause command).Accounts bounds outside slots loans :=
  (h.updateStats index fun stats => stats.fail cause).count _

theorem Accounts.release {ref : EventRef} (h : hub.Accounts bounds (ref :: outside) slots loans) :
    (hub.release ref).Accounts bounds outside slots loans :=
  h.with_exchange (h.exchange.outside_perm List.perm_middle).release

theorem Accounts.register (addr : DeviceAddr) (h : hub.Accounts bounds outside slots loans) :
    (hub.register addr).2.Accounts bounds outside slots loans := by
  have hregistered := h.with_registry (hub.registry.kept_register addr hub.now)
  unfold Hub.register
  cases hrun : hub.registry.register addr hub.now with
  | mk result registry =>
    simp only [hrun] at hregistered
    dsimp only
    split
    · exact hregistered.count (fun c => c.registrationFailed _)
    · exact hregistered

/-- The event an endpoint kept before is released, the new one has the endpoint as one more
holder. -/
theorem Accounts.retain {index endpoint : Nat} {ref : EventRef} {d : Device}
    (h : hub.Accounts bounds outside slots loans) (hdevice : hub.registry.devices[index]? = some d)
    (hendpoint : endpoint < d.endpoints.length) (hheld : ref ∈ outside)
    (hnew : ref ∉ hub.inside) :
    (hub.retain index endpoint ref).Accounts bounds outside slots loans := by
  obtain ⟨others, hbefore, hafter⟩ :=
    hub.registry.kept_update (fun d => d.retain endpoint ref) hdevice
  obtain ⟨rest, hearlier, hlater⟩ := Device.kept_retain ref hendpoint
  have hkeptBefore := hbefore.trans (hearlier.append_right others)
  have hkeptAfter := hafter.trans (hlater.append_right others)
  have honce : (hub.registry.update index fun d => d.retain endpoint ref).kept.Nodup := by
    rw [hkeptAfter.nodup_iff]
    have hold := hkeptBefore.nodup_iff.mp h.keptOnce
    rw [List.append_assoc] at hold
    have hfresh : ref ∉ hub.registry.kept := fun hin => hnew (List.mem_append_right _ hin)
    rw [hkeptBefore.mem_iff, List.append_assoc, List.mem_append, not_or] at hfresh
    exact List.nodup_cons.mpr ⟨hfresh.2, (List.nodup_append.mp hold).2.1⟩
  have hholders : (ref :: (hub.inside ++ outside)).Perm
      (hub.exchange.dispatcher.queued ++
        (hub.registry.update index fun d => d.retain endpoint ref).kept ++
          ((d.retained? endpoint).toList ++ outside)) := by
    rw [List.perm_iff_count]
    intro other
    have hcountBefore := hkeptBefore.count_eq other
    have hcountAfter := hkeptAfter.count_eq other
    simp only [Hub.inside, List.count_append, List.count_cons, List.cons_append] at *
    omega
  have hswapped : ((hub.withEvents (hub.events.hold ref)).updateDevice index fun d =>
      d.retain endpoint ref).Accounts bounds
        ((d.retained? endpoint).toList ++ outside) slots loans :=
    ⟨(h.events.hold (List.mem_append_right _ hheld)).holders_perm hholders, h.ordered, honce⟩
  unfold Hub.retain
  simp only [hdevice, Option.bind_some]
  cases hkept : d.retained? endpoint with
  | none => simpa [hkept] using hswapped
  | some earlier =>
    rw [hkept] at hswapped
    exact hswapped.release

/-- A payload becomes an event that its maker holds, or leaves nothing behind. -/
theorem ingest_accounts {store : EventStore} {holders : List EventRef} (device : Device)
    (payload : Payload) (now : UInt32) (h : store.Accounts bounds holders slots loans) :
    let (result, next) := Hub.ingest store device payload now
    match result with
    | .error _ => next.Accounts bounds holders slots loans
    | .ok (ref, endpoint) => next.Accounts bounds (ref :: holders) slots loans ∧ ref ∉ holders ∧
        endpoint < device.endpoints.length := by
  unfold Hub.ingest
  cases htake : store.takeSlot with
  | error _ => exact h
  | ok taken =>
    obtain ⟨slot, begun⟩ := taken
    have hbegun := h.takeSlot htake
    dsimp only
    cases hroute : device.route payload with
    | error _ => exact hbegun.freeSlot
    | ok route =>
      obtain ⟨endpoint, config⟩ := route
      dsimp only
      cases hreserve : begun.reserve config.dataSize with
      | error _ => exact hbegun.freeSlot
      | ok paid =>
        have hpaid := hbegun.reserve hreserve
        dsimp only
        cases hdecode : config.decode payload with
        | error _ => exact hpaid.repay.freeSlot
        | ok decoded =>
          have hfrozen := hpaid.freeze (some config.dataSize)
            { kind := .data
              timestamp := decoded.timestamp.getD
                (if payload.timestamp = 0 then now else payload.timestamp)
              origin := some (device.origin endpoint)
              reading := some decoded.reading }
          refine ⟨hfrozen, fun hheld => Nat.lt_irrefl _ (hpaid.lt_nextRef hheld), ?_⟩
          exact (Device.route_lt hroute).2

/-- The event of a payload is left to whoever dispatches it. -/
theorem Accounts.absorb {index : Nat} {device : Device} (payload : Payload)
    (h : hub.Accounts bounds outside slots loans)
    (hdevice : hub.registry.devices[index]? = some device) :
    let (result, next) := hub.absorb index device payload
    match result with
    | .error _ => next.Accounts bounds outside slots loans
    | .ok (ref, _) => next.Accounts bounds (ref :: outside) slots loans := by
  have hingest := ingest_accounts device payload hub.now h.events
  unfold Hub.absorb
  cases hrun : ingest hub.events device payload hub.now with
  | mk result events =>
    simp only [hrun] at hingest
    cases result with
    | error cause => exact (h.withEvents hingest).countFailure
    | ok made =>
      obtain ⟨ref, endpoint⟩ := made
      obtain ⟨hevents, hnew, hendpoint⟩ := hingest
      have hcounted := (h.with_new hevents).updateStats index
        fun stats => stats.receive payload.bytes.length
      dsimp only
      split
      · refine hcounted.retain
          (d := { device with stats := device.stats.receive payload.bytes.length })
          ?_ hendpoint List.mem_cons_self ?_
        · simp [Hub.updateDevice, Registry.update, Hub.withEvents, hdevice]
        · rw [inside_updateStats (hub.withEvents events) index
            fun stats => stats.receive payload.bytes.length]
          exact fun hin => hnew (List.mem_append_left _ hin)
      · exact hcounted

theorem Accounts.intake (addr : DeviceAddr) (payload : Payload)
    (h : hub.Accounts bounds outside slots loans) :
    let (result, next) := hub.intake addr payload
    match result with
    | .error _ => next.Accounts bounds outside slots loans
    | .ok (ref, _) => next.Accounts bounds (ref :: outside) slots loans := by
  have hregistered := h.register addr
  unfold Hub.intake
  cases hregister : hub.register addr with
  | mk result known =>
    rw [hregister] at hregistered
    rcases result with (cause | _) | index
    · exact hregistered
    · exact hregistered
    · dsimp only
      cases hdevice : known.registry.devices[index]? with
      | none => exact hregistered
      | some device =>
        have habsorbed := hregistered.absorb payload hdevice
        dsimp only
        cases habsorb : known.absorb index device payload with
        | mk result next =>
          simp only [habsorb] at habsorbed
          cases result with
          | error _ => exact habsorbed
          | ok made => exact habsorbed

theorem Accounts.report (event : Event) (h : hub.Accounts bounds outside slots loans) :
    (hub.report event).2.Accounts bounds ((hub.report event).1.toList ++ outside) slots loans := by
  unfold Hub.report
  cases htake : hub.events.takeSlot with
  | error e => exact h.count fun c => c.eventDropped e.toIngest true
  | ok taken =>
    obtain ⟨slot, events⟩ := taken
    exact h.with_new ((h.events.takeSlot htake).freeze none event)

theorem Accounts.order (addr : DeviceAddr) (endpoint : Nat) (value : DataValue)
    (h : hub.Accounts bounds outside slots loans) :
    (hub.order addr endpoint value).2.2.Accounts
      bounds ((hub.order addr endpoint value).2.1.toList ++ outside) slots loans := by
  unfold Hub.order
  split
  · exact h
  · rename_i index device hlookup
    split
    · rename_i frame assignment hencode
      exact (h.updateStats index fun stats => stats.send frame.length).report _
    · exact h.countFailure.report _

/-- Dispatching an event uses up its maker's hold on it. -/
theorem Accounts.dispatch {ref : EventRef} (retained : Bool) (client : σ)
    (h : hub.Accounts bounds (ref :: outside) slots loans) :
    (hub.dispatch ref retained client).2.1.Accounts bounds outside slots loans := by
  have hpublished := h.exchange.publish client
    (List.mem_append_right hub.registry.kept List.mem_cons_self)
  unfold Hub.dispatch
  generalize Exchange.publish ref hub.exchange client = published at hpublished ⊢
  obtain ⟨matched, exchange, client⟩ := published
  exact ((h.with_exchange hpublished).count _).release

theorem Accounts.receive (addr : DeviceAddr) (bytes : List UInt8) (timestamp : UInt32)
    (client : σ) (h : hub.Accounts bounds outside slots loans) :
    (hub.receive addr bytes timestamp client).2.1.Accounts bounds outside slots loans := by
  have hmade := h.intake addr { bytes, timestamp }
  unfold Hub.receive
  cases hrun : hub.intake addr { bytes, timestamp } with
  | mk result next =>
    simp only [hrun] at hmade
    cases result with
    | error halt => exact hmade
    | ok made => exact hmade.dispatch made.2 client

theorem Accounts.command (addr : DeviceAddr) (endpoint : Nat) (value : DataValue) (client : σ)
    (h : hub.Accounts bounds outside slots loans) :
    (hub.command addr endpoint value client).2.1.Accounts bounds outside slots loans := by
  have hordered := h.order addr endpoint value
  unfold Hub.command
  generalize hub.order addr endpoint value = ordered at hordered ⊢
  obtain ⟨result, ref, next⟩ := ordered
  cases ref with
  | none => exact hordered
  | some ref => exact hordered.dispatch false client

theorem subscribe_exchange (hub : Hub σ) (conf : SubscriptionConf σ) :
    (hub.subscribe conf).2.exchange = (hub.exchange.subscribe conf).2 := by
  unfold Hub.subscribe
  dsimp only
  split <;> rfl

theorem Accounts.subscribe (conf : SubscriptionConf σ)
    (h : hub.Accounts bounds outside slots loans) :
    (hub.subscribe conf).2.Accounts bounds outside slots loans := by
  have hsubscribed := h.with_exchange (h.exchange.subscribe conf)
  unfold Hub.subscribe
  dsimp only
  split <;> exact hsubscribed

theorem Accounts.unsubscribe (id : Nat) (h : hub.Accounts bounds outside slots loans) :
    (hub.unsubscribe id).Accounts bounds outside slots loans :=
  h.with_exchange (h.exchange.unsubscribe id)

/-- Whoever takes an event holds it in place of the queue. -/
theorem Accounts.next (id : Nat) (h : hub.Accounts bounds outside slots loans) :
    (hub.next id).2.Accounts bounds ((hub.next id).1.toList ++ outside) slots loans := by
  have htaken := h.exchange.next id
  exact h.with_exchange (htaken.outside_perm (List.perm_append_comm_assoc _ _ _))

/-! Surveys pin what the visited device keeps, and let go of it after the visit. -/

theorem Accounts.holdAll {refs : List EventRef} (h : hub.Accounts bounds outside slots loans)
    (hheld : ∀ ref ∈ refs, ref ∈ hub.inside) :
    (hub.holdAll refs).Accounts bounds (refs ++ outside) slots loans := by
  have hstore (store : EventStore) (holders : List EventRef)
      (hstore : store.Accounts bounds holders slots loans) (hin : ∀ ref ∈ refs, ref ∈ holders) :
      (refs.foldl EventStore.hold store).Accounts bounds (refs ++ holders) slots loans := by
    clear hheld
    induction refs generalizing store holders with
    | nil => exact hstore
    | cons ref rest ih =>
      have hheld := hstore.hold (hin ref List.mem_cons_self)
      refine (ih (store.hold ref) (ref :: holders) hheld ?_).holders_perm List.perm_middle
      intro other hother
      exact List.mem_cons_of_mem ref (hin other (List.mem_cons_of_mem ref hother))
  refine h.withEvents ((hstore hub.events _ h.events fun ref href =>
    List.mem_append_left _ (hheld ref href)).holders_perm ?_)
  rw [← List.append_assoc, ← List.append_assoc]
  exact List.perm_append_comm.append_right outside

theorem Accounts.releaseAll {refs : List EventRef}
    (h : hub.Accounts bounds (refs ++ outside) slots loans) :
    (hub.releaseAll refs).Accounts bounds outside slots loans := by
  refine h.withEvents (EventStore.Accounts.releaseAll (h.events.holders_perm ?_))
  rw [← List.append_assoc, ← List.append_assoc]
  exact List.perm_append_comm.append_right outside

/-- Pinned events are kept by an endpoint of the device. -/
theorem pinned_inside {index : Nat} {d : Device} (pinMask : UInt32)
    (hdevice : hub.registry.devices[index]? = some d) :
    ∀ ref ∈ (d.pins pinMask).filterMap id, ref ∈ hub.inside := by
  intro ref href
  obtain ⟨pin, hpin, heq⟩ := List.mem_filterMap.mp href
  obtain ⟨i, hi, hget⟩ := List.mem_mapIdx.mp hpin
  have hretained : d.endpoints[i].retained = some ref := by
    split at hget
    · exact hget.trans heq
    · subst hget
      cases heq
  apply List.mem_append_right
  exact List.mem_flatMap.mpr ⟨d, List.mem_of_getElem? hdevice,
    List.mem_filterMap.mpr ⟨d.endpoints[i], List.getElem_mem hi, hretained⟩⟩

end Hub

end HomeGateway
