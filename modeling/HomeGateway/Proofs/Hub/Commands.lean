import Mathlib
import HomeGateway.Proofs.Hub.Admission
import HomeGateway.Proofs.Hub.Traffic

/-!
Commands from end to end. The endpoint of a known device answers with a frame or with a failure,
which goes to the caller in any case and, if there is a slot for an event, to whoever is subscribed.
The device has the mark of it, and that is all that becomes of devices and of what they keep. Bytes
are given back only where a filter or a hook closes a subscription on the way, for what it alone
had queued.
-/

namespace HomeGateway

variable {κ σ : Type}

namespace Device

/-- Why there is no frame for a value at an endpoint. -/
inductive Refuses (d : Device) (endpoint : Nat) (value : DataValue) : IngestError → Prop where
  | missing (h : d.config? endpoint = none) : Refuses d endpoint value (.invalidEndpoint endpoint)
  | unhandled {config : EndpointConfig} (h : d.config? endpoint = some config)
    (hcommand : config.command = none) : Refuses d endpoint value (.noCommandHandler config.id)
  | refused {config : EndpointConfig} {encode : DataValue → Except IngestError (List UInt8)}
    {cause : IngestError} (h : d.config? endpoint = some config)
    (hcommand : config.command = some encode) (hvalue : encode value = .error cause) :
    Refuses d endpoint value cause

/-- There is a frame. -/
structure Encodes (d : Device) (endpoint : Nat) (value : DataValue) (config : EndpointConfig)
    (frame : List UInt8) : Prop where
  found : d.config? endpoint = some config
  encoded : ∃ encode, config.command = some encode ∧ encode value = .ok frame

theorem encode_cases (d : Device) (endpoint : Nat) (value : DataValue) :
    (∃ config frame, d.Encodes endpoint value config frame ∧
      d.encode endpoint value = .ok (frame, config.commandAssignment value)) ∨
    ∃ cause, d.Refuses endpoint value cause ∧ d.encode endpoint value = .error cause := by
  unfold Device.encode
  cases hconfig : d.config? endpoint with
  | none => exact .inr ⟨_, .missing hconfig, rfl⟩
  | some config =>
    dsimp only
    cases hcommand : config.command with
    | none => exact .inr ⟨_, .unhandled hconfig hcommand, rfl⟩
    | some encode =>
      dsimp only
      cases hvalue : encode value with
      | ok frame => exact .inl ⟨config, frame, ⟨hconfig, encode, hcommand, hvalue⟩, rfl⟩
      | error cause => exact .inr ⟨cause, .refused hconfig hcommand hvalue, rfl⟩

end Device

theorem EndpointConfig.commandAssignment_eq (config : EndpointConfig) (value : DataValue) :
    config.commandAssignment value =
      ((config.commandDescrs.find? fun descr => descr.dataType = value.dataType).map
        DataDescr.assignment).getD .unassigned := by
  unfold commandAssignment
  cases config.commandDescrs.find? fun descr => descr.dataType = value.dataType <;> rfl

namespace EventStore

variable {store next : EventStore} {bounds : Bounds} {holders : List EventRef} {slots : List Nat}
  {loans : List UInt64} {gone : List (EventRef × Option UInt64)}

theorem made?_eq_none {ref : EventRef} (h : ref ∉ store.refs) : store.made? ref = none := by
  rw [made?, Option.map_eq_none_iff, find?, List.find?_eq_none]
  intro s hs heq
  exact h (List.mem_map.mpr ⟨s, hs, by simpa using heq⟩)

/-- What goes was live and is not, and its bytes with it. -/
theorem Accounts.sheds (h : store.Accounts bounds holders slots loans)
    (hsheds : store.Sheds next gone) :
    (gone.map Prod.fst).Nodup ∧
      (∀ entry ∈ gone, entry.1 ∉ next.refs ∧ ∃ s ∈ store.live, s.charge = entry) ∧
      store.leases.Perm (next.leases ++ gone.filterMap Prod.snd) := by
  have hrefs : store.refs.Perm (next.refs ++ gone.map Prod.fst) := by
    have hnames := hsheds.live.map Prod.fst
    rwa [List.map_append, List.map_map, List.map_map] at hnames
  obtain ⟨-, honce, happart⟩ := List.nodup_append.mp (hrefs.nodup_iff.mp h.distinct)
  refine ⟨honce, ?_, ?_⟩
  · intro entry hentry
    refine ⟨fun hin => happart entry.1 hin entry.1 (List.mem_map_of_mem hentry) rfl, ?_⟩
    exact List.mem_map.mp (hsheds.live.mem_iff.mpr (List.mem_append_right _ hentry))
  · have hbytes := hsheds.live.filterMap Prod.snd
    rwa [List.filterMap_append, List.filterMap_map, List.filterMap_map] at hbytes

end EventStore

namespace Hub

variable {hub next : Hub σ} {addr : DeviceAddr} {index : Nat} {d : Device}
  {bounds : EventStore.Bounds} {outside : List EventRef} {slots : List Nat} {loans : List UInt64}
  {capacity : Nat}

/-- How a device answers a command: what the caller gets, the mark, what is counted, and the
event. -/
inductive Answers (hub : Hub σ) (d : Device) (endpoint : Nat) (value : DataValue) :
    Except Error (List UInt8) → Mark → List Tally → Event → Prop where
  | sent {config : EndpointConfig} {frame : List UInt8}
    (h : d.Encodes endpoint value config frame) :
    Answers hub d endpoint value (.ok frame) (.sent frame) []
      { kind := .command
        timestamp := hub.now
        origin := some (d.origin endpoint)
        aux :=
          [{ assignment :=
               ((config.commandDescrs.find? fun descr => descr.dataType = value.dataType).map
                 DataDescr.assignment).getD .unassigned
             value }] }
  | refused {cause : IngestError} (h : d.Refuses endpoint value cause) :
    Answers hub d endpoint value (.error (.ingest cause)) (.failed cause)
      [.eventsDropped, .commandsDropped, cause.tally]
      { kind := .error
        timestamp := hub.now
        origin := some (d.origin endpoint)
        failure := some cause }

/-- The hub with a mark on a device. -/
def noted (hub : Hub σ) (index : Nat) (mark : Mark) (counters : Counters) : Hub σ :=
  (hub.updateDevice index fun d => { d with stats := d.stats.mark mark }).count fun _ => counters

theorem order_answers (hlookup : hub.registry.lookup? addr = some (index, d)) (endpoint : Nat)
    (value : DataValue) :
    ∃ result mark bumps event counters, hub.Answers d endpoint value result mark bumps event ∧
      hub.counters.Gained counters bumps ∧
      counters.subscriptionsRefused = hub.counters.subscriptionsRefused ∧
      hub.order addr endpoint value = (result, (hub.noted index mark counters).report event) := by
  unfold Hub.order
  rw [hlookup]
  rcases d.encode_cases endpoint value with
    ⟨config, frame, hencodes, hencode⟩ | ⟨cause, hrefuses, hencode⟩
  · have hsent : hub.Answers d endpoint value _ _ _ _ := .sent hencodes
    rw [← config.commandAssignment_eq] at hsent
    dsimp only
    rw [hencode]
    exact ⟨_, _, _, _, hub.counters, hsent, .refl _, rfl, rfl⟩
  · dsimp only
    rw [hencode]
    refine ⟨_, _, _, _, _, .refused hrefuses, hub.counters.eventDropped_gained cause true, ?_, rfl⟩
    cases cause <;> rfl

/-! What does not change. -/

/-- Bytes given back: each entry is an event that was only queued, to subscriptions that are
closed by now. -/
structure Forfeits (hub next : Hub σ) (gone : List (EventRef × Option UInt64)) : Prop where
  once : (gone.map Prod.fst).Nodup
  used : next.events.budget.used.toNat + totalBytes (gone.filterMap Prod.snd) =
    hub.events.budget.used.toNat
  live : ∀ ref size, (ref, some size) ∈ gone →
    ∃ event, hub.events.made? ref = some (event, some size)
  queued : ∀ ref size, (ref, some size) ∈ gone → next.events.made? ref = none ∧
    ∃ id, hub.exchange.dispatcher.isOpen id = true ∧ ref ∈ hub.exchange.dispatcher.queue id ∧
      next.exchange.dispatcher.isOpen id = false

/-- Of a hub, only the mark on a device, and what may be forfeited. -/
structure Spares (hub : Hub σ) (index : Nat) (mark : Mark) (next : Hub σ) : Prop where
  registry : next.registry =
    hub.registry.update index fun d => { d with stats := d.stats.mark mark }
  devices : next.registry.devices.map Device.asRegistered =
    hub.registry.devices.map Device.asRegistered
  others : ∀ i, i ≠ index → next.registry.devices[i]? = hub.registry.devices[i]?
  received : ∀ i, (next.registry.statsAt i).received = (hub.registry.statsAt i).received ∧
    (next.registry.statsAt i).receivedBytes = (hub.registry.statsAt i).receivedBytes
  retained : ∀ i endpoint,
    next.registry.retainedAt i endpoint = hub.registry.retainedAt i endpoint
  kept : ∀ ref ∈ hub.registry.kept, next.events.made? ref = hub.events.made? ref
  limit : next.events.budget.limit = hub.events.budget.limit
  peak : next.events.budget.peak = hub.events.budget.peak
  forfeits : ∃ gone, hub.Forfeits next gone
  /-- The budget is the same if nobody is closed. -/
  budget : (∀ id, hub.exchange.dispatcher.isOpen id = true →
    next.exchange.dispatcher.isOpen id = true) → next.events.budget = hub.events.budget

theorem Forfeits.budget {gone : List (EventRef × Option UInt64)} (h : hub.Forfeits next gone)
    (hlimit : next.events.budget.limit = hub.events.budget.limit)
    (hpeak : next.events.budget.peak = hub.events.budget.peak)
    (hopen : ∀ id, hub.exchange.dispatcher.isOpen id = true →
      next.exchange.dispatcher.isOpen id = true) :
    next.events.budget = hub.events.budget := by
  have hnone : gone.filterMap Prod.snd = [] := by
    rw [List.filterMap_eq_nil_iff]
    rintro ⟨ref, lease⟩ hin
    cases lease with
    | none => rfl
    | some size =>
      obtain ⟨-, id, hbefore, -, hafter⟩ := h.queued ref size hin
      exact absurd (hopen id hbefore) (by rw [hafter]; exact Bool.false_ne_true)
  have hused := h.used
  rw [hnone] at hused
  have hsame : next.events.budget.used = hub.events.budget.used := UInt64.toNat_inj.mp hused
  generalize next.events.budget = budget at *
  obtain ⟨limit, used, peak⟩ := budget
  dsimp only at hlimit hpeak hsame
  rw [hlimit, hpeak, hsame]

theorem spares_of_noted {mark : Mark} (h : hub.Accounts bounds outside slots loans)
    (hdevice : hub.registry.devices[index]? = some d)
    (hnext : next.Accounts bounds outside slots loans)
    (hprecedes : hub.events.Precedes next.events)
    (hregistry : next.registry =
      hub.registry.update index fun d => { d with stats := d.stats.mark mark })
    (hmark : ∀ payload, mark ≠ .received payload)
    (hpeak : next.events.budget.peak = hub.events.budget.peak)
    (hforfeits : ∃ gone, hub.Forfeits next gone) : hub.Spares index mark next where
  registry := hregistry
  devices := by
    rw [hregistry]
    exact hub.registry.update_asRegistered index fun _ => rfl
  others i hi := by
    rw [hregistry]
    simp [Registry.update, hi.symm]
  received i := by
    rw [hregistry, Registry.update_statsAt hdevice (fun stats => stats.mark mark) i]
    split
    · cases mark with
      | received payload => exact absurd rfl (hmark payload)
      | sent | failed => exact ⟨rfl, rfl⟩
    · exact ⟨rfl, rfl⟩
  retained i endpoint := by
    rw [hregistry]
    exact hub.registry.update_retainedAt_same index
      (f := fun d => { d with stats := d.stats.mark mark }) (fun _ => rfl) i endpoint
  kept ref hkept := by
    have hsame : next.registry.kept = hub.registry.kept := by
      rw [hregistry]
      exact hub.registry.kept_update_same index _ fun _ => rfl
    have hnamed : ref < hub.events.nextRef :=
      h.events.lt_nextRef (List.mem_append_left _ (List.mem_append_right _ hkept))
    obtain ⟨s, hlive⟩ := hnext.made?_kept (hsame ▸ hkept)
    rw [hlive, hprecedes.made ref hnamed _ hlive]
  limit := hnext.events.limit.trans h.events.limit.symm
  peak := hpeak
  forfeits := hforfeits
  budget hopen := by
    obtain ⟨gone, hgone⟩ := hforfeits
    exact hgone.budget (hnext.events.limit.trans h.events.limit.symm) hpeak hopen

/-! Where the event finds a slot. -/

/-- In a dispatch, events only go. -/
theorem dispatch_sheds (hub : Hub σ) (ref : EventRef) (retained : Bool) (client : σ) :
    ∃ gone, hub.events.Sheds (hub.dispatch ref retained client).2.1.events gone := by
  have hkept : Exchange.KeptByTurns ref fun x : Exchange σ =>
      ∃ gone, hub.events.Sheds x.events gone := by
    refine ⟨⟨?_, ?_⟩, ?_⟩
    · intro x conf h
      rcases x.subscribe_cases conf with
        ⟨cause, -, hcase⟩ | ⟨-, -, hcase⟩ | ⟨-, slot, slots, -, hcase⟩ <;>
      · rw [hcase]
        exact h
    · rintro x id ⟨gone, h⟩
      unfold Exchange.unsubscribe
      split
      · exact ⟨gone, h⟩
      · split
        · exact ⟨gone, h⟩
        · rename_i s hfind hopen
          obtain ⟨more, hmore⟩ := x.events.releaseAll_sheds s.queue
          exact ⟨more ++ gone, h.trans hmore⟩
    · rintro x id - ⟨gone, h⟩
      exact ⟨gone, h.trans (x.events.hold_sheds ref)⟩
  obtain ⟨gone, hpublished⟩ :=
    hkept.publish client (x := hub.exchange) ⟨[], .refl hub.events⟩
  unfold Hub.dispatch
  generalize Exchange.publish ref hub.exchange client = published at hpublished ⊢
  obtain ⟨more, hmore⟩ := published.2.1.events.release_sheds ref
  exact ⟨more ++ gone, hpublished.trans hmore⟩

/-- Who is gone after a dispatch was only queued, to somebody who is closed by now. -/
theorem Accounts.queued_of_gone {ref other : EventRef} {stored : StoredEvent}
    (h : hub.Accounts bounds (ref :: outside) slots loans)
    (htenured : hub.exchange.dispatcher.Tenured capacity)
    (hfind : hub.events.find? ref = some stored) (client : σ) (hlive : other ∈ hub.events.refs)
    (hgone : other ∉ (hub.dispatch ref false client).2.1.events.refs) (hother : other ≠ ref) :
    ∃ id, hub.exchange.dispatcher.isOpen id = true ∧ other ∈ hub.exchange.dispatcher.queue id ∧
      (hub.dispatch ref false client).2.1.exchange.dispatcher.isOpen id = false := by
  have hlost : other ∉ (hub.dispatch ref false client).2.1.inside ++ outside := fun hin =>
    hgone (((h.dispatch false client).events.held other).mp hin)
  have hdispatched := Exchange.publish_dispatched htenured hfind client
  rcases List.mem_append.mp ((h.events.held other).mpr hlive) with hinside | houtside
  · rcases List.mem_append.mp hinside with hqueued | hkept
    · obtain ⟨s, hs, hqueue⟩ := List.mem_flatMap.mp hqueued
      have hknown := Dispatcher.find?_eq_some h.ordered.distinct hs
      have hopen : s.isOpen = true := by
        by_contra hclosed
        rw [h.ordered.emptied s hs (by simpa using hclosed)] at hqueue
        cases hqueue
      have hin : other ∈ hub.exchange.dispatcher.queue s.id := by
        rwa [Dispatcher.queue, hknown]
      refine ⟨s.id, by rwa [Dispatcher.isOpen, hknown], hin, ?_⟩
      by_contra hstill
      rw [Bool.not_eq_false] at hstill
      have hgrown := hdispatched.queues s.id hstill
      have hafter : other ∈
          (hub.dispatch ref false client).2.1.exchange.dispatcher.queue s.id := by
        change other ∈ (hub.exchange.publish ref client).2.1.dispatcher.queue s.id
        rw [hgrown]
        exact List.mem_append_left _ hin
      exact hlost (List.mem_append_left _ (List.mem_append_left _
        (Dispatcher.mem_queued_of_mem_queue hafter)))
    · exact absurd (List.mem_append_left _ (List.mem_append_right _ hkept)) hlost
  · rcases List.mem_cons.mp houtside with rfl | hheld
    · exact absurd rfl hother
    · exact absurd (List.mem_append_right _ hheld) hlost

/-- What the dispatch of a new event without bytes forfeits. -/
theorem Accounts.dispatch_forfeits {made : Hub σ} (stored : StoredEvent)
    (h : hub.Accounts bounds outside slots loans)
    (hmade : made.Accounts bounds (stored.ref :: outside) slots loans)
    (htenured : made.exchange.dispatcher.Tenured capacity)
    (hdispatcher : made.exchange.dispatcher = hub.exchange.dispatcher)
    (hlive : made.events.live = hub.events.live ++ [stored]) (hlease : stored.lease = none)
    (client : σ) : ∃ gone, hub.Forfeits (made.dispatch stored.ref false client).2.1 gone := by
  have hnext := hmade.dispatch false client
  have hfind : made.events.find? stored.ref = some stored :=
    hmade.events.find?_live (by rw [hlive]; exact List.mem_append_right _ List.mem_cons_self)
  have hleases : made.events.leases = hub.events.leases := by
    rw [EventStore.leases, hlive, List.filterMap_append]
    simp [hlease, EventStore.leases]
  obtain ⟨gone, hsheds⟩ := made.dispatch_sheds stored.ref false client
  obtain ⟨honce, hgone, hbytes⟩ := hmade.events.sheds hsheds
  rw [hleases] at hbytes
  have hold (ref : EventRef) (size : UInt64) (hin : (ref, some size) ∈ gone) :
      ∃ s ∈ hub.events.live, s.ref = ref ∧ s.lease = some size := by
    obtain ⟨s, hs, hcharge⟩ := (hgone _ hin).2
    have hsize : s.lease = some size := congrArg Prod.snd hcharge
    rw [hlive] at hs
    rcases List.mem_append.mp hs with hbefore | hnew
    · exact ⟨s, hbefore, congrArg Prod.fst hcharge, hsize⟩
    · rw [List.mem_singleton.mp hnew, hlease] at hsize
      cases hsize
  refine ⟨gone, honce, ?_, ?_, ?_⟩
  · rw [hnext.events.paid.used, h.events.paid.used,
      totalBytes_perm (hbytes.append_right loans)]
    simp only [totalBytes_append]
    omega
  · intro ref size hin
    obtain ⟨s, hs, rfl, hsize⟩ := hold ref size hin
    exact ⟨s.event, by rw [h.events.made?_live hs, StoredEvent.made, hsize]⟩
  · intro ref size hin
    obtain ⟨s, hs, rfl, -⟩ := hold ref size hin
    have hlost := (hgone _ hin).1
    have hrefs : made.events.refs = hub.events.refs ++ [stored.ref] := by
      rw [EventStore.refs, hlive, List.map_append]
      rfl
    have hin : s.ref ∈ hub.events.refs := List.mem_map_of_mem hs
    have hother : s.ref ≠ stored.ref := by
      have hnodup := hmade.events.distinct
      rw [hrefs] at hnodup
      exact (List.nodup_append.mp hnodup).2.2 s.ref hin stored.ref List.mem_cons_self
    refine ⟨EventStore.made?_eq_none hlost, ?_⟩
    rw [← hdispatcher]
    refine hmade.queued_of_gone htenured hfind client ?_ hlost hother
    rw [hrefs]
    exact List.mem_append_left _ hin

/-! The whole of a command. -/

/-- There is no slot for the event: nothing is dispatched, which is counted as one more drop. -/
structure Omits (hub : Hub σ) (client : σ) (bumps : List Tally) (next : Hub σ) (later : σ) :
    Prop where
  exchange : next.exchange = { hub.exchange with counters := next.counters }
  client : later = client
  counted : hub.counters.Gained next.counters
    (bumps ++ [.eventsDropped, .commandsDropped, .noEventSlot])
  subscriptions : next.counters.subscriptionsRefused = hub.counters.subscriptionsRefused

/-- One event is made, without bytes of its own, and dispatched. -/
structure Announces (hub : Hub σ) (client : σ) (bumps : List Tally) (event : Event)
    (next : Hub σ) (later : σ) : Prop where
  once : next.events.nextRef = hub.events.nextRef + 1
  dispatched : ∃ slot slots counters,
    let x : Exchange σ := { (hub.withEvent slot slots event).exchange with counters }
    let turns := Exchange.course hub.events.nextRef event x.dispatcher.listed x client
    let published := Exchange.publish hub.events.nextRef x client
    Exchange.Dispatched hub.events.nextRef event x client turns published.1 published.2 ∧
      next.exchange.dispatcher = published.2.1.dispatcher ∧ later = published.2.2 ∧
      hub.counters.Gained next.counters
        (bumps ++ .events :: if published.1 = 0 then [.neverReferenced] else [])

/-- What a command comes to. Whatever the answer is, it is the same with a slot and without. -/
structure Obeys (hub : Hub σ) (addr : DeviceAddr) (endpoint : Nat) (value : DataValue)
    (client : σ) : Prop where
  unknown : hub.registry.lookup? addr = none →
    hub.command addr endpoint value client = (.error (.registry .deviceNotFound), hub, client)
  known : ∀ index d, hub.registry.lookup? addr = some (index, d) →
    ∃ result mark bumps event next later, hub.Answers d endpoint value result mark bumps event ∧
      hub.command addr endpoint value client = (result, next, later) ∧
      hub.Spares index mark next ∧
      (hub.events.slots.available = 0 → hub.Omits client bumps next later) ∧
      (hub.events.slots.available ≠ 0 → hub.Announces client bumps event next later)

theorem Answers.not_received {endpoint : Nat} {value : DataValue}
    {result : Except Error (List UInt8)} {mark : Mark} {bumps : List Tally} {event : Event}
    (h : hub.Answers d endpoint value result mark bumps event) (payload : Payload) :
    mark ≠ .received payload := by
  cases h <;> exact nofun

theorem Accounts.noted (h : hub.Accounts bounds outside slots loans) (index : Nat) (mark : Mark)
    (counters : Counters) : (hub.noted index mark counters).Accounts bounds outside slots loans :=
  (h.updateStats index fun stats => stats.mark mark).count _

/-- Without a slot. -/
theorem Accounts.report_omits {counters : Counters} {mark : Mark} {bumps : List Tally}
    (h : hub.Accounts bounds outside slots loans)
    (hdevice : hub.registry.devices[index]? = some d)
    (hmark : ∀ payload, mark ≠ .received payload)
    (hgained : hub.counters.Gained counters bumps)
    (hrefused : counters.subscriptionsRefused = hub.counters.subscriptionsRefused) (client : σ) :
    let next := (hub.noted index mark counters).count fun c => c.eventDropped .poolExhausted true
    hub.Spares index mark next ∧ hub.Omits client bumps next client := by
  have hnext : ((hub.noted index mark counters).count fun c =>
      c.eventDropped .poolExhausted true).Accounts bounds outside slots loans :=
    (h.noted index mark counters).count _
  constructor
  · exact spares_of_noted h hdevice hnext (.refl _) rfl hmark rfl
      ⟨[], List.nodup_nil, rfl, nofun, nofun⟩
  · exact ⟨rfl, rfl, hgained.trans (counters.eventDropped_gained .poolExhausted true), hrefused⟩

/-- With a slot. -/
theorem Accounts.report_announces {counters : Counters} {mark : Mark} {bumps : List Tally}
    {event : Event} {slot : Nat} {free : Pool} (h : hub.Accounts bounds outside slots loans)
    (htenured : hub.exchange.dispatcher.Tenured capacity)
    (hdevice : hub.registry.devices[index]? = some d)
    (hmark : ∀ payload, mark ≠ .received payload)
    (hgained : hub.counters.Gained counters bumps)
    (hreport : (hub.noted index mark counters).report event =
      (some hub.events.nextRef, (hub.noted index mark counters).withEvent slot free event))
    (client : σ) :
    let made := (hub.noted index mark counters).withEvent slot free event
    let (_, next, later) := made.dispatch hub.events.nextRef false client
    hub.Spares index mark next ∧ hub.Announces client bumps event next later := by
  have haccounts := (h.noted index mark counters).report event
  have hprecedes := (hub.noted index mark counters).report_precedes event
  rw [hreport] at haccounts hprecedes
  intro made
  have hnext := Accounts.dispatch false client haccounts
  have hlater := made.dispatch_precedes hub.events.nextRef false client
  have hcounted := made.dispatch_gained hub.events.nextRef false client
  obtain ⟨gone, hsheds⟩ := made.dispatch_sheds hub.events.nextRef false client
  have hforfeits := h.dispatch_forfeits
    { ref := hub.events.nextRef, slot, lease := none, holders := 1, event }
    haccounts htenured rfl rfl rfl client
  have hdispatched := Exchange.publish_dispatched (x := made.exchange) htenured
    (haccounts.events.find?_live (List.mem_append_right _ List.mem_cons_self)) client
  constructor
  · exact spares_of_noted h hdevice hnext (hprecedes.trans hlater) rfl hmark hsheds.peak hforfeits
  · refine ⟨hsheds.names, slot, free, counters, hdispatched, rfl, rfl, ?_⟩
    have htallies : made.dispatchTallies hub.events.nextRef false client =
        .events :: if (Exchange.publish hub.events.nextRef made.exchange client).1 = 0 then
          [.neverReferenced] else [] := by
      unfold dispatchTallies
      by_cases hnone : (Exchange.publish hub.events.nextRef made.exchange client).1 = 0 <;>
        simp [hnone]
    rw [htallies] at hcounted
    exact hgained.trans hcounted

theorem Accounts.obeys (h : hub.Accounts bounds outside slots loans)
    (htenured : hub.exchange.dispatcher.Tenured capacity) (addr : DeviceAddr) (endpoint : Nat)
    (value : DataValue) (client : σ) : hub.Obeys addr endpoint value client where
  unknown hlookup := by
    unfold Hub.command Hub.order
    rw [hlookup]
  known index d hlookup := by
    have hdevice := (Registry.locate?_of_lookup? hlookup).2
    obtain ⟨result, mark, bumps, event, counters, hanswers, hgained, hrefused, horder⟩ :=
      order_answers hlookup endpoint value
    have hmark := hanswers.not_received
    unfold Hub.command
    rw [horder]
    rcases (hub.noted index mark counters).report_cases event with
      ⟨hfull, hreport⟩ | ⟨hfree, slot, free, hreport⟩
    · obtain ⟨hspares, homits⟩ := h.report_omits hdevice hmark hgained hrefused client
      rw [hreport]
      exact ⟨_, _, _, _, _, _, hanswers, rfl, hspares, fun _ => homits, fun hsome =>
        absurd hfull hsome⟩
    · obtain ⟨hspares, hannounces⟩ :=
        h.report_announces htenured hdevice hmark hgained hreport client
      rw [hreport]
      exact ⟨_, _, _, _, _, _, hanswers, rfl, hspares, fun hnone => absurd hnone hfree, fun _ =>
        hannounces⟩

end Hub

namespace HubInUse

variable {config : HubConfig} {capability? : DeviceType → Option Capability} {now : UInt32}
  {hub : Hub σ}

/-- In every state of a run, a command to whatever address, endpoint and with whatever value comes
to what it should, and touches nothing else. -/
theorem states_obeying (hnew : Hub.new config capability? now = .ok hub) (client : σ)
    (confOf : Nat → κ → SubscriptionConf σ) (actions : List (HubAction κ σ)) :
    ∀ e ∈ states confOf actions (start hub client), ∀ addr endpoint value,
      e.hub.Obeys addr endpoint value e.client := by
  intro e he addr endpoint value
  have haccounts := states_keep (accounts_kept confOf _) actions (start_accounts hnew client) e he
  exact Hub.Accounts.obeys haccounts (states_tenured hnew client confOf actions e he) addr endpoint
    value e.client

/-- A board on the bus takes a command for two of its outputs, whose event somebody gets. -/
theorem states_obeying_board :
    ∃ hub : Hub Unit, Hub.new {} Builtin.capability? 0 = .ok hub ∧
      let run := states (fun _ (conf : SubscriptionConf Unit) => conf)
        [.operate (.register (.bus ⟨24⟩)), .operate (.subscribe {})] (start hub ())
      ∃ e ∈ run,
        (e.hub.command (.bus ⟨24⟩) 0 (.digital .digitalOut ⟨1, 3⟩) ()).1 =
          .ok [17, 0, 0, 0, 0, 0, 0, 0] ∧
        ∀ addr endpoint value, e.hub.Obeys addr endpoint value e.client := by
  refine ⟨_, rfl, ?_⟩
  intro run
  have hlast := List.mem_of_getElem? (l := run) (i := 2) rfl
  refine ⟨_, hlast, rfl, ?_⟩
  exact @states_obeying _ _ {} Builtin.capability? 0 _ rfl () _ _ _ hlast

/-- The first subscription has two events queued, of which an endpoint keeps the later one. The
hook of the second subscription closes the first one, and a command that is refused gives back the
bytes of the earlier event. -/
theorem states_forfeiting :
    ∃ hub : Hub Unit, Hub.new {} Builtin.capability? 0 = .ok hub ∧
      let run := states (fun _ (conf : SubscriptionConf Unit) => conf)
        [.operate (.subscribe {}),
          .operate (.receive (.onBoard .nucleoF429zi) { bytes := [0, 0, 200, 65], timestamp := 0 }),
          .operate (.receive (.onBoard .nucleoF429zi) { bytes := [0, 0, 200, 65], timestamp := 0 }),
          .operate (.subscribe { hook := some fun _ _ => ([.unsubscribe 1], ()) })]
        (start hub ())
      ∃ e ∈ run, e.hub.events.budget.used = 8 ∧
        (e.hub.command (.onBoard .nucleoF429zi) 0 (.rssi ⟨0⟩) ()).1 =
          .error (.ingest (.noCommandHandler .nucleoF429zi)) ∧
        (e.hub.command (.onBoard .nucleoF429zi) 0 (.rssi ⟨0⟩) ()).2.1.events.budget.used = 4 := by
  refine ⟨_, rfl, ?_⟩
  intro run
  exact ⟨_, List.mem_of_getElem? (l := run) (i := 4) rfl, rfl, rfl, rfl⟩

end HubInUse

end HomeGateway
