import Mathlib
import HomeGateway.Proofs.Hub.Retention
import HomeGateway.Proofs.Hub.Tenancy

/-!
What a subscription at an address gets of what is fed at that address. Two lookups have to agree
about it: the payload goes to the first device that answers to the address, and the event bears the
address of that device, which the criteria of the subscription compare with their own. They agree
as far as the device is of the type and on the medium of the address.
-/

namespace HomeGateway

variable {κ σ : Type}

/-- Of the devices that answer to an address, it designates those that are of its type and on its
medium. -/
theorem Registry.sameDevice_of_answers {addr : DeviceAddr} {d : Device}
    (h : answers addr d = true) :
    (d.addr.deviceType = addr.deviceType ∧ addr.sameDevice d.addr = true) ↔
      d.addr.deviceType = addr.deviceType ∧ d.addr.medium = addr.medium := by
  refine and_congr_right fun htype => ⟨fun hsame => ?_, fun hmedium => ?_⟩
  · exact (DeviceAddr.medium_of_sameDevice hsame).symm
  · cases hvalid : addr.isValid with
    | true =>
      rw [answers, if_pos hvalid] at h
      rw [DeviceAddr.sameDevice_comm htype.symm]
      exact h
    | false => exact DeviceAddr.sameDevice_of_type hvalid htype.symm hmedium.symm

/-- A subscription at an address asks for what bears the address, and for nothing else. -/
structure SubscriptionConf.At (conf : SubscriptionConf σ) (addr : DeviceAddr) : Prop where
  criteria : conf.criteria = { deviceType := some addr.deviceType, mac := some addr.mac }
  filter : conf.filter = none

theorem SubscriptionConf.At.fit_iff {conf : SubscriptionConf σ} {addr : DeviceAddr}
    (h : conf.At addr) (event : Event) :
    conf.criteria.fit event = true ↔
      event.addr.deviceType = addr.deviceType ∧ addr.sameDevice event.addr = true := by
  rw [h.criteria]
  simp [Criteria.fit, Criteria.fitsType, Criteria.fitsAddr, Criteria.fitsKind]

namespace Hub

variable {hub : Hub σ} {addr : DeviceAddr} {payload : Payload}
  {bounds : EventStore.Bounds} {outside : List EventRef} {slots : List Nat} {loans : List UInt64}

theorem register_of_arrival? {a : Arrival} (h : hub.arrival? addr payload = some a) :
    (hub.register addr).1 = .ok a.device := by
  unfold arrival? at h
  split at h
  · rename_i index ref retained next hregister hintake
    simp only [Option.bind_eq_bind, Option.bind_eq_some_iff, Option.pure_def] at h
    obtain ⟨device, -, route, -, event, -, hmade⟩ := h
    cases hmade
    exact hregister
  · cases h

/-- A payload that is fed at an address: what it arrives as, and its device, which the address leads
to from then on. The device is the first that answers to the address, or else joins at it. -/
structure Feeds (hub : Hub σ) (addr : DeviceAddr) (payload : Payload) (client : σ) (a : Arrival)
    (d : Device) : Prop where
  arrives : hub.arrival? addr payload = some a
  registered : (hub.register addr).1 = .ok a.device
  found : (hub.receive addr payload.bytes payload.timestamp client).2.1.registry.lookup? addr =
    some (a.device, d)
  joined : hub.registry.locate? addr = none → d.addr = addr
  data : a.event.kind = .data ∧ a.event.origin = some (d.origin a.endpoint)

theorem Feeds.answers {client : σ} {a : Arrival} {d : Device}
    (h : hub.Feeds addr payload client a d) : Registry.answers addr d = true :=
  Registry.answers_of_lookup? h.found

theorem receive_feeds {client : σ} {matched : Nat} (h : hub.Accounts bounds outside slots loans)
    (hok : (hub.receive addr payload.bytes payload.timestamp client).1 = .ok matched)
    (hsettles : (hub.registry.locate? addr).isSome ∨ addr.sameDevice addr = true) :
    ∃ a d, hub.Feeds addr payload client a d := by
  obtain ⟨-, hrecalls, harrives⟩ := hub.receive_arrives addr payload client h
  obtain ⟨a, harrival⟩ := Option.isSome_iff_exists.mp (harrives.mpr ⟨matched, hok⟩)
  have hregister := register_of_arrival? harrival
  obtain ⟨d, hdevice, hdata⟩ := (hrecalls a harrival).device
  have hextends := (hub.intake_registered addr payload).extends
  rw [register_registry] at hextends
  have hresult := hregister
  rw [register_result] at hresult
  have hlocate := hextends.locate? ((Registry.locate?_register hresult).mpr hsettles)
  rw [← hub.receive_registry addr payload.bytes payload.timestamp client] at hlocate hextends
  refine ⟨a, d, harrival, hregister, ?_, ?_, hdata⟩
  · obtain ⟨found, hfound, hlookup⟩ := Registry.lookup?_of_locate? hlocate
    rw [hdevice, Option.some.injEq] at hfound
    rw [hlookup, hfound]
  · intro hunknown
    obtain ⟨joined, hjoined, haddr⟩ := Registry.register_unknown hresult hunknown
    obtain ⟨later, hlater, hsame⟩ := hextends.device hjoined
    rw [hdevice, Option.some.injEq] at hlater
    rw [hlater, Device.addr_of_same hsame, haddr]

/-- The turns in the dispatch of what arrived. -/
def turns (hub : Hub σ) (a : Arrival) (client : σ) : List (Turn σ) :=
  Exchange.course a.ref a.event hub.exchange.dispatcher.listed hub.exchange client

/-- Of what is fed at an address, an open subscription at the address is queued, when its turn
comes, all that came from a device of the type and on the medium of the address, and nothing
else. -/
structure Serves (hub : Hub σ) (addr : DeviceAddr) (payload : Payload) (client : σ) (matched : Nat)
    (a : Arrival) (d : Device) : Prop where
  dispatched : let next := (hub.intake addr payload).2
    Exchange.Dispatched a.ref a.event next.exchange client (next.turns a client) matched
      (Exchange.publish a.ref next.exchange client).2
  queued : ∀ id s, hub.exchange.dispatcher.find? id = some s → s.isOpen = true → s.conf.At addr →
    ∃ t ∈ (hub.intake addr payload).2.turns a client, t.id = id ∧ (t.queued = true ↔
      (d.addr.deviceType = addr.deviceType ∧ d.addr.medium = addr.medium) ∧
        t.found.1.dispatcher.isOpen id = true)
  /-- Who is still open afterwards has it in the queue. -/
  gained : ∀ id s, hub.exchange.dispatcher.find? id = some s → s.isOpen = true → s.conf.At addr →
    let later := (hub.receive addr payload.bytes payload.timestamp client).2.1.exchange.dispatcher
    later.isOpen id = true → later.queue id = hub.exchange.dispatcher.queue id ++
      if d.addr.deviceType = addr.deviceType ∧ d.addr.medium = addr.medium then [a.ref] else []

/-- What arrives is live by the time it is dispatched, to those who had subscribed. -/
theorem receive_publishes {a : Arrival} (h : hub.Accounts bounds outside slots loans)
    (harrival : hub.arrival? addr payload = some a) (client : σ) :
    let next := (hub.intake addr payload).2
    let last := Exchange.publish a.ref next.exchange client
    let answer := hub.receive addr payload.bytes payload.timestamp client
    (∃ stored, next.exchange.events.find? a.ref = some stored ∧ stored.event = a.event) ∧
      next.exchange.dispatcher = hub.exchange.dispatcher ∧ answer.1 = .ok last.1 ∧
      answer.2.1.exchange.dispatcher = last.2.1.dispatcher := by
  obtain ⟨retained, next, hintake, harrives, -⟩ := intake_of_arrival? h harrival
  have hdispatcher := hub.intake_dispatcher addr payload
  unfold Hub.receive
  rw [hintake] at hdispatcher ⊢
  exact ⟨Option.map_eq_some_iff.mp harrives.event, hdispatcher, rfl, rfl⟩

theorem Feeds.serves {client : σ} {matched capacity : Nat} {a : Arrival} {d : Device}
    (h : hub.Accounts bounds outside slots loans)
    (htenured : hub.exchange.dispatcher.Tenured capacity)
    (hok : (hub.receive addr payload.bytes payload.timestamp client).1 = .ok matched)
    (hfeeds : hub.Feeds addr payload client a d) :
    hub.Serves addr payload client matched a d := by
  obtain ⟨⟨stored, hlive, hstored⟩, hdispatcher, hanswer, hlast⟩ :=
    receive_publishes h hfeeds.arrives client
  rw [← hdispatcher] at htenured
  have hdispatched := Exchange.publish_dispatched htenured hlive client
  rw [hok, Except.ok.injEq] at hanswer
  have heard {id : Nat} {s : Subscription σ} (hfind : hub.exchange.dispatcher.find? id = some s)
      (hopen : s.isOpen = true) (hat : s.conf.At addr) := by
    rw [← hdispatcher] at hfind
    exact Exchange.publish_unfiltered htenured hlive hfind hopen hat.filter client
  have hfit {conf : SubscriptionConf σ} (hat : conf.At addr) :
      conf.criteria.fit a.event = true ↔
        d.addr.deviceType = addr.deviceType ∧ d.addr.medium = addr.medium := by
    have haddr : a.event.addr = d.addr := by
      rw [Event.addr, hfeeds.data.2]
      rfl
    rw [hat.fit_iff, haddr]
    exact Registry.sameDevice_of_answers hfeeds.answers
  rw [hstored] at hdispatched
  constructor
  · rw [hanswer]
    exact hdispatched
  · intro id s hfind hopen hat
    obtain ⟨⟨t, ht, hid, hqueued⟩, -⟩ := heard hfind hopen hat
    rw [hstored] at ht hqueued
    rw [hfit hat] at hqueued
    exact ⟨t, ht, hid, hqueued⟩
  · intro id s hfind hopen hat
    obtain ⟨-, hgained⟩ := heard hfind hopen hat
    rw [hstored, hdispatcher, ← hlast] at hgained
    simpa only [hfit hat] using hgained

end Hub

namespace HubInUse

/-- Whatever clients do with a new hub, of what is fed at an address, a subscription at the address
gets just what comes from a device of the type and on the medium of the address. -/
theorem states_addressed {config : HubConfig} {capability? : DeviceType → Option Capability}
    {now : UInt32} {hub : Hub σ} (hnew : Hub.new config capability? now = .ok hub) (client : σ)
    (confOf : Nat → κ → SubscriptionConf σ) (actions : List (HubAction κ σ)) :
    ∀ e ∈ states confOf actions (HubInUse.start hub client), ∀ addr payload matched,
      (e.hub.receive addr payload.bytes payload.timestamp e.client).1 = .ok matched →
      (e.hub.registry.locate? addr).isSome ∨ addr.sameDevice addr = true →
        ∃ a d, e.hub.Feeds addr payload e.client a d ∧
          e.hub.Serves addr payload e.client matched a d := by
  intro e he addr payload matched hok hsettles
  have haccounts := states_keep (accounts_kept confOf _) actions (start_accounts hnew client) e he
  have htenured := states_tenured hnew client confOf actions e he
  obtain ⟨a, d, hfeeds⟩ := Hub.receive_feeds haccounts hok hsettles
  exact ⟨a, d, hfeeds, hfeeds.serves haccounts htenured hok⟩

/-- The second of two thermometers has a subscription, and joins with its first payload. -/
theorem states_addressed_thermometer :
    ∃ hub : Hub Unit, Hub.new {} Builtin.capability? 0 = .ok hub ∧
      let addr : DeviceAddr := .ble .xiaomiMijia ⟨#v[164, 193, 56, 0, 0, 2]⟩
      let conf : SubscriptionConf Unit :=
        { criteria := { deviceType := some addr.deviceType, mac := some addr.mac } }
      let payload : Payload :=
        { bytes := [11, 0, 0, 0, 196, 208, 7, 148, 17, 184, 11, 90], timestamp := 6 }
      let run := states (fun _ (conf : SubscriptionConf Unit) => conf)
        [.operate (.receive (.ble .xiaomiMijia ⟨#v[164, 193, 56, 0, 0, 1]⟩)
            { bytes := [10, 0, 0, 0, 196, 208, 7, 148, 17, 184, 11, 90], timestamp := 5 }),
          .operate (.subscribe conf)]
        (HubInUse.start hub ())
      ∃ e ∈ run, (e.hub.receive addr payload.bytes payload.timestamp ()).1 = .ok 1 ∧
        addr.sameDevice addr = true ∧
        (∃ s, e.hub.exchange.dispatcher.find? 1 = some s ∧ s.isOpen = true ∧ s.conf.At addr) ∧
        ∃ a d, e.hub.Feeds addr payload () a d ∧ e.hub.Serves addr payload () 1 a d := by
  refine ⟨_, rfl, ?_⟩
  intro addr conf payload run
  have hlast := List.mem_of_getElem? (l := run) (i := 2) rfl
  have hat : conf.At addr := ⟨rfl, rfl⟩
  refine ⟨_, hlast, rfl, rfl, ⟨_, rfl, rfl, hat⟩, ?_⟩
  exact @states_addressed _ _ {} Builtin.capability? 0 _ rfl () _ _ _ hlast addr payload 1 rfl
    (.inr rfl)

/-- An open subscription at an address that does not get what is fed there. -/
structure Misses (e : HubInUse κ σ) (id : Nat) (addr : DeviceAddr) (payload : Payload) : Prop where
  typed : addr.deviceType ≠ .none
  subscribed : ∃ s, e.hub.exchange.dispatcher.find? id = some s ∧ s.isOpen = true ∧ s.conf.At addr
  taken : (e.hub.receive addr payload.bytes payload.timestamp e.client).1 = .ok 0
  missed : let later := (e.hub.receive addr payload.bytes payload.timestamp e.client).2.1
    later.exchange.dispatcher.isOpen id = true ∧ later.exchange.dispatcher.queue id = []

/-- A thermometer is there. At its transport address, but for a board, nobody is told, and neither
at an address of thermometers without transport: the payload goes to the thermometer both times. -/
theorem states_unaddressed :
    ∃ hub : Hub Unit, Hub.new {} Builtin.capability? 0 = .ok hub ∧
      let thermometer : DeviceAddr := .ble .xiaomiMijia ⟨#v[164, 193, 56, 0, 0, 1]⟩
      let board : DeviceAddr := ⟨.nucleoF429zi, thermometer.mac⟩
      let anyThermometer : DeviceAddr := .onBoard .xiaomiMijia
      let conf (addr : DeviceAddr) : SubscriptionConf Unit :=
        { criteria := { deviceType := some addr.deviceType, mac := some addr.mac } }
      let payload : Payload :=
        { bytes := [10, 0, 0, 0, 196, 208, 7, 148, 17, 184, 11, 90], timestamp := 5 }
      let run := states (fun _ (conf : SubscriptionConf Unit) => conf)
        [.operate (.receive thermometer payload), .operate (.subscribe (conf board)),
          .operate (.subscribe (conf anyThermometer))]
        (HubInUse.start hub ())
      ∃ e ∈ run, e.Misses 1 board payload ∧ e.Misses 2 anyThermometer payload := by
  refine ⟨_, rfl, ?_⟩
  intro thermometer board anyThermometer conf payload run
  have hlast := List.mem_of_getElem? (l := run) (i := 3) rfl
  have hat (addr : DeviceAddr) : (conf addr).At addr := ⟨rfl, rfl⟩
  refine ⟨_, hlast, ⟨by decide, ⟨_, rfl, rfl, hat board⟩, ?_, ?_⟩,
    ⟨by decide, ⟨_, rfl, rfl, hat anyThermometer⟩, ?_, ?_⟩⟩
  all_goals decide +kernel

end HubInUse

end HomeGateway
