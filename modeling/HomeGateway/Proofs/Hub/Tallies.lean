import Mathlib
import HomeGateway.Proofs.Hub.Lifecycle
import HomeGateway.Proofs.Hub.Refusal
import HomeGateway.Proofs.Subscription.Turns

/-!
The counters of a hub over whole runs. Each counter is the number of operations on the way that it
is there to count, modulo the size of a word, and those that split a number into its reasons add up
to it. Filters and hooks move none of them.
-/

namespace HomeGateway

variable {κ σ : Type}

namespace Exchange

theorem subscribe_gained (x : Exchange σ) (conf : SubscriptionConf σ) :
    x.counters.Gained (x.subscribe conf).2.counters [] := by
  unfold Exchange.subscribe
  split
  · exact .refl _
  · split
    · exact x.counters.subscriptionRefused_gained
    · exact .refl _

theorem unsubscribe_counters (x : Exchange σ) (id : Nat) :
    (x.unsubscribe id).counters = x.counters := by
  unfold Exchange.unsubscribe
  split
  · rfl
  · split <;> rfl

theorem next_counters (x : Exchange σ) (id : Nat) : (x.next id).2.counters = x.counters := by
  unfold Exchange.next
  split <;> rfl

/-- Whatever filters and hooks do, only refused subscriptions are counted in a dispatch. -/
theorem publish_gained (ref : EventRef) (x : Exchange σ) (client : σ) :
    x.counters.Gained (publish ref x client).2.1.counters [] := by
  have hkept : KeptByTurns ref fun y : Exchange σ => x.counters.Gained y.counters [] := by
    refine ⟨⟨?_, ?_⟩, ?_⟩
    · intro y conf h
      exact h.trans (y.subscribe_gained conf)
    · intro y id h
      rw [unsubscribe_counters]
      exact h
    · intro y id _ h
      exact h
  exact hkept.publish client (.refl _)

end Exchange

theorem Registry.mem_kept_retain {r : Registry} {index endpoint : Nat} (ref : EventRef) {d : Device}
    (hdevice : r.devices[index]? = some d) (hendpoint : endpoint < d.endpoints.length) :
    ref ∈ (r.update index fun d => d.retain endpoint ref).kept := by
  obtain ⟨others, -, hafter⟩ := r.kept_update (fun d => d.retain endpoint ref) hdevice
  obtain ⟨rest, -, hlater⟩ := Device.kept_retain ref hendpoint
  rw [hafter.mem_iff, List.mem_append, hlater.mem_iff]
  exact .inl List.mem_cons_self

namespace Hub

variable {hub : Hub σ} {addr : DeviceAddr} {payload : Payload} {client : σ}

/-- What a dispatch counts. -/
def dispatchTallies (hub : Hub σ) (ref : EventRef) (retained : Bool) (client : σ) : List Tally :=
  .events ::
    if (hub.exchange.publish ref client).1 ≠ 0 || retained then [] else [.neverReferenced]

theorem dispatch_gained (hub : Hub σ) (ref : EventRef) (retained : Bool) (client : σ) :
    hub.counters.Gained (hub.dispatch ref retained client).2.1.counters
      (hub.dispatchTallies ref retained client) := by
  have hpublished := Exchange.publish_gained ref hub.exchange client
  unfold Hub.dispatch dispatchTallies
  generalize hub.exchange.publish ref client = published at hpublished ⊢
  exact hpublished.trans (published.2.1.counters.eventDispatched_gained _)

/-- Only a refusal is counted of a registration. -/
theorem register_counters (h : ∀ cause, (hub.register addr).1 ≠ .error (.error cause)) :
    (hub.register addr).2.counters = hub.counters := by
  rw [register_result] at h
  unfold Hub.register
  dsimp only
  split
  · rename_i cause hresult
    exact absurd hresult (h cause)
  · rfl

theorem retain_counters (hub : Hub σ) (index endpoint : Nat) (ref : EventRef) :
    (hub.retain index endpoint ref).counters = hub.counters := by
  unfold Hub.retain
  dsimp only
  split <;> rfl

theorem absorb_counters {index : Nat} {device : Device} {made : EventRef × Bool} {next : Hub σ}
    (h : hub.absorb index device payload = (.ok made, next)) : next.counters = hub.counters := by
  unfold Hub.absorb at h
  split at h
  · cases h
  · dsimp only at h
    split at h
    · cases h
      exact retain_counters _ _ _ _
    · cases h
      rfl

/-- What a payload counts on its way in. -/
theorem intake_gained (hub : Hub σ) (addr : DeviceAddr) (payload : Payload) :
    (∃ cause reason next, cause.tally? = some reason ∧
      hub.intake addr payload = (.error (.error (.registry cause)), next) ∧
        hub.counters.Gained next.counters [.registrationsDropped, reason]) ∨
    (∃ next, hub.intake addr payload = (.error .abort, next) ∧
      hub.counters.Gained next.counters []) ∨
    (∃ cause next, hub.intake addr payload = (.error (.error (.ingest cause)), next) ∧
      hub.counters.Gained next.counters [.eventsDropped, .dataDropped, cause.tally]) ∨
    (∃ made next, hub.intake addr payload = (.ok made, next) ∧
      hub.counters.Gained next.counters []) := by
  rcases hub.intake_cases addr payload with
    ⟨cause, hregister, hcase⟩ | ⟨hregister, hcase⟩ |
      ⟨index, device, hregister, hdevice, result, next, habsorb, hcase⟩
  · obtain ⟨reason, hreason, hraised⟩ := (register_refuses hregister).counted
    exact .inl ⟨cause, reason, _, hreason, hcase,
      hraised.gained (RegistryError.tallies_nodup hreason)⟩
  · have hsame : (hub.register addr).2.counters = hub.counters :=
      register_counters (by simp [hregister])
    exact .inr (.inl ⟨_, hcase, hsame ▸ .refl _⟩)
  · cases result with
    | error cause =>
      have hdropped := (absorb_drops hregister hdevice habsorb).counted
      exact .inr (.inr (.inl ⟨cause, next, hcase, hdropped.gained (cause.tallies_nodup false)⟩))
    | ok made =>
      have hsame : next.counters = hub.counters :=
        (absorb_counters habsorb).trans (register_counters (by simp [hregister]))
      exact .inr (.inr (.inr ⟨made, next, hcase, hsame ▸ .refl _⟩))

/-- The hub with a new event, which has a slot and no bytes. -/
def withEvent (hub : Hub σ) (slot : Nat) (slots : Pool) (event : Event) : Hub σ :=
  hub.withEvents
    { slots
      budget := hub.events.budget
      live := hub.events.live ++
        [{ ref := hub.events.nextRef, slot, lease := none, holders := 1, event }]
      nextRef := hub.events.nextRef + 1 }

/-- An event of a command is made if a slot is free, and counted as dropped otherwise. -/
theorem report_cases (hub : Hub σ) (event : Event) :
    (hub.events.slots.available = 0 ∧
      hub.report event = (none, hub.count fun c => c.eventDropped .poolExhausted true)) ∨
    (hub.events.slots.available ≠ 0 ∧ ∃ slot slots,
      hub.report event = (some hub.events.nextRef, hub.withEvent slot slots event)) := by
  unfold Hub.report EventStore.takeSlot Pool.acquire Pool.available
  cases hfree : hub.events.slots.free with
  | nil => exact .inl ⟨rfl, rfl⟩
  | cons slot rest => exact .inr ⟨by simp, _, _, rfl⟩

/-- A command makes one event if its device is known, after it was counted if it was refused. -/
theorem order_cases (hub : Hub σ) (addr : DeviceAddr) (endpoint : Nat) (value : DataValue) :
    (hub.registry.lookup? addr = none ∧
      hub.order addr endpoint value = (.error (.registry .deviceNotFound), none, hub)) ∨
    ((hub.registry.lookup? addr).isSome = true ∧
      ∃ (result : Except Error (List UInt8)) (known : Hub σ) (event : Event) (bumps : List Tally),
      known.events = hub.events ∧ known.registry.kept = hub.registry.kept ∧
      hub.counters.Gained known.counters bumps ∧
      hub.order addr endpoint value = (result, known.report event) ∧
      ((∃ frame, result = .ok frame ∧ bumps = []) ∨ ∃ cause, result = .error (.ingest cause) ∧
        bumps = [.eventsDropped, .commandsDropped, cause.tally])) := by
  unfold Hub.order
  split
  · rename_i hlookup
    exact .inl ⟨hlookup, rfl⟩
  · rename_i index device hlookup
    refine .inr ⟨by rw [hlookup]; rfl, ?_⟩
    split
    · rename_i frame assignment hencode
      refine ⟨_, _, _, [], ?_, ?_, ?_, rfl, .inl ⟨frame, rfl, rfl⟩⟩
      · rfl
      · exact hub.registry.kept_update_same index _ fun _ => rfl
      · exact .refl _
    · rename_i cause hencode
      refine ⟨_, _, _, _, ?_, ?_, ?_, rfl, .inr ⟨cause, rfl, rfl⟩⟩
      · rfl
      · exact hub.registry.kept_update_same index _ fun _ => rfl
      · exact hub.counters.eventDropped_gained cause true

/-! Who keeps the event that was made. -/

variable {bounds : EventStore.Bounds} {outside : List EventRef} {slots : List Nat}
  {loans : List UInt64} {ref : EventRef}

theorem retain_registry (hub : Hub σ) (index endpoint : Nat) (ref : EventRef) :
    (hub.retain index endpoint ref).registry =
      hub.registry.update index fun d => d.retain endpoint ref := by
  unfold Hub.retain
  dsimp only
  split <;> rfl

/-- The endpoint keeps the event of a payload exactly if the answer says so. -/
theorem Accounts.absorb_kept {index : Nat} {device : Device} {retained : Bool} {next : Hub σ}
    (h : hub.Accounts bounds outside slots loans)
    (hdevice : hub.registry.devices[index]? = some device)
    (hmade : hub.absorb index device payload = (.ok (ref, retained), next)) :
    retained = true ↔ ref ∈ next.registry.kept := by
  have hingested := ingest_accounts device payload hub.now h.events
  unfold Hub.absorb at hmade
  cases hingest : ingest hub.events device payload hub.now with
  | mk result events =>
    rw [hingest] at hmade hingested
    cases result with
    | error cause => cases hmade
    | ok made =>
      obtain ⟨made, endpoint⟩ := made
      obtain ⟨-, hnew, hendpoint⟩ := hingested
      dsimp only at hmade hnew hendpoint
      generalize hretains : (device.config? endpoint).any EndpointConfig.retains = retains at hmade
      cases retains with
      | true =>
        cases hmade
        rw [if_pos rfl, retain_registry]
        refine iff_of_true rfl (Registry.mem_kept_retain ref
          (d := { device with stats := device.stats.receive payload.bytes.length }) ?_ hendpoint)
        simp [Hub.updateDevice, Registry.update, Hub.withEvents, hdevice]
      | false =>
        cases hmade
        refine iff_of_false Bool.false_ne_true fun hin => hnew (List.mem_append_left _ ?_)
        rw [if_neg Bool.false_ne_true] at hin
        have hsame : ((hub.withEvents events).updateDevice index fun d =>
            { d with stats := d.stats.receive payload.bytes.length }).registry.kept =
              hub.registry.kept := hub.registry.kept_update_same index _ fun _ => rfl
        exact List.mem_append_right _ (hsame ▸ hin)

/-- So it is for a payload whose device may have to join first. -/
theorem Accounts.intake_kept {retained : Bool} {next : Hub σ}
    (h : hub.Accounts bounds outside slots loans)
    (hmade : hub.intake addr payload = (.ok (ref, retained), next)) :
    retained = true ↔ ref ∈ next.registry.kept := by
  rcases hub.intake_cases addr payload with
    ⟨cause, -, hcase⟩ | ⟨-, hcase⟩ | ⟨index, device, -, hdevice, result, last, habsorb, hcase⟩
  · rw [hcase] at hmade
    cases hmade
  · rw [hcase] at hmade
    cases hmade
  · rw [hcase] at hmade
    cases result with
    | error cause => cases hmade
    | ok made =>
      cases hmade
      exact (h.register addr).absorb_kept hdevice habsorb

/-- Nobody keeps an event whose name was not given out yet. -/
theorem Accounts.nextRef_unkept (h : hub.Accounts bounds outside slots loans) :
    hub.events.nextRef ∉ hub.registry.kept := by
  intro hin
  exact Nat.lt_irrefl _ (h.events.lt_nextRef
    (List.mem_append_left _ (List.mem_append_right _ hin)))

/-- An event goes to nobody when it is dispatched: there is no turn in which it is queued to a
subscription, and no endpoint keeps it. -/
def wastes (hub : Hub σ) (ref : EventRef) (client : σ) : Bool :=
  ref ∉ hub.registry.kept && (hub.events.find? ref).all fun stored =>
    (Exchange.course ref stored.event hub.exchange.dispatcher.listed hub.exchange client).all
      fun t => !t.queued

theorem wastes_iff (hub : Hub σ) (ref : EventRef) (client : σ) :
    hub.wastes ref client = true ↔
      ref ∉ hub.registry.kept ∧ (hub.exchange.publish ref client).1 = 0 := by
  rw [Exchange.publish_eq_zero_iff]
  simp [wastes, Hub.events, Option.all_eq_true]

theorem dispatchTallies_share {retained : Bool} (hkept : retained = true ↔ ref ∈ hub.registry.kept)
    (client : σ) :
    Share.ofTallies (hub.dispatchTallies ref retained client) =
      ⟨0, 0, 0, 1, (hub.wastes ref client).toNat⟩ := by
  have hwastes : hub.wastes ref client =
      !((hub.exchange.publish ref client).1 ≠ 0 || retained) := by
    rw [Bool.eq_iff_iff, wastes_iff, ← hkept]
    simp [and_comm]
  rw [hwastes]
  exact Share.ofTallies_dispatch _

/-- The event of a command is counted once, as dropped or as dispatched. -/
theorem report_gained (event : Event) (client : σ)
    (hunkept : hub.events.nextRef ∉ hub.registry.kept) :
    (hub.events.slots.available = 0 ∧ ∃ next bumps, hub.report event = (none, next) ∧
      hub.counters.Gained next.counters bumps ∧ Even bumps ∧
        Share.ofTallies bumps = ⟨0, 0, 1, 0, 0⟩) ∨
    (hub.events.slots.available ≠ 0 ∧ ∃ ref next bumps, hub.report event = (some ref, next) ∧
      hub.counters.Gained (next.dispatch ref false client).2.1.counters bumps ∧ Even bumps ∧
        Share.ofTallies bumps = ⟨0, 0, 0, 1, (next.wastes ref client).toNat⟩) := by
  rcases hub.report_cases event with ⟨hfull, hreport⟩ | ⟨hfree, slot, slots, hreport⟩
  · exact .inl ⟨hfull, _, _, hreport, hub.counters.eventDropped_gained .poolExhausted true,
      .drop _ true, Share.ofTallies_drop _ true⟩
  · have hstays : hub.events.nextRef ∉ (hub.withEvent slot slots event).registry.kept := hunkept
    exact .inr ⟨hfree, _, _, _, hreport, dispatch_gained _ hub.events.nextRef false client,
      .dispatch _, dispatchTallies_share (iff_of_false Bool.false_ne_true hstays) client⟩

end Hub

namespace HubInUse

namespace Deed

/-! What there is to count of an operation. -/

def receipt? (d : Deed κ σ) : Option (Except (Halt Error) Nat) :=
  match d.operation with
  | .receive addr payload =>
    some (d.before.hub.receive addr payload.bytes payload.timestamp d.before.client).1
  | _ => none

/-- A device could not be registered, be it by its data. -/
def registrationFails (d : Deed κ σ) : Bool :=
  match d.operation with
  | .register addr =>
    match (d.before.hub.register addr).1 with
    | .error (.error _) => true
    | _ => false
  | _ =>
    match d.receipt? with
    | some (.error (.error (.registry _))) => true
    | _ => false

/-- A payload was dropped. -/
def payloadDropped (d : Deed κ σ) : Bool :=
  match d.receipt? with
  | some (.error (.error (.ingest _))) => true
  | _ => false

def payloadTaken (d : Deed κ σ) : Bool :=
  match d.receipt? with
  | some (.ok _) => true
  | _ => false

/-- The endpoint of a known device refused a command. -/
def commandRefused (d : Deed κ σ) : Bool :=
  match d.operation with
  | .command addr endpoint value =>
    match (d.before.hub.command addr endpoint value d.before.client).1 with
    | .error (.ingest _) => true
    | _ => false
  | _ => false

/-- A command to a known device, which makes an event if it finds a slot. -/
def reports (d : Deed κ σ) : Bool :=
  match d.operation with
  | .command addr _ _ => (d.before.hub.registry.lookup? addr).isSome
  | _ => false

def findsSlot (d : Deed κ σ) : Bool := d.before.hub.events.slots.available ≠ 0

/-- The event of a payload or a command went to nobody. -/
def wastes (d : Deed κ σ) : Bool :=
  match d.operation with
  | .receive addr payload =>
    match d.before.hub.intake addr payload with
    | (.ok (ref, _), next) => next.wastes ref d.before.client
    | (.error _, _) => false
  | .command addr endpoint value =>
    match d.before.hub.order addr endpoint value with
    | (_, some ref, next) => next.wastes ref d.before.client
    | (_, none, _) => false
  | _ => false

def share (d : Deed κ σ) : Share where
  registrations := d.registrationFails.toNat
  data := d.payloadDropped.toNat
  commands := d.commandRefused.toNat + (d.reports && !d.findsSlot).toNat
  events := d.payloadTaken.toNat + (d.reports && d.findsSlot).toNat
  neverReferenced := d.wastes.toNat

/-- What there is to count of some operations. -/
def shares (deeds : List (Deed κ σ)) : Share where
  registrations := deeds.countP registrationFails
  data := deeds.countP payloadDropped
  commands := deeds.countP commandRefused + deeds.countP fun d => d.reports && !d.findsSlot
  events := deeds.countP payloadTaken + deeds.countP fun d => d.reports && d.findsSlot
  neverReferenced := deeds.countP wastes

theorem shares_append (first second : List (Deed κ σ)) :
    shares (first ++ second) = (shares first).add (shares second) := by
  simp only [shares, Share.add, List.countP_append, Nat.add_add_add_comm]

theorem shares_singleton (d : Deed κ σ) : shares [d] = d.share := by
  have hone (p : Deed κ σ → Bool) : [d].countP p = (p d).toNat := by
    rw [List.countP_singleton]
    cases p d <;> rfl
  simp only [shares, share, hone]

/-- An operation that is neither a registration nor a payload nor a command gives nothing. -/
theorem share_idle {d : Deed κ σ} (hregistrations : d.registrationFails = false)
    (hreceipt : d.receipt? = none) (hrefused : d.commandRefused = false)
    (hreports : d.reports = false) (hwastes : d.wastes = false) : d.share = ⟨0, 0, 0, 0, 0⟩ := by
  simp [share, hregistrations, payloadDropped, payloadTaken, hreceipt, hrefused, hreports, hwastes]

/-- A payload gives nothing to the commands. -/
theorem share_receive (e : HubInUse κ σ) (addr : DeviceAddr) (payload : Payload) :
    let d : Deed κ σ := ⟨e, .receive addr payload⟩
    d.share = ⟨d.registrationFails.toNat, d.payloadDropped.toNat, 0, d.payloadTaken.toNat,
      d.wastes.toNat⟩ := by
  simp [share, commandRefused, reports]

/-- Nor does a command to the payloads. -/
theorem share_command (e : HubInUse κ σ) (addr : DeviceAddr) (endpoint : Nat) (value : DataValue) :
    let d : Deed κ σ := ⟨e, .command addr endpoint value⟩
    d.share = ⟨0, 0, d.commandRefused.toNat + (d.reports && !d.findsSlot).toNat,
      (d.reports && d.findsSlot).toNat, d.wastes.toNat⟩ := by
  simp [share, registrationFails, payloadDropped, payloadTaken, receipt?]

end Deed

/-- What was counted is what some operations have given to count. -/
structure Tallied (deeds : List (Deed κ σ)) (bumps : List Tally) : Prop where
  even : Even bumps
  share : Share.ofTallies bumps = Deed.shares deeds

theorem Tallied.append {first second : List (Deed κ σ)} {bumps more : List Tally}
    (hfirst : Tallied first bumps) (hsecond : Tallied second more) :
    Tallied (first ++ second) (bumps ++ more) where
  even := hfirst.even.append hsecond.even
  share := by rw [Share.ofTallies_append, Deed.shares_append, hfirst.share, hsecond.share]

theorem Tallied.single {d : Deed κ σ} {bumps : List Tally} (heven : Even bumps)
    (hshare : Share.ofTallies bumps = d.share) : Tallied [d] bumps where
  even := heven
  share := by rw [hshare, Deed.shares_singleton]

/-- An operation counts nothing that is neither a registration nor a payload nor a command. -/
theorem Tallied.idle {d : Deed κ σ} (hregistrations : d.registrationFails = false)
    (hreceipt : d.receipt? = none) (hrefused : d.commandRefused = false)
    (hreports : d.reports = false) (hwastes : d.wastes = false) : Tallied [d] [] :=
  .single .nil (Deed.share_idle hregistrations hreceipt hrefused hreports hwastes).symm

variable {e : HubInUse κ σ} {bounds : EventStore.Bounds}

theorem register_tallied (e : HubInUse κ σ) (addr : DeviceAddr) :
    ∃ bumps, e.hub.counters.Gained (e.hub.register addr).2.counters bumps ∧
      Tallied [(⟨e, .register addr⟩ : Deed κ σ)] bumps := by
  by_cases hrefused : ∃ cause, (e.hub.register addr).1 = .error (.error cause)
  · obtain ⟨cause, hcause⟩ := hrefused
    obtain ⟨reason, hreason, hraised⟩ := (Hub.register_refuses hcause).counted
    have hgained := hraised.gained (RegistryError.tallies_nodup hreason)
    refine ⟨_, hgained, .single (.registration hreason) ?_⟩
    rw [Share.ofTallies_registration hreason]
    simp [Deed.share, Deed.registrationFails, hcause, Deed.payloadDropped, Deed.payloadTaken,
      Deed.receipt?, Deed.commandRefused, Deed.reports, Deed.wastes]
  · have hpasses (cause : RegistryError) : (e.hub.register addr).1 ≠ .error (.error cause) :=
      fun hcause => hrefused ⟨cause, hcause⟩
    refine ⟨[], Hub.register_counters hpasses ▸ .refl _, .idle ?_ rfl rfl rfl rfl⟩
    unfold Deed.registrationFails
    dsimp only
    split
    · rename_i cause hcause
      exact absurd hcause (hpasses cause)
    · rfl

/-- A payload is counted once, as a registration that failed, as dropped, or as taken. -/
theorem receive_tallied (addr : DeviceAddr) (payload : Payload) (h : e.Accounts bounds) :
    ∃ bumps, e.hub.counters.Gained (e.receive addr payload).hub.counters bumps ∧
      Tallied [(⟨e, .receive addr payload⟩ : Deed κ σ)] bumps := by
  let d : Deed κ σ := ⟨e, .receive addr payload⟩
  change ∃ bumps, e.hub.counters.Gained
    (e.hub.receive addr payload.bytes payload.timestamp e.client).2.1.counters bumps ∧
      Tallied [d] bumps
  have hreceipt : d.receipt? =
      some (e.hub.receive addr payload.bytes payload.timestamp e.client).1 := rfl
  have hwastes : d.wastes =
      match e.hub.intake addr payload with
      | (.ok (ref, _), next) => next.wastes ref e.client
      | (.error _, _) => false := rfl
  have hshare : d.share = ⟨d.registrationFails.toNat, d.payloadDropped.toNat, 0,
      d.payloadTaken.toNat, d.wastes.toNat⟩ := Deed.share_receive e addr payload
  unfold Hub.receive at hreceipt ⊢
  rcases e.hub.intake_gained addr payload with
    ⟨cause, reason, next, hreason, hcase, hgained⟩ | ⟨next, hcase, hgained⟩ |
      ⟨cause, next, hcase, hgained⟩ | ⟨⟨ref, retained⟩, next, hcase, hgained⟩
  · rw [hcase] at hreceipt hwastes ⊢
    refine ⟨_, hgained, .single (.registration hreason) ?_⟩
    rw [Share.ofTallies_registration hreason, hshare, hwastes]
    simp [d, Deed.registrationFails, Deed.payloadDropped, Deed.payloadTaken, hreceipt]
  · rw [hcase] at hreceipt hwastes ⊢
    refine ⟨_, hgained, .single .nil ?_⟩
    rw [hshare, hwastes]
    simp [d, Share.ofTallies, Deed.registrationFails, Deed.payloadDropped, Deed.payloadTaken,
      hreceipt]
  · rw [hcase] at hreceipt hwastes ⊢
    refine ⟨_, hgained, .single (.drop cause false) ((Share.ofTallies_drop cause false).trans ?_)⟩
    rw [hshare, hwastes]
    simp [d, Deed.registrationFails, Deed.payloadDropped, Deed.payloadTaken, hreceipt]
  · have hkept := Hub.Accounts.intake_kept h hcase
    have hdispatched := next.dispatch_gained ref retained e.client
    rw [hcase] at hreceipt hwastes ⊢
    refine ⟨_, hgained.trans hdispatched, .single (.dispatch _) ?_⟩
    rw [List.nil_append, Hub.dispatchTallies_share hkept, hshare, hwastes]
    simp [d, Deed.registrationFails, Deed.payloadDropped, Deed.payloadTaken, hreceipt]

/-- A command to a known device is counted once for its event, and once more if it was refused. -/
theorem command_tallied (addr : DeviceAddr) (endpoint : Nat) (value : DataValue)
    (h : e.Accounts bounds) :
    ∃ bumps, e.hub.counters.Gained (e.command addr endpoint value).hub.counters bumps ∧
      Tallied [(⟨e, .command addr endpoint value⟩ : Deed κ σ)] bumps := by
  let d : Deed κ σ := ⟨e, .command addr endpoint value⟩
  change ∃ bumps, e.hub.counters.Gained
    (e.hub.command addr endpoint value e.client).2.1.counters bumps ∧ Tallied [d] bumps
  have hreports : d.reports = (e.hub.registry.lookup? addr).isSome := rfl
  have hrefused : d.commandRefused =
      match (e.hub.command addr endpoint value e.client).1 with
      | .error (.ingest _) => true
      | _ => false := rfl
  have hwastes : d.wastes =
      match e.hub.order addr endpoint value with
      | (_, some ref, next) => next.wastes ref e.client
      | (_, none, _) => false := rfl
  have hshare : d.share = ⟨0, 0, d.commandRefused.toNat + (d.reports && !d.findsSlot).toNat,
      (d.reports && d.findsSlot).toNat, d.wastes.toNat⟩ :=
    Deed.share_command e addr endpoint value
  unfold Hub.command at hrefused ⊢
  rcases e.hub.order_cases addr endpoint value with
    ⟨hlookup, hcase⟩ |
      ⟨hlookup, result, known, event, bumps, hevents, hkept, hgained, hcase, hresult⟩
  · rw [hcase] at hrefused hwastes ⊢
    rw [hlookup] at hreports
    exact ⟨[], .refl _, .idle rfl rfl hrefused hreports hwastes⟩
  · rw [hlookup] at hreports
    have hslots : d.findsSlot = decide (known.events.slots.available ≠ 0) := by
      rw [hevents]
      rfl
    have hunkept : known.events.nextRef ∉ known.registry.kept := by
      rw [hkept, hevents]
      exact Hub.Accounts.nextRef_unkept h
    obtain ⟨heven, hbumps⟩ : Even bumps ∧ Share.ofTallies bumps =
        ⟨0, 0, (match result with
          | .error (.ingest _) => true
          | _ => false).toNat, 0, 0⟩ := by
      rcases hresult with ⟨frame, rfl, rfl⟩ | ⟨cause, rfl, rfl⟩
      · exact ⟨.nil, rfl⟩
      · exact ⟨.drop cause true, Share.ofTallies_drop cause true⟩
    rcases Hub.report_gained event e.client hunkept with
      ⟨hfull, next, more, hreport, hmore, hevenMore, hlast⟩ |
        ⟨hfree, ref, next, more, hreport, hmore, hevenMore, hlast⟩
    · rw [hcase, hreport] at hrefused hwastes ⊢
      refine ⟨_, hgained.trans hmore, .single (heven.append hevenMore) ?_⟩
      rw [Share.ofTallies_append, hbumps, hlast, hshare, hrefused, hwastes, hreports, hslots, hfull]
      rfl
    · rw [hcase, hreport] at hrefused hwastes ⊢
      refine ⟨_, hgained.trans hmore, .single (heven.append hevenMore) ?_⟩
      rw [Share.ofTallies_append, hbumps, hlast, hshare, hrefused, hwastes, hreports, hslots,
        decide_eq_true hfree]
      simp [Share.add]

/-- Every operation gives its share to count. -/
theorem operate_tallied (confOf : Nat → κ → SubscriptionConf σ) (operation : HubOperation κ)
    (h : e.Accounts bounds) :
    ∃ bumps, e.hub.counters.Gained (e.operate confOf operation).hub.counters bumps ∧
      Tallied [⟨e, operation⟩] bumps := by
  cases operation with
  | register addr => exact e.register_tallied addr
  | receive addr payload => exact receive_tallied addr payload h
  | command addr endpoint value => exact command_tallied addr endpoint value h
  | setClock now => exact ⟨[], .refl _, .idle rfl rfl rfl rfl rfl⟩
  | subscribe conf =>
    refine ⟨[], ?_, .idle rfl rfl rfl rfl rfl⟩
    have hsubscribed := e.hub.exchange.subscribe_gained
      (confOf e.hub.exchange.dispatcher.nextId conf)
    rw [← Hub.subscribe_exchange] at hsubscribed
    exact hsubscribed
  | unsubscribe id =>
    refine ⟨[], ?_, .idle rfl rfl rfl rfl rfl⟩
    have hsame : (e.operate confOf (.unsubscribe id)).hub.counters = e.hub.counters :=
      e.hub.exchange.unsubscribe_counters id
    exact hsame ▸ .refl _
  | next id =>
    refine ⟨[], ?_, .idle rfl rfl rfl rfl rfl⟩
    have hsame : (e.hub.next id).2.counters = e.hub.counters := e.hub.exchange.next_counters id
    simp only [HubInUse.operate, HubInUse.next]
    generalize e.hub.next id = taken at hsame ⊢
    obtain ⟨ref, next⟩ := taken
    dsimp only at hsame
    rw [← hsame]
    cases ref <;> exact .refl _
  | publish handle =>
    refine ⟨[], ?_, .idle rfl rfl rfl rfl rfl⟩
    simp only [HubInUse.operate, HubInUse.publish]
    split
    · rename_i ref hget
      exact Exchange.publish_gained ref e.hub.exchange e.client
    · exact .refl _
  | latest | duplicate | letGo | begin | reserve | attach | freeze | discard | repay =>
    refine ⟨[], ?_, .idle rfl rfl rfl rfl rfl⟩
    simp only [HubInUse.operate, HubInUse.latest, HubInUse.duplicate, HubInUse.hold, HubInUse.letGo,
      HubInUse.begin, HubInUse.reserve, HubInUse.attach, HubInUse.freeze, HubInUse.discard,
      HubInUse.repay]
    split <;> exact .refl _

/-- The counters of a hub after some operations on it, modulo the size of a word. -/
structure Counted (e : HubInUse κ σ) (deeds : List (Deed κ σ)) : Prop where
  balanced : e.hub.counters.Balanced
  registrations : e.hub.counters.registrationsDropped =
    UInt32.ofNat (deeds.countP Deed.registrationFails)
  data : e.hub.counters.dataDropped = UInt32.ofNat (deeds.countP Deed.payloadDropped)
  commands : e.hub.counters.commandsDropped = UInt32.ofNat
    (deeds.countP Deed.commandRefused + deeds.countP fun d => d.reports && !d.findsSlot)
  events : e.hub.counters.events = UInt32.ofNat
    (deeds.countP Deed.payloadTaken + deeds.countP fun d => d.reports && d.findsSlot)
  neverReferenced : e.hub.counters.neverReferenced = UInt32.ofNat (deeds.countP Deed.wastes)

theorem Tallied.counted {deeds : List (Deed κ σ)} {bumps : List Tally} (h : Tallied deeds bumps)
    (hgained : ({} : Counters).Gained e.hub.counters bumps) : e.Counted deeds := by
  have hshare (f : Share → Nat) :
      UInt32.ofNat (f (Share.ofTallies bumps)) = UInt32.ofNat (f (Deed.shares deeds)) := by
    rw [h.share]
  refine ⟨hgained.balanced h.even, ?_, ?_, ?_, ?_, ?_⟩
  · exact (hgained.read_eq (by decide)).symm.trans (hshare Share.registrations)
  · exact (hgained.read_eq (by decide)).symm.trans (hshare Share.data)
  · exact (hgained.read_eq (by decide)).symm.trans (hshare Share.commands)
  · exact (hgained.read_eq (by decide)).symm.trans (hshare Share.events)
  · exact (hgained.read_eq (by decide)).symm.trans (hshare Share.neverReferenced)

/-- Along a path from a new hub, every operation is counted as it should be. -/
theorem Path.tallied {config : HubConfig} {capability? : DeviceType → Option Capability}
    {now : UInt32} {hub : Hub σ} (hnew : Hub.new config capability? now = .ok hub) {client : σ}
    {confOf : Nat → κ → SubscriptionConf σ} {deeds : List (Deed κ σ)}
    (h : Path confOf (HubInUse.start hub client) deeds e) :
    ∃ bumps, ({} : Counters).Gained e.hub.counters bumps ∧ Tallied deeds bumps := by
  induction h with
  | start =>
    refine ⟨[], ?_, .nil, rfl⟩
    rw [Hub.new_eq hnew]
    exact .refl _
  | operate hpath operation ih =>
    obtain ⟨bumps, hgained, htallied⟩ := ih
    have haccounts := hpath.accounts hnew
    obtain ⟨more, hmore, hone⟩ := operate_tallied confOf operation haccounts
    exact ⟨bumps ++ more, hgained.trans hmore, htallied.append hone⟩
  | pin _ hdevice pinMask ih => exact ih
  | unpin _ hpins ih => exact ih

/-- After whatever operations, in whatever order of successes and failures, the counters are what
these operations give to count. -/
theorem states_counted {config : HubConfig} {capability? : DeviceType → Option Capability}
    {now : UInt32} {hub : Hub σ} (hnew : Hub.new config capability? now = .ok hub) (client : σ)
    (confOf : Nat → κ → SubscriptionConf σ) :
    (∀ deeds e, Path confOf (HubInUse.start hub client) deeds e → e.Counted deeds) ∧
      ∀ actions, ∀ e ∈ states confOf actions (HubInUse.start hub client),
        ∃ deeds, Path confOf (HubInUse.start hub client) deeds e ∧ e.Counted deeds := by
  have hcounted (deeds : List (Deed κ σ)) (e : HubInUse κ σ)
      (hpath : Path confOf (HubInUse.start hub client) deeds e) : e.Counted deeds := by
    obtain ⟨bumps, hgained, htallied⟩ := hpath.tallied hnew
    exact htallied.counted hgained
  refine ⟨hcounted, ?_⟩
  intro actions e he
  obtain ⟨deeds, hpath⟩ := states_path confOf actions _ e he
  exact ⟨deeds, hpath, hcounted deeds e hpath⟩

/-- With one slot for events, which the first payload takes. The command after the second payload
is refused, and there is no slot to report that. -/
theorem states_counted_full :
    ∃ hub : Hub Unit, Hub.new { maxEvents := 1 } Builtin.capability? 0 = .ok hub ∧
      let run := states (fun _ (conf : SubscriptionConf Unit) => conf)
        [.operate (.register .unknown),
          .operate (.receive (.onBoard .nucleoF429zi) { bytes := [0, 0, 200, 65], timestamp := 0 }),
          .operate
            (.receive (.onBoard .nucleoF429zi) { bytes := [0, 0, 192, 127], timestamp := 0 }),
          .operate (.command (.onBoard .nucleoF429zi) 0 (.rssi ⟨0⟩))]
        (HubInUse.start hub ())
      ∃ e ∈ run, e.hub.counters.registrationsDropped = 1 ∧ e.hub.counters.dataDropped = 1 ∧
        e.hub.counters.commandsDropped = 2 ∧ e.hub.counters.events = 1 ∧
        ∃ deeds, Path (fun _ conf => conf) (HubInUse.start hub ()) deeds e ∧ e.Counted deeds := by
  refine ⟨_, rfl, ?_⟩
  intro run
  have hlast := List.mem_of_getElem? (l := run) (i := 4) rfl
  refine ⟨_, hlast, rfl, rfl, rfl, rfl, ?_⟩
  exact (@states_counted _ _ { maxEvents := 1 } Builtin.capability? 0 _ rfl () _).2 _ _ hlast

end HubInUse

end HomeGateway
