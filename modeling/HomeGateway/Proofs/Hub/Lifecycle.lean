import Mathlib
import HomeGateway.Proofs.Hub.Accounting
import HomeGateway.Proofs.Hub.Run

/-!
The life of events over whole runs. In every state that a run passes through, each live event
is counted as often as it is held, slots and bytes are in use for what is held and for nothing
else, and both stay within their bounds.
-/

namespace HomeGateway

variable {κ σ : Type}

theorem EventStore.Accounts.giveBack {store : EventStore} {bounds : EventStore.Bounds}
    {holders : List EventRef} {slots : List Nat} {loans : List UInt64} (lease : Option UInt64)
    (h : store.Accounts bounds holders slots (lease.toList ++ loans)) :
    (store.repay lease).Accounts bounds holders slots loans := by
  cases lease with
  | none => exact h
  | some size => exact EventStore.Accounts.repay h

namespace HubInUse

/-- The reserved bytes that belong to no complete event. -/
def unattached (e : HubInUse κ σ) : List UInt64 :=
  e.builders.filterMap Builder.lease ++ e.loans

/-- Where events are held: queues, endpoints, clients and visits. -/
def places (e : HubInUse κ σ) : List EventRef := e.hub.inside ++ (e.handles ++ e.pins)

/-- The books of the hub agree with what its clients hold. -/
def Accounts (e : HubInUse κ σ) (bounds : EventStore.Bounds) : Prop :=
  e.hub.Accounts bounds (e.handles ++ e.pins) (e.builders.map Builder.slot) e.unattached

variable {e : HubInUse κ σ} {bounds : EventStore.Bounds}

/-- What a builder has reserved, and the rest. -/
theorem unattached_perm {builder : Nat} {b : Builder} (h : e.builders[builder]? = some b) :
    e.unattached.Perm (b.lease.toList ++
      ((e.builders.eraseIdx builder).filterMap Builder.lease ++ e.loans)) := by
  have hleases := (perm_cons_eraseIdx h).filterMap Builder.lease
  refine (hleases.append_right e.loans).trans ?_
  cases hlease : b.lease <;> simp [hlease]

theorem Accounts.receive (addr : DeviceAddr) (payload : Payload) (h : e.Accounts bounds) :
    (e.receive addr payload).Accounts bounds :=
  Hub.Accounts.receive addr payload.bytes payload.timestamp e.client h

theorem Accounts.command (addr : DeviceAddr) (endpoint : Nat) (value : DataValue)
    (h : e.Accounts bounds) : (e.command addr endpoint value).Accounts bounds :=
  Hub.Accounts.command addr endpoint value e.client h

theorem Accounts.subscribe (confOf : Nat → κ → SubscriptionConf σ) (conf : κ)
    (h : e.Accounts bounds) : (e.subscribe confOf conf).Accounts bounds :=
  Hub.Accounts.subscribe (confOf e.hub.exchange.dispatcher.nextId conf) h

theorem Accounts.next (id : Nat) (h : e.Accounts bounds) : (e.next id).Accounts bounds := by
  have htaken := Hub.Accounts.next id h
  unfold HubInUse.next
  generalize e.hub.next id = taken at htaken ⊢
  obtain ⟨ref, hub⟩ := taken
  cases ref with
  | none => exact htaken
  | some ref => exact htaken

theorem Accounts.hold {ref : EventRef} (h : e.Accounts bounds) (hheld : ref ∈ e.places) :
    (e.hold ref).Accounts bounds :=
  Hub.Accounts.with_new h (h.events.hold hheld)

theorem Accounts.latest (device endpoint : Nat) (h : e.Accounts bounds) :
    (e.latest device endpoint).Accounts bounds := by
  unfold HubInUse.latest
  split
  · rename_i ref hkept
    obtain ⟨d, hdevice, hretained⟩ := Option.bind_eq_some_iff.mp hkept
    obtain ⟨p, hendpoint, hkeeps⟩ := Option.bind_eq_some_iff.mp hretained
    apply h.hold
    apply List.mem_append_left
    apply List.mem_append_right
    exact List.mem_flatMap.mpr ⟨d, List.mem_of_getElem? hdevice,
      List.mem_filterMap.mpr ⟨p, List.mem_of_getElem? hendpoint, hkeeps⟩⟩
  · exact h

theorem Accounts.duplicate (handle : Nat) (h : e.Accounts bounds) :
    (e.duplicate handle).Accounts bounds := by
  unfold HubInUse.duplicate
  split
  · rename_i ref hget
    exact h.hold (List.mem_append_right _ (List.mem_of_getElem? hget))
  · exact h

theorem Accounts.letGo (handle : Nat) (h : e.Accounts bounds) :
    (e.letGo handle).Accounts bounds := by
  unfold HubInUse.letGo
  split
  · rename_i ref hget
    exact (Hub.Accounts.outside_perm h ((perm_cons_eraseIdx hget).append_right e.pins)).release
  · exact h

theorem Accounts.publish (handle : Nat) (h : e.Accounts bounds) :
    (e.publish handle).Accounts bounds := by
  unfold HubInUse.publish
  split
  · rename_i ref hget
    have hheld : ref ∈ e.hub.registry.kept ++ (e.handles ++ e.pins) :=
      List.mem_append_right _ (List.mem_of_getElem? hget)
    exact Hub.Accounts.with_exchange h (h.exchange.publish e.client hheld)
  · exact h

theorem Accounts.begin (h : e.Accounts bounds) : e.begin.Accounts bounds := by
  unfold HubInUse.begin
  split
  · rename_i slot events htake
    exact Hub.Accounts.withEvents h (h.events.takeSlot htake)
  · exact h

theorem Accounts.reserve (size : UInt64) (h : e.Accounts bounds) :
    (e.reserve size).Accounts bounds := by
  unfold HubInUse.reserve
  split
  · rename_i events hreserve
    have hreserved := Hub.Accounts.withEvents h (h.events.reserve hreserve)
    exact hreserved.perm (List.Perm.refl _) (List.Perm.refl _) List.perm_middle.symm
  · exact h

theorem Accounts.attach (builder loan : Nat) (h : e.Accounts bounds) :
    (e.attach builder loan).Accounts bounds := by
  unfold HubInUse.attach
  split
  · rename_i b size hbuilder hloan
    have hbuilders := perm_cons_eraseIdx hbuilder
    have hloans := perm_cons_eraseIdx hloan
    have hlent : e.unattached.Perm (b.lease.toList ++
        (size :: ((e.builders.eraseIdx builder).filterMap Builder.lease ++
          e.loans.eraseIdx loan))) := by
      refine (unattached_perm hbuilder).trans (List.Perm.append_left _ ?_)
      exact (hloans.append_left _).trans List.perm_middle
    have hevents := h.events.perm (List.Perm.refl _) (hbuilders.map Builder.slot) hlent
    exact Hub.Accounts.withEvents h hevents.giveBack
  · exact h

theorem Accounts.freeze (builder : Nat) (event : Event) (h : e.Accounts bounds) :
    (e.freeze builder event).Accounts bounds := by
  unfold HubInUse.freeze
  split
  · rename_i b hbuilder
    have hbuilders := perm_cons_eraseIdx hbuilder
    have hevents := h.events.perm (List.Perm.refl _) (hbuilders.map Builder.slot)
      (unattached_perm hbuilder)
    exact Hub.Accounts.with_new h (hevents.freeze b.lease event)
  · exact h

theorem Accounts.discard (builder : Nat) (h : e.Accounts bounds) :
    (e.discard builder).Accounts bounds := by
  unfold HubInUse.discard
  split
  · rename_i b hbuilder
    have hbuilders := perm_cons_eraseIdx hbuilder
    have hevents := h.events.perm (List.Perm.refl _) (hbuilders.map Builder.slot)
      (unattached_perm hbuilder)
    exact Hub.Accounts.withEvents h hevents.giveBack.freeSlot
  · exact h

theorem Accounts.repay (loan : Nat) (h : e.Accounts bounds) :
    (e.repay loan).Accounts bounds := by
  unfold HubInUse.repay
  split
  · rename_i size hloan
    have hlent := ((perm_cons_eraseIdx hloan).append_left
      (e.builders.filterMap Builder.lease)).trans List.perm_middle
    have hevents := h.events.perm (List.Perm.refl _) (List.Perm.refl _) hlent
    exact Hub.Accounts.withEvents h hevents.repay
  · exact h

/-- Every operation keeps the books. -/
theorem Accounts.operate (confOf : Nat → κ → SubscriptionConf σ) (operation : HubOperation κ)
    (h : e.Accounts bounds) : (e.operate confOf operation).Accounts bounds := by
  cases operation with
  | register addr => exact Hub.Accounts.register addr h
  | setClock now => exact ⟨h.events, h.ordered, h.keptOnce⟩
  | receive addr payload => exact h.receive addr payload
  | command addr endpoint value => exact h.command addr endpoint value
  | subscribe conf => exact h.subscribe confOf conf
  | unsubscribe id => exact Hub.Accounts.unsubscribe id h
  | next id => exact h.next id
  | latest device endpoint => exact h.latest device endpoint
  | duplicate handle => exact h.duplicate handle
  | letGo handle => exact h.letGo handle
  | publish handle => exact h.publish handle
  | begin => exact h.begin
  | reserve size => exact h.reserve size
  | attach builder loan => exact h.attach builder loan
  | freeze builder event => exact h.freeze builder event
  | discard builder => exact h.discard builder
  | repay loan => exact h.repay loan

/-- A visit holds what it is shown, from its beginning to its end. -/
theorem accounts_kept (confOf : Nat → κ → SubscriptionConf σ) (bounds : EventStore.Bounds) :
    KeptBy confOf fun e : HubInUse κ σ => e.Accounts bounds where
  operate e operation h := h.operate confOf operation
  pin e index d pinMask h hdevice :=
    (Hub.Accounts.holdAll h (Hub.pinned_inside pinMask hdevice)).outside_perm
      (List.perm_append_comm_assoc _ _ _)
  unpin e held pins h hpins := by
    have hheld : e.hub.Accounts bounds (held ++ (e.handles ++ pins))
        (e.builders.map Builder.slot) e.unattached := by
      refine Hub.Accounts.outside_perm h ?_
      rw [hpins]
      exact List.perm_append_comm_assoc _ _ _
    exact hheld.releaseAll

/-- The books balance: events are counted as they are held, and slots and bytes are in use for
what is held or under construction, within their bounds. -/
structure Balanced (e : HubInUse κ σ) (config : HubConfig) : Prop where
  counted : ∀ s ∈ e.hub.events.live, s.holders = e.places.count s.ref
  /-- An event is live as long as it is held somewhere. -/
  live : e.hub.events.refs.Perm e.places.dedup
  slotsUsed : e.hub.events.slots.inUse = e.places.dedup.length + e.builders.length
  bytesUsed : e.hub.events.budget.used.toNat =
    totalBytes e.hub.events.leases + totalBytes e.unattached
  slotsDistinct : (e.hub.events.live.map StoredEvent.slot).Nodup
  slotsBounded : e.hub.events.slots.inUse ≤ config.maxEvents.toNat
  bytesBounded : e.hub.events.budget.used ≤ config.dataHeapLimit
  /-- Without subscriptions and handles, only endpoints keep events. -/
  atRest : (∀ s ∈ e.hub.exchange.dispatcher.known, s.isOpen = false) → e.handles = [] →
    e.pins = [] → e.hub.events.slots.inUse = e.hub.registry.kept.length + e.builders.length

theorem Accounts.live_perm (h : e.Accounts bounds) :
    e.hub.events.refs.Perm e.places.dedup := by
  rw [List.perm_ext_iff_of_nodup h.events.distinct (List.nodup_dedup _)]
  intro ref
  rw [List.mem_dedup]
  exact (h.events.held ref).symm

theorem Accounts.slotsUsed (h : e.Accounts bounds) :
    e.hub.events.slots.inUse = e.places.dedup.length + e.builders.length := by
  have hlive := h.live_perm.length_eq
  rw [EventStore.refs, List.length_map] at hlive
  rw [h.events.slotted.inUse]
  simp only [List.length_append, List.length_map]
  omega

/-- Closed subscriptions hold nothing, and no two endpoints keep the same event. -/
theorem Accounts.atRest (h : e.Accounts bounds)
    (hclosed : ∀ s ∈ e.hub.exchange.dispatcher.known, s.isOpen = false)
    (hhandles : e.handles = []) (hpins : e.pins = []) :
    e.hub.events.slots.inUse = e.hub.registry.kept.length + e.builders.length := by
  have hqueued : e.hub.exchange.dispatcher.queued = [] := by
    apply List.flatMap_eq_nil_iff.mpr
    intro s hs
    exact h.ordered.emptied s hs (hclosed s hs)
  have hplaces : e.places = e.hub.registry.kept := by
    simp [HubInUse.places, Hub.inside, hqueued, hhandles, hpins]
  rw [h.slotsUsed, hplaces, h.keptOnce.dedup]

theorem Accounts.balanced {config : HubConfig}
    (h : e.Accounts ⟨config.maxEvents.toNat, config.dataHeapLimit⟩) : e.Balanced config where
  counted := h.events.counted
  live := h.live_perm
  slotsUsed := h.slotsUsed
  bytesUsed := h.events.paid.used.trans (totalBytes_append _ _)
  slotsDistinct := (List.nodup_append.mp h.events.slotted.nodup).1
  slotsBounded := h.events.slotted.inUse_le.trans_eq h.events.capacity
  bytesBounded := h.events.paid.within.trans_eq h.events.limit
  atRest := h.atRest

/-- The books of a new hub are empty. -/
theorem start_accounts {config : HubConfig} {capability? : DeviceType → Option Capability}
    {now : UInt32} {hub : Hub σ} (hnew : Hub.new config capability? now = .ok hub) (client : σ) :
    (HubInUse.start hub client : HubInUse κ σ).Accounts
      ⟨config.maxEvents.toNat, config.dataHeapLimit⟩ :=
  Hub.new_accounts hnew

/-- So is its list of devices. -/
theorem start_registry {config : HubConfig} {capability? : DeviceType → Option Capability}
    {now : UInt32} {hub : Hub σ} (hnew : Hub.new config capability? now = .ok hub) (client : σ) :
    (HubInUse.start hub client : HubInUse κ σ).hub.registry =
      .new config.maxDevices.toNat capability? (.ofConfig config.rooms config.roomAssocs) := by
  rw [Hub.new_eq hnew]
  rfl

theorem Path.accounts {config : HubConfig} {capability? : DeviceType → Option Capability}
    {now : UInt32} {hub : Hub σ} (hnew : Hub.new config capability? now = .ok hub) {client : σ}
    {confOf : Nat → κ → SubscriptionConf σ} {deeds : List (Deed κ σ)} {e : HubInUse κ σ}
    (h : Path confOf (HubInUse.start hub client) deeds e) :
    e.Accounts ⟨config.maxEvents.toNat, config.dataHeapLimit⟩ :=
  h.invariant (accounts_kept confOf _) (start_accounts hnew client)

/-- Whatever clients do with a new hub, its books balance in every state on the way, within the
visits of surveys too. -/
theorem states_balanced {config : HubConfig} {capability? : DeviceType → Option Capability}
    {now : UInt32} {hub : Hub σ} (hnew : Hub.new config capability? now = .ok hub) (client : σ)
    (confOf : Nat → κ → SubscriptionConf σ) (actions : List (HubAction κ σ)) :
    ∀ e ∈ states confOf actions (HubInUse.start hub client), e.Balanced config := by
  intro e he
  exact (states_keep (accounts_kept confOf _) actions (start_accounts hnew client) e he).balanced

/-- A subscription is closed with an event in its queue, and a visitor keeps what it was shown. -/
theorem states_balanced_closing :
    ∃ hub : Hub Unit, Hub.new {} Builtin.capability? 0 = .ok hub ∧
      ∀ e ∈ states (fun _ conf => conf)
        [.operate (.subscribe { criteria := {} }),
          .operate (.receive (.onBoard .nucleoF429zi) { bytes := [0, 0, 200, 65], timestamp := 0 }),
          .operate (.unsubscribe 1),
          .survey {} 1 (fun _ _ => false) fun _ _ => [.operate (.duplicate 0)]]
        (HubInUse.start hub ()), e.Balanced {} :=
  ⟨_, rfl, states_balanced rfl () _ _⟩

end HubInUse

end HomeGateway
