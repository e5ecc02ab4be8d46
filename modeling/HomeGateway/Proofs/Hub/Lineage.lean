import Mathlib
import HomeGateway.Proofs.Event.Lineage
import HomeGateway.Proofs.Hub.Enrolment
import HomeGateway.Proofs.Subscription.Exchange

/-!
Events do not change, whatever clients do with a hub, and whatever filters and hooks ask for: what
stands under a name is what was made under it.
-/

namespace HomeGateway

variable {κ σ : Type}

theorem EventStore.repay_precedes (store : EventStore) (lease : Option UInt64) :
    store.Precedes (store.repay lease) := by
  cases lease with
  | none => exact .refl store
  | some size => exact .of_live rfl rfl

namespace Exchange

theorem subscribe_precedes (x : Exchange σ) (conf : SubscriptionConf σ) :
    x.events.Precedes (x.subscribe conf).2.events := by
  unfold Exchange.subscribe
  split
  · exact .refl _
  · split <;> exact .refl _

theorem unsubscribe_precedes (x : Exchange σ) (id : Nat) :
    x.events.Precedes (x.unsubscribe id).events := by
  unfold Exchange.unsubscribe
  split
  · exact .refl _
  · split
    · exact .refl _
    · exact x.events.releaseAll_precedes _

/-- Nor do events change in a dispatch. -/
theorem precedes_kept (store : EventStore) (ref : EventRef) :
    KeptByTurns ref fun x : Exchange σ => store.Precedes x.events where
  subscribe x conf h := h.trans (x.subscribe_precedes conf)
  unsubscribe x id h := h.trans (x.unsubscribe_precedes id)
  push x _ _ h := h.trans (x.events.hold_precedes ref)

end Exchange

namespace Hub

theorem register_precedes (hub : Hub σ) (addr : DeviceAddr) :
    hub.events.Precedes (hub.register addr).2.events := by
  unfold Hub.register
  dsimp only
  split <;> exact .refl _

theorem ingest_precedes (store : EventStore) (device : Device) (payload : Payload)
    (now : UInt32) : store.Precedes (ingest store device payload now).2 := by
  unfold ingest
  cases htake : store.takeSlot with
  | error _ => exact .refl store
  | ok taken =>
    obtain ⟨slot, begun⟩ := taken
    have hbegun := EventStore.takeSlot_precedes htake
    dsimp only
    cases device.route payload with
    | error _ => exact hbegun.trans (.of_live rfl rfl)
    | ok route =>
      obtain ⟨endpoint, config⟩ := route
      dsimp only
      cases hreserve : begun.reserve config.dataSize with
      | error _ => exact hbegun.trans (.of_live rfl rfl)
      | ok paid =>
        have hpaid := hbegun.trans (EventStore.reserve_precedes hreserve)
        dsimp only
        cases config.decode payload with
        | error _ => exact hpaid.trans (.of_live rfl rfl)
        | ok decoded => exact hpaid.trans (paid.freeze_precedes slot _ _)

theorem retain_precedes (hub : Hub σ) (index endpoint : Nat) (ref : EventRef) :
    hub.events.Precedes (hub.retain index endpoint ref).events := by
  have hheld := hub.events.hold_precedes ref
  unfold Hub.retain
  dsimp only
  split
  · exact hheld.trans (EventStore.release_precedes _ _)
  · exact hheld

theorem absorb_precedes (hub : Hub σ) (index : Nat) (device : Device) (payload : Payload) :
    hub.events.Precedes (hub.absorb index device payload).2.events := by
  have hingested := ingest_precedes hub.events device payload hub.now
  unfold Hub.absorb
  generalize ingest hub.events device payload hub.now = ingested at hingested ⊢
  obtain ⟨result, events⟩ := ingested
  cases result with
  | error cause => exact hingested
  | ok made =>
    have hcounted : hub.events.Precedes ((hub.withEvents events).updateDevice index fun d =>
        { d with stats := d.stats.receive payload.bytes.length }).events := hingested
    dsimp only
    split
    · exact hcounted.trans (retain_precedes _ _ _ _)
    · exact hcounted

theorem intake_precedes (hub : Hub σ) (addr : DeviceAddr) (payload : Payload) :
    hub.events.Precedes (hub.intake addr payload).2.events := by
  have hregistered := hub.register_precedes addr
  rcases hub.intake_cases addr payload with
    ⟨cause, -, hcase⟩ | ⟨-, hcase⟩ | ⟨index, device, -, -, result, next, habsorb, hcase⟩
  · rw [hcase]
    exact hregistered
  · rw [hcase]
    exact hregistered
  · have habsorbed := (hub.register addr).2.absorb_precedes index device payload
    rw [habsorb] at habsorbed
    rw [hcase]
    exact hregistered.trans habsorbed

theorem report_precedes (hub : Hub σ) (event : Event) :
    hub.events.Precedes (hub.report event).2.events := by
  unfold Hub.report
  split
  · exact .refl _
  · rename_i slot events htake
    exact (EventStore.takeSlot_precedes htake).trans (events.freeze_precedes slot none event)

theorem order_precedes (hub : Hub σ) (addr : DeviceAddr) (endpoint : Nat) (value : DataValue) :
    hub.events.Precedes (hub.order addr endpoint value).2.2.events := by
  unfold Hub.order
  split
  · exact .refl _
  · split
    · exact (hub.updateDevice _ _).report_precedes _
    · exact (hub.countFailure _ _ _).report_precedes _

theorem dispatch_precedes (hub : Hub σ) (ref : EventRef) (retained : Bool) (client : σ) :
    hub.events.Precedes (hub.dispatch ref retained client).2.1.events := by
  have hpublished := (Exchange.precedes_kept hub.events ref).publish client (x := hub.exchange)
    (.refl hub.events)
  unfold Hub.dispatch
  generalize Exchange.publish ref hub.exchange client = published at hpublished ⊢
  exact hpublished.trans (EventStore.release_precedes _ _)

theorem receive_precedes (hub : Hub σ) (addr : DeviceAddr) (bytes : List UInt8)
    (timestamp : UInt32) (client : σ) :
    hub.events.Precedes (hub.receive addr bytes timestamp client).2.1.events := by
  have htaken := hub.intake_precedes addr { bytes, timestamp }
  unfold Hub.receive
  generalize hub.intake addr { bytes, timestamp } = taken at htaken ⊢
  obtain ⟨result, next⟩ := taken
  cases result with
  | error halt => exact htaken
  | ok made => exact htaken.trans (next.dispatch_precedes _ _ _)

theorem command_precedes (hub : Hub σ) (addr : DeviceAddr) (endpoint : Nat) (value : DataValue)
    (client : σ) : hub.events.Precedes (hub.command addr endpoint value client).2.1.events := by
  have hordered := hub.order_precedes addr endpoint value
  unfold Hub.command
  generalize hub.order addr endpoint value = ordered at hordered ⊢
  obtain ⟨result, made, next⟩ := ordered
  cases made with
  | none => exact hordered
  | some ref => exact hordered.trans (next.dispatch_precedes _ _ _)

end Hub

namespace HubInUse

theorem operate_precedes (confOf : Nat → κ → SubscriptionConf σ) (e : HubInUse κ σ)
    (operation : HubOperation κ) :
    e.hub.events.Precedes (e.operate confOf operation).hub.events := by
  cases operation with
  | register addr => exact e.hub.register_precedes addr
  | receive addr payload =>
    exact e.hub.receive_precedes addr payload.bytes payload.timestamp e.client
  | command addr endpoint value => exact e.hub.command_precedes addr endpoint value e.client
  | setClock now => exact .refl _
  | subscribe conf =>
    have hsubscribed := e.hub.exchange.subscribe_precedes
      (confOf e.hub.exchange.dispatcher.nextId conf)
    simp only [HubInUse.operate, HubInUse.subscribe, Hub.subscribe]
    split <;> exact hsubscribed
  | unsubscribe id => exact e.hub.exchange.unsubscribe_precedes id
  | next id =>
    have hsame : e.hub.events.Precedes (e.hub.next id).2.events := by
      have hnext : (e.hub.exchange.next id).2.events = e.hub.exchange.events := by
        unfold Exchange.next
        split <;> rfl
      exact .of_live (congrArg EventStore.live hnext) (congrArg EventStore.nextRef hnext)
    simp only [HubInUse.operate, HubInUse.next]
    generalize e.hub.next id = taken at hsame ⊢
    obtain ⟨ref, hub⟩ := taken
    cases ref with
    | none => exact hsame
    | some ref => exact hsame
  | publish handle =>
    simp only [HubInUse.operate, HubInUse.publish]
    split
    · rename_i ref hget
      exact (Exchange.precedes_kept e.hub.events ref).publish e.client (x := e.hub.exchange)
        (.refl e.hub.events)
    · exact .refl _
  | latest device endpoint =>
    simp only [HubInUse.operate, HubInUse.latest]
    split
    · exact e.hub.events.hold_precedes _
    · exact .refl _
  | duplicate handle =>
    simp only [HubInUse.operate, HubInUse.duplicate]
    split
    · exact e.hub.events.hold_precedes _
    · exact .refl _
  | letGo handle =>
    simp only [HubInUse.operate, HubInUse.letGo]
    split
    · exact e.hub.events.release_precedes _
    · exact .refl _
  | begin =>
    simp only [HubInUse.operate, HubInUse.begin]
    split
    · rename_i slot events htake
      exact EventStore.takeSlot_precedes htake
    · exact .refl _
  | reserve size =>
    simp only [HubInUse.operate, HubInUse.reserve]
    split
    · rename_i events hreserve
      exact EventStore.reserve_precedes hreserve
    · exact .refl _
  | freeze builder event =>
    simp only [HubInUse.operate, HubInUse.freeze]
    split
    · exact e.hub.events.freeze_precedes _ _ _
    · exact .refl _
  | attach builder loan =>
    simp only [HubInUse.operate, HubInUse.attach]
    split
    · rename_i b size hbuilder hloan
      exact e.hub.events.repay_precedes b.lease
    · exact .refl _
  | discard builder =>
    simp only [HubInUse.operate, HubInUse.discard]
    split
    · rename_i b hbuilder
      exact (e.hub.events.repay_precedes b.lease).trans (.of_live rfl rfl)
    · exact .refl _
  | repay loan =>
    simp only [HubInUse.operate, HubInUse.repay]
    split
    · rename_i size hloan
      exact e.hub.events.repay_precedes (some size)
    · exact .refl _

end HubInUse

end HomeGateway
