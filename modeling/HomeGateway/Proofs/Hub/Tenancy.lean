import Mathlib
import HomeGateway.Proofs.Hub.Delivery
import HomeGateway.Proofs.Statistics
import HomeGateway.Proofs.Subscription.Turns

/-!
Subscriptions over whole runs, where filters and hooks may make and close subscriptions as they
like. Openness, place in the list and slot go together in every state on the way; what is closed
is closed for good and leaves nothing held; and every dispatch gives those who were open their
turns.
-/

namespace HomeGateway

variable {κ σ : Type}

namespace Dispatcher

variable {d : Dispatcher σ} {capacity : Nat}

/-- Closing takes one queue out of all that is queued. -/
theorem queued_close (h : d.Ordered) {id slot : Nat} {s : Subscription σ}
    (hfind : d.find? id = some s) : d.queued.Perm (s.queue ++ (d.close id slot).queued) := by
  obtain ⟨before, after, hknown, rfl, hothers⟩ := h.split hfind
  have hclosed : (d.close s.id slot).known = before ++ s.closed :: after :=
    update_split Subscription.closed hknown rfl hothers
  exact (queued_split hknown).trans ((queued_split hclosed).symm.append_left s.queue)

/-- And it takes one entry off the list. -/
theorem listed_close (h : d.Ordered) (id slot : Nat) :
    (d.close id slot).listed = d.listed.erase id := by
  rw [h.listed_nodup.erase_eq_filter]
  apply List.filter_congr
  intro other _
  simp [bne, beq_eq_decide]

end Dispatcher

namespace Hub

variable {hub : Hub σ} {capacity : Nat}

/-! Every operation of the hub goes on with the subscriptions. -/

theorem dispatch_lasts (ref : EventRef) (retained : Bool) (client : σ)
    (h : hub.exchange.dispatcher.Tenured capacity) :
    hub.exchange.dispatcher.Lasts capacity
      (hub.dispatch ref retained client).2.1.exchange.dispatcher := by
  have hpublished := hub.exchange.publish_lasts ref client h
  unfold Hub.dispatch
  generalize hub.exchange.publish ref client = published at hpublished ⊢
  exact hpublished

theorem receive_lasts (addr : DeviceAddr) (bytes : List UInt8) (timestamp : UInt32) (client : σ)
    (h : hub.exchange.dispatcher.Tenured capacity) :
    hub.exchange.dispatcher.Lasts capacity
      (hub.receive addr bytes timestamp client).2.1.exchange.dispatcher := by
  have hsame := hub.intake_dispatcher addr { bytes, timestamp }
  unfold Hub.receive
  generalize hub.intake addr { bytes, timestamp } = made at hsame ⊢
  obtain ⟨result, next⟩ := made
  dsimp only at hsame
  rw [← hsame] at h ⊢
  cases result with
  | error halt => exact .refl h
  | ok made => exact next.dispatch_lasts made.1 made.2 client h

theorem command_lasts (addr : DeviceAddr) (endpoint : Nat) (value : DataValue) (client : σ)
    (h : hub.exchange.dispatcher.Tenured capacity) :
    hub.exchange.dispatcher.Lasts capacity
      (hub.command addr endpoint value client).2.1.exchange.dispatcher := by
  have hsame := hub.order_dispatcher addr endpoint value
  unfold Hub.command
  generalize hub.order addr endpoint value = ordered at hsame ⊢
  obtain ⟨result, made, next⟩ := ordered
  dsimp only at hsame
  rw [← hsame] at h ⊢
  cases made with
  | none => exact .refl h
  | some ref => exact next.dispatch_lasts ref false client h

/-- A subscription comes to its end: its entry goes and no other, its slot is free again, and what
it had queued is let go of, once for each time that it was queued. -/
structure Closes (hub : Hub σ) (id : Nat) (next : Hub σ) : Prop where
  entry : next.exchange.dispatcher.listed = hub.exchange.dispatcher.listed.erase id
  self : next.exchange.dispatcher.find? id =
    (hub.exchange.dispatcher.find? id).map Subscription.closed
  others : ∀ other, other ≠ id →
    next.exchange.dispatcher.find? other = hub.exchange.dispatcher.find? other
  slot : next.exchange.dispatcher.slots.inUse + 1 = hub.exchange.dispatcher.slots.inUse
  released : ∀ ref, next.events.holders ref + (hub.exchange.dispatcher.queue id).count ref =
    hub.events.holders ref
  rest : next.registry = hub.registry ∧ next.counters = hub.counters

/-- A subscription is not made, and nothing comes of it but a mark in the counters if it was only
for want of a slot. -/
structure Declines (hub : Hub σ) (conf : SubscriptionConf σ) (next : Hub σ) : Prop where
  rest : next = { hub with exchange := { hub.exchange with counters := next.counters } }
  counted : hub.counters.Raised next.counters
    (match conf.criteria.check with
      | .ok () => [.subscriptionsRefused]
      | .error _ => [])
  full : conf.criteria.check = .ok () → hub.exchange.dispatcher.slots.available = 0

theorem unsubscribe_closes {bounds : EventStore.Bounds} {outside : List EventRef}
    {slots : List Nat} {loans : List UInt64} {id : Nat}
    (haccounts : hub.Accounts bounds outside slots loans)
    (h : hub.exchange.dispatcher.Tenured capacity)
    (hopen : hub.exchange.dispatcher.isOpen id = true) : hub.Closes id (hub.unsubscribe id) := by
  have hafter := haccounts.unsubscribe id
  have htenured := (hub.exchange.unsubscribe_lasts id h).tenured
  obtain ⟨s, slot, hfind, hs, hslot, hcase⟩ := Exchange.unsubscribe_open h hopen
  have hexchange : (hub.unsubscribe id).exchange.dispatcher =
      hub.exchange.dispatcher.close id slot := congrArg Exchange.dispatcher hcase
  have hfound (other : Nat) : (hub.exchange.dispatcher.close id slot).find? other =
      (hub.exchange.dispatcher.find? other).map fun s => if other = id then s.closed else s :=
    hub.exchange.dispatcher.find?_update id other fun _ => rfl
  have hentry : (hub.exchange.dispatcher.close id slot).listed =
      hub.exchange.dispatcher.listed.erase id := Dispatcher.listed_close h.ordered id slot
  constructor
  · rw [hexchange]
    exact hentry
  · rw [hexchange, hfound]
    simp
  · intro other hother
    rw [hexchange, hfound]
    cases hub.exchange.dispatcher.find? other <;> simp [hother]
  · have hin := (h.isOpen_iff id).mp hopen
    change (hub.exchange.unsubscribe id).dispatcher.slots.inUse + 1 = _
    rw [htenured.inUse, h.inUse, hcase]
    change (hub.exchange.dispatcher.close id slot).listed.length + 1 = _
    rw [hentry, List.length_erase_of_mem hin]
    exact Nat.sub_add_cancel (List.length_pos_of_mem hin)
  · intro ref
    have hqueue : hub.exchange.dispatcher.queue id = s.queue := by
      unfold Dispatcher.queue
      rw [hfind]
    have hperm : hub.exchange.dispatcher.queued.Perm
        (s.queue ++ (hub.exchange.dispatcher.close id slot).queued) :=
      Dispatcher.queued_close h.ordered hfind
    rw [hafter.events.holders_eq, haccounts.events.holders_eq]
    unfold Hub.inside
    rw [hexchange, hqueue]
    simp only [List.count_append, hperm.count_eq]
    have hsame : (hub.unsubscribe id).registry = hub.registry := rfl
    rw [hsame]
    omega
  · have hcounters : (hub.exchange.unsubscribe id).counters = hub.exchange.counters := by
      rw [hcase]
    exact ⟨rfl, hcounters⟩

theorem unsubscribe_again {id : Nat} (hclosed : hub.exchange.dispatcher.isOpen id = false) :
    hub.unsubscribe id = hub := by
  unfold Hub.unsubscribe
  rw [Exchange.unsubscribe_closed hclosed]

theorem subscribe_declines {conf : SubscriptionConf σ} {cause : Error} {next : Hub σ}
    (hfails : hub.subscribe conf = (.error cause, next)) : hub.Declines conf next := by
  have hexchange := hub.subscribe_exchange conf
  rw [hfails] at hexchange
  unfold Hub.subscribe at hfails
  rcases hub.exchange.subscribe_cases conf with
    ⟨reason, hcheck, hcase⟩ | ⟨hcheck, hfull, hcase⟩ | ⟨hcheck, slot, slots, hacquire, hcase⟩
  · rw [hcase] at hfails
    cases hfails
    refine ⟨rfl, ?_, ?_⟩
    · rw [hcheck]
      intro t
      rfl
    · intro hok
      rw [hcheck] at hok
      cases hok
  · rw [hcase] at hfails
    cases hfails
    refine ⟨rfl, ?_, fun _ => hfull⟩
    rw [hcheck]
    intro t
    cases t <;> rfl
  · rw [hcase] at hfails
    cases hfails

end Hub

namespace Exchange

variable {x : Exchange σ} {ref : EventRef}

/-- What leaves a queue in the course of a dispatch is let go of, once. -/
theorem Accounts.publish_holders {bounds : EventStore.Bounds} {outside : List EventRef}
    {slots : List Nat} {loans : List UInt64} (h : x.Accounts bounds outside slots loans)
    (hheld : ref ∈ outside) (client : σ) (other : EventRef) :
    let (_, next, _) := Exchange.publish ref x client
    next.events.holders other + x.dispatcher.queued.count other =
      x.events.holders other + next.dispatcher.queued.count other := by
  have hpublished := h.publish client hheld
  generalize Exchange.publish ref x client = published at hpublished ⊢
  obtain ⟨count, next, user⟩ := published
  dsimp only at hpublished ⊢
  rw [hpublished.events.holders_eq, h.events.holders_eq]
  simp only [List.count_append]
  omega

end Exchange

namespace HubInUse

variable {e : HubInUse κ σ} {capacity : Nat}

theorem operate_lasts (confOf : Nat → κ → SubscriptionConf σ) (e : HubInUse κ σ)
    (operation : HubOperation κ) (h : e.hub.exchange.dispatcher.Tenured capacity) :
    e.hub.exchange.dispatcher.Lasts capacity
      (e.operate confOf operation).hub.exchange.dispatcher := by
  cases operation with
  | register addr =>
    have hsame : (e.operate confOf (.register addr)).hub.exchange.dispatcher =
        e.hub.exchange.dispatcher := e.hub.register_dispatcher addr
    rw [hsame]
    exact .refl h
  | setClock now => exact .refl h
  | receive addr payload =>
    exact e.hub.receive_lasts addr payload.bytes payload.timestamp e.client h
  | command addr endpoint value => exact e.hub.command_lasts addr endpoint value e.client h
  | subscribe conf =>
    have hsame : (e.operate confOf (.subscribe conf)).hub.exchange.dispatcher =
        (e.hub.exchange.subscribe (confOf e.hub.exchange.dispatcher.nextId conf)).2.dispatcher :=
      congrArg Exchange.dispatcher (e.hub.subscribe_exchange _)
    rw [hsame]
    exact e.hub.exchange.subscribe_lasts _ h
  | unsubscribe id => exact e.hub.exchange.unsubscribe_lasts id h
  | next id =>
    have htaken := e.hub.exchange.next_lasts id h
    have hhub : (e.hub.next id).2.exchange = (e.hub.exchange.next id).2 := rfl
    rw [← hhub] at htaken
    simp only [HubInUse.operate, HubInUse.next]
    generalize e.hub.next id = taken at htaken ⊢
    obtain ⟨ref, next⟩ := taken
    cases ref with
    | none => exact htaken
    | some ref => exact htaken
  | publish handle =>
    simp only [HubInUse.operate, HubInUse.publish]
    split
    · rename_i ref hget
      exact e.hub.exchange.publish_lasts ref e.client h
    · exact .refl h
  | latest | duplicate | letGo | begin | reserve | attach | freeze | discard | repay =>
    simp only [HubInUse.operate, HubInUse.latest, HubInUse.duplicate, HubInUse.hold, HubInUse.letGo,
      HubInUse.begin, HubInUse.reserve, HubInUse.attach, HubInUse.freeze, HubInUse.discard,
      HubInUse.repay]
    split <;> exact .refl h

/-- From a state where slots go with openness, runs go on with the subscriptions. -/
theorem tenure_moves (confOf : Nat → κ → SubscriptionConf σ) (capacity : Nat) :
    MovesBy confOf fun e later : HubInUse κ σ => e.hub.exchange.dispatcher.Tenured capacity →
      e.hub.exchange.dispatcher.Lasts capacity later.hub.exchange.dispatcher where
  refl _ h := .refl h
  trans hfirst hsecond h := (hfirst h).trans (hsecond (hfirst h).tenured)
  operate e operation h := e.operate_lasts confOf operation h
  pin _ _ h := .refl h
  unpin _ _ _ h := .refl h

theorem start_tenured {config : HubConfig} {capability? : DeviceType → Option Capability}
    {now : UInt32} {hub : Hub σ} (hnew : Hub.new config capability? now = .ok hub) (client : σ) :
    (HubInUse.start hub client : HubInUse κ σ).hub.exchange.dispatcher.Tenured
      config.maxSubscriptions.toNat := by
  rw [Hub.new_eq hnew]
  exact Dispatcher.new_tenured _

theorem states_tenured {config : HubConfig} {capability? : DeviceType → Option Capability}
    {now : UInt32} {hub : Hub σ} (hnew : Hub.new config capability? now = .ok hub) (client : σ)
    (confOf : Nat → κ → SubscriptionConf σ) (actions : List (HubAction κ σ)) :
    ∀ e ∈ states confOf actions (HubInUse.start hub client),
      e.hub.exchange.dispatcher.Tenured config.maxSubscriptions.toNat := by
  intro e he
  exact (states_reached (tenure_moves confOf _) actions _ e he (start_tenured hnew client)).tenured

/-- How subscriptions stand between operations, and what closing, asking for one and dispatching
would do. -/
structure Tenanted (e : HubInUse κ σ) (config : HubConfig) : Prop where
  listed : ∀ s ∈ e.hub.exchange.dispatcher.known,
    s.id ∈ e.hub.exchange.dispatcher.listed ↔ s.isOpen = true
  slotted : ∀ s ∈ e.hub.exchange.dispatcher.known, s.isOpen = true ↔ s.slot.isSome = true
  slotsDistinct : (e.hub.exchange.dispatcher.known.filterMap Subscription.slot).Nodup
  known : ∀ id ∈ e.hub.exchange.dispatcher.listed,
    id ∈ e.hub.exchange.dispatcher.known.map Subscription.id
  distinct : (e.hub.exchange.dispatcher.known.map Subscription.id).Nodup
  inUse : e.hub.exchange.dispatcher.listed.length = e.hub.exchange.dispatcher.slots.inUse
  bounded : e.hub.exchange.dispatcher.slots.inUse ≤ config.maxSubscriptions.toNat
  emptied : ∀ s ∈ e.hub.exchange.dispatcher.known, s.isOpen = false → s.queue = []
  closes : ∀ id, e.hub.exchange.dispatcher.isOpen id = true →
    e.hub.Closes id (e.hub.unsubscribe id)
  again : ∀ id, e.hub.exchange.dispatcher.isOpen id = false → e.hub.unsubscribe id = e.hub
  declines : ∀ conf cause next, e.hub.subscribe conf = (.error cause, next) →
    e.hub.Declines conf next
  /-- An event has one holder for each queue entry, and for each place outside of the queues. -/
  held : ∀ ref, e.hub.events.holders ref = e.hub.exchange.dispatcher.queued.count ref +
    (e.hub.registry.kept ++ (e.handles ++ e.pins)).count ref
  released : ∀ ref ∈ e.hub.registry.kept ++ (e.handles ++ e.pins), ∀ client other,
    let (_, next, _) := Exchange.publish ref e.hub.exchange client
    next.events.holders other + e.hub.exchange.dispatcher.queued.count other =
      e.hub.events.holders other + next.dispatcher.queued.count other
  /-- In a dispatch of whatever event, who is closed on the way is passed over from then on, their
  hook included. -/
  passed : ∀ x : Exchange σ, x.dispatcher = e.hub.exchange.dispatcher →
    ∀ ref stored client, x.events.find? ref = some stored →
      (Exchange.course ref stored.event x.dispatcher.listed x client).Pairwise
        fun earlier later => earlier.left.1.dispatcher.isOpen later.id = false →
          later.queued = false ∧ later.left = later.found

/-- What is closed stays just as it is and has no turn in any dispatch. -/
structure Retires (e later : HubInUse κ σ) : Prop where
  same : ∀ id s, e.hub.exchange.dispatcher.find? id = some s → s.isOpen = false →
    later.hub.exchange.dispatcher.find? id = some s
  absent : ∀ id s, e.hub.exchange.dispatcher.find? id = some s → s.isOpen = false →
    ∀ x : Exchange σ, x.dispatcher = later.hub.exchange.dispatcher → ∀ ref event client,
      ∀ t ∈ Exchange.course ref event x.dispatcher.listed x client, t.id ≠ id

theorem Accounts.tenanted {bounds : EventStore.Bounds} {config : HubConfig}
    (haccounts : e.Accounts bounds)
    (h : e.hub.exchange.dispatcher.Tenured config.maxSubscriptions.toNat) :
    e.Tenanted config where
  listed s hs := by
    rw [← h.isOpen_iff]
    simp [Dispatcher.isOpen, Dispatcher.find?_eq_some h.ordered.distinct hs]
  slotted s hs := by rw [h.slotted s hs]
  slotsDistinct := h.lends.nodup
  known := h.ordered.listed_known
  distinct := h.ordered.distinct
  inUse := h.inUse.symm
  bounded := h.lends.inUse_le.trans_eq h.capacity
  emptied := h.ordered.emptied
  closes _ hopen := Hub.unsubscribe_closes haccounts h hopen
  again _ hclosed := Hub.unsubscribe_again hclosed
  declines _ _ _ hfails := Hub.subscribe_declines hfails
  held ref := by
    rw [haccounts.events.holders_eq]
    simp only [Hub.inside, List.append_assoc, List.count_append]
  released ref hheld client other :=
    (Hub.Accounts.exchange haccounts).publish_holders hheld client other
  passed x hx ref stored client hfind := by
    rw [← hx] at h
    exact Exchange.course_passes h hfind client

theorem retires_of_lasts {e later : HubInUse κ σ}
    (h : e.hub.exchange.dispatcher.Lasts capacity later.hub.exchange.dispatcher) :
    e.Retires later := by
  have hsame := fun id s => @Dispatcher.Continues.closed σ _ _ h.continues id s
  refine ⟨hsame, ?_⟩
  intro id s hfind hclosed x hx ref event client t ht hid
  have hlisted : t.id ∈ later.hub.exchange.dispatcher.listed := by
    rw [← hx, ← Exchange.course_ids ref event x.dispatcher.listed x client]
    exact List.mem_map_of_mem ht
  have hopen := (h.tenured.isOpen_iff t.id).mpr hlisted
  unfold Dispatcher.isOpen at hopen
  rw [hid, hsame id s hfind hclosed] at hopen
  exact Bool.false_ne_true (hclosed.symm.trans hopen)

/-- Whatever clients, filters and hooks do, subscriptions are open, listed and in possession of
their slots for as long as each other, and closed for good. -/
theorem states_tenanted {config : HubConfig} {capability? : DeviceType → Option Capability}
    {now : UInt32} {hub : Hub σ} (hnew : Hub.new config capability? now = .ok hub) (client : σ)
    (confOf : Nat → κ → SubscriptionConf σ) (actions : List (HubAction κ σ)) :
    (∀ e ∈ states confOf actions (HubInUse.start hub client), e.Tenanted config) ∧
      (states confOf actions (HubInUse.start hub client)).Pairwise Retires := by
  have htenured := states_tenured hnew client confOf actions
  constructor
  · intro e he
    have haccounts := states_keep (accounts_kept confOf _) actions (start_accounts hnew client) e he
    exact haccounts.tenanted (htenured e he)
  · refine (states_ordered (tenure_moves confOf config.maxSubscriptions.toNat) actions _).imp_of_mem
      ?_
    intro earlier later hearlier _ hlasts
    exact retires_of_lasts (hlasts (htenured earlier hearlier))

/-- A hook closes its own subscription and makes another, which is closed twice. -/
theorem states_tenanted_hooked :
    ∃ hub : Hub Unit, Hub.new { maxSubscriptions := 1 } Builtin.capability? 0 = .ok hub ∧
      let run := states (fun _ conf => conf)
        [.operate (.subscribe
            { hook := some fun _ _ => ([.unsubscribe 1, .subscribe {} fun _ _ => ()], ()) }),
          .operate (.subscribe {}),
          .operate (.receive (.onBoard .nucleoF429zi) { bytes := [0, 0, 200, 65], timestamp := 0 }),
          .operate (.unsubscribe 2), .operate (.unsubscribe 2)]
        (HubInUse.start hub ())
      (∀ e ∈ run, e.Tenanted { maxSubscriptions := 1 }) ∧ run.Pairwise Retires :=
  ⟨_, rfl, states_tenanted rfl () _ _⟩

end HubInUse

end HomeGateway
