import Mathlib
import HomeGateway.Proofs.Event.Store
import HomeGateway.Subscription.Exchange

/-!
The exchange keeps its books. Queues hold events, and subscribing, closing, taking and
dispatching move or release exactly the references concerned, whatever filters and hooks ask
for on the way.
-/

namespace HomeGateway

variable {σ : Type}

namespace Dispatcher

/-- The events in all queues. -/
def queued (d : Dispatcher σ) : List EventRef := d.known.flatMap Subscription.queue

/-- Ids are given out once, the listed subscriptions are the open ones in the order in which
they were made, and a closed one holds nothing. -/
structure Ordered (d : Dispatcher σ) : Prop where
  fresh : ∀ s ∈ d.known, s.id < d.nextId
  distinct : (d.known.map Subscription.id).Nodup
  listed : d.listed = (d.known.filter Subscription.isOpen).map Subscription.id
  emptied : ∀ s ∈ d.known, s.isOpen = false → s.queue = []

theorem new_ordered (capacity : Nat) : (Dispatcher.new capacity : Dispatcher σ).Ordered where
  fresh := by simp [Dispatcher.new]
  distinct := by simp [Dispatcher.new]
  listed := by simp [Dispatcher.new]
  emptied := by simp [Dispatcher.new]

theorem Ordered.mem_listed {d : Dispatcher σ} (h : d.Ordered) {s : Subscription σ}
    (hs : s ∈ d.known) (hopen : s.isOpen) : s.id ∈ d.listed := by
  rw [h.listed]
  exact List.mem_map_of_mem (List.mem_filter.mpr ⟨hs, hopen⟩)

theorem Ordered.listed_nodup {d : Dispatcher σ} (h : d.Ordered) : d.listed.Nodup := by
  rw [h.listed]
  exact h.distinct.sublist (List.filter_sublist.map Subscription.id)

theorem Ordered.listed_known {d : Dispatcher σ} (h : d.Ordered) :
    ∀ id ∈ d.listed, id ∈ d.known.map Subscription.id := by
  intro id hid
  rw [h.listed] at hid
  exact (List.filter_sublist.map Subscription.id).subset hid

/-- No two known subscriptions have one id. -/
theorem eq_of_id {known : List (Subscription σ)} (hdistinct : (known.map Subscription.id).Nodup)
    {s t : Subscription σ} (hs : s ∈ known) (ht : t ∈ known) (hid : s.id = t.id) : s = t :=
  List.inj_on_of_nodup_map hdistinct hs ht hid

theorem find?_eq_some {d : Dispatcher σ} (hdistinct : (d.known.map Subscription.id).Nodup)
    {s : Subscription σ} (hs : s ∈ d.known) : d.find? s.id = some s := by
  have hsome : (d.find? s.id).isSome := List.find?_isSome.mpr ⟨s, hs, by simp⟩
  obtain ⟨found, hfound⟩ := Option.isSome_iff_exists.mp hsome
  have hid : found.id = s.id := by simpa using List.find?_some hfound
  rw [hfound, eq_of_id hdistinct (List.mem_of_find?_eq_some hfound) hs hid]

theorem mem_of_find? {d : Dispatcher σ} {id : Nat} {s : Subscription σ}
    (hfind : d.find? id = some s) : s ∈ d.known ∧ s.id = id :=
  ⟨List.mem_of_find?_eq_some hfind, by simpa using List.find?_some hfind⟩

/-- A known subscription stands in one place of the list. -/
theorem Ordered.split {d : Dispatcher σ} (h : d.Ordered) {id : Nat} {s : Subscription σ}
    (hfind : d.find? id = some s) :
    ∃ before after, d.known = before ++ s :: after ∧ s.id = id ∧
      (∀ other ∈ before ++ after, other.id ≠ id) := by
  have hid : s.id = id := by simpa using List.find?_some hfind
  obtain ⟨before, after, hknown⟩ := List.append_of_mem (List.mem_of_find?_eq_some hfind)
  have hdistinct := h.distinct
  rw [hknown] at hdistinct
  refine ⟨before, after, hknown, hid, ?_⟩
  intro other hother heq
  have hmoved : ((s :: (before ++ after)).map Subscription.id).Nodup :=
    (List.perm_middle.map Subscription.id).nodup_iff.mp hdistinct
  rw [List.map_cons, List.nodup_cons] at hmoved
  exact hmoved.1 (List.mem_map.mpr ⟨other, hother, heq.trans hid.symm⟩)

/-- An update changes the subscription it names and no other. -/
theorem update_split {d : Dispatcher σ} {id : Nat} {s : Subscription σ}
    {before after : List (Subscription σ)} (f : Subscription σ → Subscription σ)
    (hknown : d.known = before ++ s :: after) (hid : s.id = id)
    (hothers : ∀ other ∈ before ++ after, other.id ≠ id) :
    (d.update id f).known = before ++ f s :: after := by
  have hsame (l : List (Subscription σ)) (hl : ∀ other ∈ l, other.id ≠ id) :
      (l.map fun other => if other.id = id then f other else other) = l := by
    apply List.map_congr_left (g := fun other => other) _ |>.trans (List.map_id' l)
    intro other hother
    rw [if_neg (hl other hother)]
  unfold Dispatcher.update
  rw [hknown, List.map_append, List.map_cons, if_pos hid,
    hsame before fun other hother => hothers other (List.mem_append_left _ hother),
    hsame after fun other hother => hothers other (List.mem_append_right _ hother)]

theorem queued_split {d : Dispatcher σ} {s : Subscription σ}
    {before after : List (Subscription σ)} (hknown : d.known = before ++ s :: after) :
    d.queued.Perm (s.queue ++ (before ++ after).flatMap Subscription.queue) := by
  unfold queued
  rw [hknown]
  exact List.perm_middle.flatMap_right Subscription.queue

/-- What replaces a subscription has to keep its id, and to be empty if it is closed. -/
theorem Ordered.replace {d next : Dispatcher σ} (h : d.Ordered) {s t : Subscription σ}
    {before after : List (Subscription σ)} (hknown : d.known = before ++ s :: after)
    (hnext : next.known = before ++ t :: after) (hid : t.id = s.id)
    (hnextId : next.nextId = d.nextId) (hemptied : t.isOpen = false → t.queue = [])
    (hlisted : next.listed = (next.known.filter Subscription.isOpen).map Subscription.id) :
    next.Ordered := by
  have hold {other : Subscription σ} (hother : other ∈ before ++ after) : other ∈ d.known := by
    rw [hknown, List.perm_middle.mem_iff]
    exact List.mem_cons_of_mem s hother
  have hs : s ∈ d.known := by simp [hknown]
  constructor
  · intro other hother
    rw [hnext, List.perm_middle.mem_iff, List.mem_cons] at hother
    rw [hnextId]
    rcases hother with rfl | hother
    · rw [hid]
      exact h.fresh s hs
    · exact h.fresh other (hold hother)
  · have hdistinct := h.distinct
    rw [hknown] at hdistinct
    rw [hnext]
    simpa [hid] using hdistinct
  · exact hlisted
  · intro other hother hclosed
    rw [hnext, List.perm_middle.mem_iff, List.mem_cons] at hother
    rcases hother with rfl | hother
    · exact hemptied hclosed
    · exact h.emptied other (hold hother) hclosed

/-- An update that leaves ids and openness alone keeps the order. -/
theorem Ordered.update {d : Dispatcher σ} (h : d.Ordered) {id : Nat} {s : Subscription σ}
    (f : Subscription σ → Subscription σ) (hfind : d.find? id = some s)
    (hid : (f s).id = s.id) (hopen : (f s).isOpen = s.isOpen)
    (hemptied : s.isOpen = false → (f s).queue = []) : (d.update id f).Ordered := by
  obtain ⟨before, after, hknown, hname, hothers⟩ := h.split hfind
  have hupdated := update_split f hknown hname hothers
  apply h.replace hknown hupdated hid rfl fun hclosed => hemptied (hopen ▸ hclosed)
  rw [hupdated]
  refine h.listed.trans ?_
  rw [hknown]
  simp only [List.filter_append, List.filter_cons, hopen]
  split <;> simp [hid]

/-- Without the id of a subscription, the list of the open ones lacks just that one. -/
theorem Ordered.listed_without {d : Dispatcher σ} (h : d.Ordered) {s : Subscription σ}
    {before after : List (Subscription σ)} (hknown : d.known = before ++ s :: after)
    (hothers : ∀ other ∈ before ++ after, other.id ≠ s.id) :
    d.listed.filter (fun id => id ≠ s.id) =
      ((before ++ after).filter Subscription.isOpen).map Subscription.id := by
  have hkeep (l : List (Subscription σ)) (hl : ∀ other ∈ l, other.id ≠ s.id) :
      ((l.filter Subscription.isOpen).map Subscription.id).filter (fun id => id ≠ s.id) =
        (l.filter Subscription.isOpen).map Subscription.id := by
    apply List.filter_eq_self.mpr
    intro id hid
    obtain ⟨other, hother, rfl⟩ := List.mem_map.mp hid
    simpa using hl other (List.mem_of_mem_filter hother)
  have hbefore := hkeep before fun other hother => hothers other (List.mem_append_left _ hother)
  have hafter := hkeep after fun other hother => hothers other (List.mem_append_right _ hother)
  have hself : (([s].filter Subscription.isOpen).map Subscription.id).filter
      (fun id => id ≠ s.id) = [] := by
    apply List.filter_eq_nil_iff.mpr
    intro id hid
    obtain ⟨other, hother, rfl⟩ := List.mem_map.mp hid
    rw [List.mem_singleton.mp (List.mem_of_mem_filter hother)]
    simp
  rw [h.listed, hknown, ← List.singleton_append]
  simp only [List.filter_append, List.map_append, hbefore, hafter, hself, List.nil_append]

/-! Every change keeps the order. -/

variable {x : Exchange σ}

theorem Ordered.subscribe (conf : SubscriptionConf σ) (h : x.dispatcher.Ordered) :
    (x.subscribe conf).2.dispatcher.Ordered := by
  unfold Exchange.subscribe
  split
  · exact h
  · split
    · exact h
    · rename_i slot pool hacquire
      constructor
      · intro s hs
        simp only [List.mem_append, List.mem_singleton] at hs
        rcases hs with hold | rfl
        · exact Nat.lt_succ_of_lt (h.fresh s hold)
        · exact Nat.lt_succ_self _
      · simp only [List.map_append, List.map_cons, List.map_nil]
        refine List.nodup_append.mpr ⟨h.distinct, List.nodup_singleton _, ?_⟩
        intro id hid new hnew heq
        obtain ⟨s, hs, rfl⟩ := List.mem_map.mp hid
        rw [List.mem_singleton] at hnew
        have hlt := h.fresh s hs
        omega
      · simp [h.listed]
      · intro s hs hclosed
        simp only [List.mem_append, List.mem_singleton] at hs
        rcases hs with hold | rfl
        · exact h.emptied s hold hclosed
        · rfl

theorem Ordered.unsubscribe (id : Nat) (h : x.dispatcher.Ordered) :
    (x.unsubscribe id).dispatcher.Ordered := by
  unfold Exchange.unsubscribe
  split
  · exact h
  · rename_i s hfind
    split
    · exact h
    · obtain ⟨before, after, hknown, rfl, hothers⟩ := h.split hfind
      have hclosed := update_split
        (fun s => { s with isOpen := false, queue := [], slot := none }) hknown rfl hothers
      refine h.replace hknown hclosed rfl rfl (fun _ => rfl) ?_
      change x.dispatcher.listed.filter (fun other => other ≠ s.id) =
        ((x.dispatcher.update s.id _).known.filter Subscription.isOpen).map Subscription.id
      rw [h.listed_without hknown hothers, hclosed]
      simp

theorem Ordered.next (id : Nat) (h : x.dispatcher.Ordered) :
    (x.next id).2.dispatcher.Ordered := by
  unfold Exchange.next
  cases hqueue : x.dispatcher.queue id with
  | nil => exact h
  | cons ref rest =>
    unfold Dispatcher.queue at hqueue
    split at hqueue
    · rename_i s hfind
      apply h.update (fun s => { s with queue := rest }) hfind rfl rfl
      intro hclosed
      have hempty := h.emptied s (List.mem_of_find?_eq_some hfind) hclosed
      rw [hqueue] at hempty
      cases hempty
    · cases hqueue

theorem Ordered.push {id : Nat} (ref : EventRef) (h : x.dispatcher.Ordered)
    (hopen : x.dispatcher.isOpen id) : (x.push id ref).dispatcher.Ordered := by
  unfold Dispatcher.isOpen at hopen
  split at hopen
  · rename_i s hfind
    have hordered := h.update (fun s => { s with queue := s.queue ++ [ref] })
      hfind rfl rfl (by simp [hopen])
    exact ⟨hordered.fresh, hordered.distinct, hordered.listed, hordered.emptied⟩
  · cases hopen

end Dispatcher

namespace Exchange

/-- All events are held by queues or stand in `outside`. -/
structure Accounts (x : Exchange σ) (bounds : EventStore.Bounds) (outside : List EventRef)
    (slots : List Nat) (loans : List UInt64) : Prop where
  events : x.events.Accounts bounds (x.dispatcher.queued ++ outside) slots loans
  ordered : x.dispatcher.Ordered

variable {x : Exchange σ} {bounds : EventStore.Bounds} {outside : List EventRef}
  {slots : List Nat} {loans : List UInt64}

theorem Accounts.outside_perm {other : List EventRef} (h : x.Accounts bounds outside slots loans)
    (hperm : outside.Perm other) : x.Accounts bounds other slots loans :=
  ⟨h.events.holders_perm (hperm.append_left _), h.ordered⟩

/-- Events change hands outside of the queues. -/
theorem Accounts.with_events {events : EventStore} {other : List EventRef}
    {otherSlots : List Nat} {otherLoans : List UInt64} (h : x.Accounts bounds outside slots loans)
    (hevents : events.Accounts bounds (x.dispatcher.queued ++ other) otherSlots otherLoans) :
    ({ x with events } : Exchange σ).Accounts bounds other otherSlots otherLoans :=
  ⟨hevents, h.ordered⟩

theorem Accounts.release {ref : EventRef} (h : x.Accounts bounds (ref :: outside) slots loans) :
    (x.release ref).Accounts bounds outside slots loans :=
  h.with_events (h.events.holders_perm List.perm_middle).release

theorem Accounts.subscribe (conf : SubscriptionConf σ) (h : x.Accounts bounds outside slots loans) :
    (x.subscribe conf).2.Accounts bounds outside slots loans := by
  refine ⟨?_, h.ordered.subscribe conf⟩
  unfold Exchange.subscribe
  split
  · exact h.events
  · split
    · exact h.events
    · simpa [Dispatcher.queued] using h.events

/-- Closing releases what is queued, once. -/
theorem Accounts.unsubscribe (id : Nat) (h : x.Accounts bounds outside slots loans) :
    (x.unsubscribe id).Accounts bounds outside slots loans := by
  refine ⟨?_, h.ordered.unsubscribe id⟩
  unfold Exchange.unsubscribe
  split
  · exact h.events
  · rename_i s hfind
    split
    · exact h.events
    · obtain ⟨before, after, hknown, rfl, hothers⟩ := h.ordered.split hfind
      have hclosed := Dispatcher.update_split
        (fun s => { s with isOpen := false, queue := [], slot := none }) hknown rfl hothers
      apply EventStore.Accounts.releaseAll
      refine h.events.holders_perm
        (((Dispatcher.queued_split hknown).append_right outside).trans ?_)
      rw [List.append_assoc]
      exact ((Dispatcher.queued_split hclosed).append_right outside).symm.append_left s.queue

/-- The oldest event moves from the queue to whoever took it. -/
theorem Accounts.next (id : Nat) (h : x.Accounts bounds outside slots loans) :
    (x.next id).2.Accounts bounds ((x.next id).1.toList ++ outside) slots loans := by
  refine ⟨?_, h.ordered.next id⟩
  unfold Exchange.next
  cases hqueue : x.dispatcher.queue id with
  | nil => exact h.events
  | cons ref rest =>
    unfold Dispatcher.queue at hqueue
    split at hqueue
    · rename_i s hfind
      obtain ⟨before, after, hknown, hid, hothers⟩ := h.ordered.split hfind
      have htaken := Dispatcher.update_split (fun s => { s with queue := rest })
        hknown hid hothers
      apply h.events.holders_perm
      refine ((Dispatcher.queued_split hknown).append_right outside).trans ?_
      refine List.Perm.trans ?_
        (((Dispatcher.queued_split htaken).append_right (ref :: outside)).symm)
      rw [hqueue]
      simp only [List.cons_append]
      exact List.perm_middle.symm
    · cases hqueue

/-- Queueing adds the queue to the holders. -/
theorem Accounts.push {id : Nat} {ref : EventRef} (h : x.Accounts bounds outside slots loans)
    (hopen : x.dispatcher.isOpen id) (hheld : ref ∈ outside) :
    (x.push id ref).Accounts bounds outside slots loans := by
  refine ⟨?_, h.ordered.push ref hopen⟩
  unfold Dispatcher.isOpen at hopen
  split at hopen
  · rename_i s hfind
    obtain ⟨before, after, hknown, hid, hothers⟩ := h.ordered.split hfind
    have hpushed := Dispatcher.update_split (fun s => { s with queue := s.queue ++ [ref] })
      hknown hid hothers
    refine (h.events.hold (List.mem_append_right _ hheld)).holders_perm ?_
    refine (((Dispatcher.queued_split hknown).append_right outside).cons ref).trans ?_
    refine List.Perm.trans ?_
      (((Dispatcher.queued_split hpushed).append_right outside).symm)
    simp only [List.append_assoc]
    exact List.perm_middle.symm
  · cases hopen

/-! What filters and hooks do on the way is to make and to close subscriptions. -/

/-- Making and closing subscriptions keeps it. -/
structure KeptByRequests (keeps : Exchange σ → Prop) : Prop where
  subscribe : ∀ (x : Exchange σ) (conf : SubscriptionConf σ), keeps x → keeps (x.subscribe conf).2
  unsubscribe : ∀ (x : Exchange σ) (id : Nat), keeps x → keeps (x.unsubscribe id)

/-- So does queueing an event to who is open. -/
structure KeptByTurns (ref : EventRef) (keeps : Exchange σ → Prop) : Prop
    extends KeptByRequests keeps where
  push : ∀ (x : Exchange σ) (id : Nat), x.dispatcher.isOpen id = true → keeps x →
    keeps (x.push id ref)

section Rule

variable {keeps : Exchange σ → Prop} {ref : EventRef}

theorem KeptByRequests.perform (hkept : KeptByRequests keeps)
    (requests : List (SubscriptionRequest σ)) (client : σ) (h : keeps x) :
    keeps (Exchange.perform requests x client).1 := by
  induction requests generalizing x client with
  | nil => exact h
  | cons request rest ih =>
    cases request with
    | subscribe conf told => exact ih _ (hkept.subscribe x conf h)
    | unsubscribe id => exact ih _ (hkept.unsubscribe x id h)

theorem KeptByRequests.consult (hkept : KeptByRequests keeps) (conf : SubscriptionConf σ)
    (seen : Seen) (client : σ) (h : keeps x) :
    keeps (Exchange.consult conf seen x client).2.1 := by
  unfold Exchange.consult
  split
  · exact h
  · exact hkept.perform _ _ h

theorem KeptByRequests.runHook (hkept : KeptByRequests keeps) (conf : SubscriptionConf σ)
    (seen : Seen) (client : σ) (h : keeps x) :
    keeps (Exchange.runHook conf seen x client).1 := by
  unfold Exchange.runHook
  split
  · exact h
  · exact hkept.perform _ _ h

/-- The turn of a subscription. It is queued to only if it is still open after its filter. -/
theorem KeptByTurns.offer (hkept : KeptByTurns ref keeps) (event : Event) (id : Nat) (client : σ)
    (h : keeps x) : keeps (Exchange.offer ref event id x client).2.1 := by
  unfold Exchange.offer
  split
  · exact h
  · rename_i s hfind
    split
    · exact h
    · have hconsulted := hkept.consult s.conf { event, holders := x.events.holders ref } client h
      generalize Exchange.consult s.conf _ x client = answer at hconsulted ⊢
      obtain ⟨accept, consulted, client⟩ := answer
      dsimp only at hconsulted ⊢
      split
      · exact hconsulted
      · rename_i htaken
        simp only [Bool.not_eq_true, Bool.or_eq_false_iff, Bool.not_eq_false'] at htaken
        exact hkept.runHook s.conf _ client (hkept.push consulted id htaken.2 hconsulted)

theorem KeptByTurns.publish (hkept : KeptByTurns ref keeps) (client : σ) (h : keeps x) :
    keeps (Exchange.publish ref x client).2.1 := by
  have hall (event : Event) (ids : List Nat) (x : Exchange σ) (client : σ) (h : keeps x) :
      keeps (Exchange.offerAll ref event ids x client).2.1 := by
    induction ids generalizing x client with
    | nil => exact h
    | cons id rest ih => exact ih _ _ (hkept.offer event id client h)
  unfold Exchange.publish
  split
  · exact h
  · exact hall _ _ x client h

end Rule

/-- A dispatch of an event that somebody holds keeps the books. -/
theorem accounts_kept {ref : EventRef} (hheld : ref ∈ outside) :
    KeptByTurns ref fun x : Exchange σ => x.Accounts bounds outside slots loans where
  subscribe _ conf h := h.subscribe conf
  unsubscribe _ id h := h.unsubscribe id
  push _ _ hopen h := h.push hopen hheld

theorem Accounts.publish {ref : EventRef} (client : σ) (h : x.Accounts bounds outside slots loans)
    (hheld : ref ∈ outside) :
    (Exchange.publish ref x client).2.1.Accounts bounds outside slots loans :=
  (accounts_kept hheld).publish client h

end Exchange

end HomeGateway
