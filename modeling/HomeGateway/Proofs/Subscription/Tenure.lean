import Mathlib
import HomeGateway.Proofs.Pool
import HomeGateway.Proofs.Subscription.Exchange

/-!
How long subscriptions last. A subscription is open, listed and in possession of a slot from when
it is made until it is closed, and all three end together. Whatever happens to the others, or to it
later, a closed subscription stays just as it was closed, and its id is not given out again.
-/

namespace HomeGateway

variable {σ : Type}

/-- What is left of a subscription that is closed. -/
def Subscription.closed (s : Subscription σ) : Subscription σ :=
  { s with isOpen := false, queue := [], slot := none }

namespace Dispatcher

/-- The subscriptions with one more, which got the next id. -/
def enlist (d : Dispatcher σ) (conf : SubscriptionConf σ) (slot : Nat) (slots : Pool) :
    Dispatcher σ where
  known := d.known ++ [{ id := d.nextId, conf, isOpen := true, queue := [], slot := some slot }]
  listed := d.listed ++ [d.nextId]
  slots
  nextId := d.nextId + 1
  news := d.news

/-- The subscriptions when one of them is closed that holds a slot. -/
def close (d : Dispatcher σ) (id slot : Nat) : Dispatcher σ where
  known := (d.update id Subscription.closed).known
  listed := d.listed.filter fun other => other ≠ id
  slots := d.slots.release slot
  nextId := d.nextId
  news := d.news ++ [id]

variable {d : Dispatcher σ} {capacity : Nat}

theorem find?_update (d : Dispatcher σ) (id other : Nat) {f : Subscription σ → Subscription σ}
    (hid : ∀ s, (f s).id = s.id) :
    (d.update id f).find? other =
      (d.find? other).map fun s => if other = id then f s else s := by
  unfold find? update
  rw [List.find?_map]
  have hsame : ((fun s : Subscription σ => decide (s.id = other)) ∘
      fun s => if s.id = id then f s else s) = fun s => decide (s.id = other) := by
    funext s
    simp only [Function.comp_apply]
    split <;> simp [hid]
  rw [hsame]
  cases hfind : d.known.find? fun s => s.id = other with
  | none => rfl
  | some s =>
    have hother : s.id = other := by simpa using List.find?_some hfind
    simp [hother]

theorem find?_enlist (d : Dispatcher σ) (conf : SubscriptionConf σ) (slot : Nat) (slots : Pool)
    (other : Nat) :
    (d.enlist conf slot slots).find? other = (d.find? other).or
      (if d.nextId = other then
        some { id := d.nextId, conf, isOpen := true, queue := [], slot := some slot }
      else none) := by
  unfold find? enlist
  rw [List.find?_append, List.find?_singleton]
  simp

theorem known_of_isOpen {id : Nat} (hopen : d.isOpen id = true) : d.find? id ≠ none := by
  intro hnone
  unfold isOpen at hopen
  rw [hnone] at hopen
  cases hopen

theorem queue_of_find?_none {id : Nat} (hnone : d.find? id = none) : d.queue id = [] := by
  unfold queue
  rw [hnone]

theorem mem_queued_of_mem_queue {id : Nat} {ref : EventRef} (h : ref ∈ d.queue id) :
    ref ∈ d.queued := by
  unfold queue at h
  split at h
  · rename_i s hfind
    exact List.mem_flatMap.mpr ⟨s, (mem_of_find? hfind).1, h⟩
  · cases h

theorem Ordered.queue_closed (h : d.Ordered) {id : Nat} (hclosed : d.isOpen id = false) :
    d.queue id = [] := by
  unfold isOpen at hclosed
  unfold queue
  cases hfind : d.find? id with
  | none => rfl
  | some s =>
    rw [hfind] at hclosed
    exact h.emptied s (mem_of_find? hfind).1 hclosed

/-- A subscription is open as long as it holds a slot, and every slot that is out is held. -/
structure Tenured (d : Dispatcher σ) (capacity : Nat) : Prop where
  ordered : d.Ordered
  slotted : ∀ s ∈ d.known, s.isOpen = s.slot.isSome
  lends : d.slots.Lends (d.known.filterMap Subscription.slot)
  capacity : d.slots.capacity = capacity

theorem new_tenured (capacity : Nat) :
    (Dispatcher.new capacity : Dispatcher σ).Tenured capacity where
  ordered := new_ordered capacity
  slotted := by simp [Dispatcher.new]
  lends := Pool.new_lends "subscription" capacity
  capacity := rfl

theorem Tenured.fresh (h : d.Tenured capacity) : d.find? d.nextId = none := by
  apply List.find?_eq_none.mpr
  intro s hs
  simpa using Nat.ne_of_lt (h.ordered.fresh s hs)

theorem Tenured.slot_closed (h : d.Tenured capacity) {s : Subscription σ} (hs : s ∈ d.known)
    (hclosed : s.isOpen = false) : s.slot = none := by
  rw [← Option.not_isSome_iff_eq_none, ← h.slotted s hs, hclosed]
  exact Bool.false_ne_true

/-- As many slots are in use as subscriptions are listed. -/
theorem Tenured.inUse (h : d.Tenured capacity) : d.slots.inUse = d.listed.length := by
  have hheld : (d.known.filterMap Subscription.slot).length =
      (d.known.filter Subscription.isOpen).length := by
    rw [List.length_filterMap_eq_countP, ← List.countP_eq_length_filter]
    apply List.countP_congr
    intro s hs
    rw [h.slotted s hs]
  rw [h.lends.inUse, hheld, h.ordered.listed, List.length_map]

/-- Who is open is listed, and nobody else. -/
theorem Tenured.isOpen_iff (h : d.Tenured capacity) (id : Nat) :
    d.isOpen id = true ↔ id ∈ d.listed := by
  rw [h.ordered.listed]
  constructor
  · intro hopen
    unfold isOpen at hopen
    split at hopen
    · rename_i s hfind
      obtain ⟨hs, rfl⟩ := mem_of_find? hfind
      exact List.mem_map_of_mem (List.mem_filter.mpr ⟨hs, hopen⟩)
    · cases hopen
  · intro hlisted
    obtain ⟨s, hs, rfl⟩ := List.mem_map.mp hlisted
    obtain ⟨hknown, hopen⟩ := List.mem_filter.mp hs
    simp [isOpen, find?_eq_some h.ordered.distinct hknown, hopen]

theorem Tenured.enlist {conf : SubscriptionConf σ} {slot : Nat} {slots : Pool}
    (h : d.Tenured capacity) (hordered : (d.enlist conf slot slots).Ordered)
    (hacquire : d.slots.acquire = .ok (slot, slots)) :
    (d.enlist conf slot slots).Tenured capacity := by
  obtain ⟨hlends, hcapacity⟩ := h.lends.acquire hacquire
  constructor
  · exact hordered
  · intro s hs
    rcases List.mem_append.mp hs with hold | hnew
    · exact h.slotted s hold
    · rw [List.mem_singleton.mp hnew]
      rfl
  · refine hlends.perm ?_
    simp only [Dispatcher.enlist, List.filterMap_append, List.filterMap_cons, List.filterMap_nil]
    exact @List.perm_append_comm _ [slot] _
  · exact hcapacity.trans h.capacity

theorem Tenured.close {id slot : Nat} {s : Subscription σ} (h : d.Tenured capacity)
    (hordered : (d.close id slot).Ordered) (hfind : d.find? id = some s)
    (hslot : s.slot = some slot) : (d.close id slot).Tenured capacity := by
  obtain ⟨before, after, hknown, rfl, hothers⟩ := h.ordered.split hfind
  have hclosed := update_split Subscription.closed hknown rfl hothers
  constructor
  · exact hordered
  · intro t ht
    change t ∈ (d.update s.id Subscription.closed).known at ht
    rw [hclosed, List.perm_middle.mem_iff, List.mem_cons] at ht
    rcases ht with rfl | hother
    · rfl
    · apply h.slotted t
      rw [hknown, List.perm_middle.mem_iff]
      exact List.mem_cons_of_mem s hother
  · apply Pool.Lends.release
    refine h.lends.perm ?_
    change (d.known.filterMap _).Perm
      (slot :: (d.update s.id Subscription.closed).known.filterMap Subscription.slot)
    rw [hclosed, hknown, List.filterMap_append, List.filterMap_append,
      List.filterMap_cons_some hslot, List.filterMap_cons_none rfl]
    exact List.perm_middle
  · exact h.capacity

/-- An update that leaves openness and slots alone. -/
theorem Tenured.update {id : Nat} {f : Subscription σ → Subscription σ} (h : d.Tenured capacity)
    (hordered : (d.update id f).Ordered) (hopen : ∀ s, (f s).isOpen = s.isOpen)
    (hslot : ∀ s, (f s).slot = s.slot) : (d.update id f).Tenured capacity := by
  have hslots : (d.update id f).known.filterMap Subscription.slot =
      d.known.filterMap Subscription.slot := by
    unfold Dispatcher.update
    rw [List.filterMap_map]
    congr 1
    funext s
    simp only [Function.comp_apply]
    split
    · exact hslot s
    · rfl
  constructor
  · exact hordered
  · intro t ht
    obtain ⟨s, hs, rfl⟩ := List.mem_map.mp ht
    split
    · rw [hopen, hslot]
      exact h.slotted s hs
    · exact h.slotted s hs
  · rw [hslots]
    exact h.lends
  · exact h.capacity

/-- How subscriptions go on: none is forgotten or changes its terms, a closed one stays as it is,
and no id comes back. -/
structure Continues (before after : Dispatcher σ) : Prop where
  nextId : before.nextId ≤ after.nextId
  kept : ∀ id s, before.find? id = some s →
    ∃ t, after.find? id = some t ∧ t.conf = s.conf ∧ (s.isOpen = false → t = s)
  strange : ∀ id < before.nextId, before.find? id = none → after.find? id = none

namespace Continues

variable {before mid after : Dispatcher σ}

theorem refl (d : Dispatcher σ) : d.Continues d :=
  ⟨Nat.le_refl _, fun _ s hfind => ⟨s, hfind, rfl, fun _ => rfl⟩, fun _ _ hnone => hnone⟩

theorem trans (hfirst : before.Continues mid) (hsecond : mid.Continues after) :
    before.Continues after := by
  constructor
  · exact hfirst.nextId.trans hsecond.nextId
  · intro id s hfind
    obtain ⟨t, hmid, hconf, hclosed⟩ := hfirst.kept id s hfind
    obtain ⟨u, hafter, hterms, hstill⟩ := hsecond.kept id t hmid
    refine ⟨u, hafter, hterms.trans hconf, ?_⟩
    intro hs
    have ht := hclosed hs
    exact (hstill (ht ▸ hs)).trans ht
  · intro id hid hnone
    exact hsecond.strange id (hid.trans_le hfirst.nextId) (hfirst.strange id hid hnone)

/-- What is closed stays as it is. -/
theorem closed (h : before.Continues after) {id : Nat} {s : Subscription σ}
    (hfind : before.find? id = some s) (hclosed : s.isOpen = false) :
    after.find? id = some s := by
  obtain ⟨t, hafter, -, hsame⟩ := h.kept id s hfind
  rw [hafter, hsame hclosed]

theorem known (h : before.Continues after) {id : Nat} (hknown : before.find? id ≠ none) :
    after.find? id ≠ none := by
  obtain ⟨s, hfind⟩ := Option.ne_none_iff_exists'.mp hknown
  obtain ⟨t, hafter, -⟩ := h.kept id s hfind
  simp [hafter]

/-- Who is open later and was known before was open before. -/
theorem isOpen (h : before.Continues after) {id : Nat} (hknown : before.find? id ≠ none)
    (hopen : after.isOpen id = true) : before.isOpen id = true := by
  cases hfind : before.find? id with
  | none => exact absurd hfind hknown
  | some s =>
    unfold Dispatcher.isOpen at hopen ⊢
    rw [hfind]
    by_contra hclosed
    rw [Bool.not_eq_true] at hclosed
    rw [h.closed hfind hclosed] at hopen
    exact absurd hopen (Bool.eq_false_iff.mp hclosed)

theorem enlist (d : Dispatcher σ) (conf : SubscriptionConf σ) (slot : Nat) (slots : Pool) :
    d.Continues (d.enlist conf slot slots) := by
  constructor
  · exact Nat.le_succ _
  · intro id s hfind
    refine ⟨s, ?_, rfl, fun _ => rfl⟩
    rw [find?_enlist, hfind]
    rfl
  · intro id hid hnone
    rw [find?_enlist, hnone, if_neg (Nat.ne_of_gt hid)]
    rfl

/-- An update of an open subscription that keeps its terms. -/
theorem update {d : Dispatcher σ} {id : Nat} {s : Subscription σ}
    {f : Subscription σ → Subscription σ} (hfind : d.find? id = some s) (hopen : s.isOpen)
    (hid : ∀ s, (f s).id = s.id) (hconf : ∀ s, (f s).conf = s.conf) :
    d.Continues (d.update id f) := by
  constructor
  · exact Nat.le_refl _
  · intro other t hother
    rw [find?_update d id other hid, hother]
    refine ⟨_, rfl, ?_, ?_⟩
    · dsimp only
      split
      · exact hconf t
      · rfl
    · intro hclosed
      have hne : other ≠ id := by
        rintro rfl
        rw [hfind, Option.some.injEq] at hother
        exact Bool.false_ne_true (hclosed.symm.trans (hother ▸ hopen))
      exact if_neg hne
  · intro other _ hnone
    rw [find?_update d id other hid, hnone]
    rfl

end Continues

/-- Subscriptions went on, and slots are still held by those who are open. -/
structure Lasts (capacity : Nat) (before after : Dispatcher σ) : Prop where
  tenured : after.Tenured capacity
  continues : before.Continues after

theorem Lasts.refl (h : d.Tenured capacity) : Lasts capacity d d := ⟨h, .refl d⟩

theorem Lasts.trans {before mid after : Dispatcher σ} (hfirst : Lasts capacity before mid)
    (hsecond : Lasts capacity mid after) : Lasts capacity before after :=
  ⟨hsecond.tenured, hfirst.continues.trans hsecond.continues⟩

end Dispatcher

namespace Exchange

variable {x : Exchange σ} {capacity : Nat}

/-- What comes of a subscription that is asked for. -/
theorem subscribe_cases (x : Exchange σ) (conf : SubscriptionConf σ) :
    (∃ cause, conf.criteria.check = .error cause ∧ x.subscribe conf = (.error cause, x)) ∨
    (conf.criteria.check = .ok () ∧ x.dispatcher.slots.available = 0 ∧
      x.subscribe conf =
        (.error .poolExhausted, { x with counters := x.counters.subscriptionRefused })) ∨
    (conf.criteria.check = .ok () ∧ ∃ slot slots,
      x.dispatcher.slots.acquire = .ok (slot, slots) ∧
        x.subscribe conf = (.ok x.dispatcher.nextId,
          { x with dispatcher := x.dispatcher.enlist conf slot slots })) := by
  unfold Exchange.subscribe
  cases hcheck : conf.criteria.check with
  | error cause => exact .inl ⟨cause, rfl, rfl⟩
  | ok checked =>
    cases hacquire : x.dispatcher.slots.acquire with
    | error full =>
      refine .inr (.inl ⟨rfl, ?_, rfl⟩)
      unfold Pool.acquire at hacquire
      unfold Pool.available
      split at hacquire
      · cases hacquire
      · rename_i hfree
        rw [hfree]
        rfl
    | ok taken => exact .inr (.inr ⟨rfl, taken.1, taken.2, rfl, rfl⟩)

/-- Closing does nothing where nothing is open. -/
theorem unsubscribe_closed {id : Nat} (hclosed : x.dispatcher.isOpen id = false) :
    x.unsubscribe id = x := by
  unfold Dispatcher.isOpen at hclosed
  unfold Exchange.unsubscribe
  split at hclosed
  · rename_i s hfind
    simp [hfind, hclosed]
  · rename_i hfind
    simp [hfind]

theorem unsubscribe_open (h : x.dispatcher.Tenured capacity) {id : Nat}
    (hopen : x.dispatcher.isOpen id = true) :
    ∃ s slot, x.dispatcher.find? id = some s ∧ s.isOpen ∧ s.slot = some slot ∧
      x.unsubscribe id =
        { x with
          events := x.events.releaseAll s.queue
          dispatcher := x.dispatcher.close id slot } := by
  unfold Dispatcher.isOpen at hopen
  split at hopen
  · rename_i s hfind
    have hheld := h.slotted s (Dispatcher.mem_of_find? hfind).1
    rw [hopen] at hheld
    obtain ⟨slot, hslot⟩ := Option.isSome_iff_exists.mp hheld.symm
    refine ⟨s, slot, hfind, hopen, hslot, ?_⟩
    unfold Exchange.unsubscribe
    simp only [hfind, hopen, hslot]
    rfl
  · cases hopen

/-- Taking an event takes it off the queue of an open subscription, if there is one. -/
theorem next_cases (h : x.dispatcher.Tenured capacity) (id : Nat) :
    (x.dispatcher.queue id = [] ∧ x.next id = (none, x)) ∨
    ∃ s ref rest, x.dispatcher.find? id = some s ∧ s.isOpen ∧ s.queue = ref :: rest ∧
      x.next id = (some ref,
        { x with dispatcher := x.dispatcher.update id fun s => { s with queue := rest } }) := by
  unfold Exchange.next
  cases hqueue : x.dispatcher.queue id with
  | nil => exact .inl ⟨rfl, rfl⟩
  | cons ref rest =>
    unfold Dispatcher.queue at hqueue
    split at hqueue
    · rename_i s hfind
      refine .inr ⟨s, ref, rest, hfind, ?_, hqueue, rfl⟩
      by_contra hclosed
      rw [Bool.not_eq_true] at hclosed
      have hempty := h.ordered.emptied s (Dispatcher.mem_of_find? hfind).1 hclosed
      rw [hempty] at hqueue
      cases hqueue
    · cases hqueue

theorem subscribe_lasts (conf : SubscriptionConf σ) (h : x.dispatcher.Tenured capacity) :
    x.dispatcher.Lasts capacity (x.subscribe conf).2.dispatcher := by
  have hordered := h.ordered.subscribe conf
  rcases x.subscribe_cases conf with
    ⟨cause, -, hcase⟩ | ⟨-, -, hcase⟩ | ⟨-, slot, slots, hacquire, hcase⟩
  · rw [hcase]
    exact .refl h
  · rw [hcase]
    exact .refl h
  · rw [hcase] at hordered ⊢
    exact ⟨h.enlist hordered hacquire, .enlist _ conf slot slots⟩

theorem unsubscribe_lasts (id : Nat) (h : x.dispatcher.Tenured capacity) :
    x.dispatcher.Lasts capacity (x.unsubscribe id).dispatcher := by
  cases hopen : x.dispatcher.isOpen id with
  | false =>
    rw [unsubscribe_closed hopen]
    exact .refl h
  | true =>
    have hordered := h.ordered.unsubscribe id
    obtain ⟨s, slot, hfind, hs, hslot, hcase⟩ := unsubscribe_open h hopen
    rw [hcase] at hordered ⊢
    refine ⟨h.close hordered hfind hslot, ?_⟩
    have hupdated := Dispatcher.Continues.update (f := Subscription.closed) hfind hs
      (fun _ => rfl) fun _ => rfl
    exact ⟨hupdated.nextId, hupdated.kept, hupdated.strange⟩

theorem push_lasts {id : Nat} (ref : EventRef) (h : x.dispatcher.Tenured capacity)
    (hopen : x.dispatcher.isOpen id = true) :
    x.dispatcher.Lasts capacity (x.push id ref).dispatcher := by
  have hordered := h.ordered.push ref hopen
  have htenured : (x.dispatcher.update id fun s =>
      { s with queue := s.queue ++ [ref] }).Tenured capacity :=
    h.update ⟨hordered.fresh, hordered.distinct, hordered.listed, hordered.emptied⟩
      (fun _ => rfl) fun _ => rfl
  unfold Dispatcher.isOpen at hopen
  split at hopen
  · rename_i s hfind
    have hupdated := Dispatcher.Continues.update
      (f := fun s => { s with queue := s.queue ++ [ref] }) hfind hopen (fun _ => rfl) fun _ => rfl
    exact ⟨⟨hordered, htenured.slotted, htenured.lends, htenured.capacity⟩,
      ⟨hupdated.nextId, hupdated.kept, hupdated.strange⟩⟩
  · cases hopen

theorem next_lasts (id : Nat) (h : x.dispatcher.Tenured capacity) :
    x.dispatcher.Lasts capacity (x.next id).2.dispatcher := by
  have hordered := h.ordered.next id
  rcases next_cases h id with ⟨-, hcase⟩ | ⟨s, ref, rest, hfind, hs, -, hcase⟩
  · rw [hcase]
    exact .refl h
  · rw [hcase] at hordered ⊢
    exact ⟨h.update hordered (fun _ => rfl) fun _ => rfl,
      .update hfind hs (fun _ => rfl) fun _ => rfl⟩

end Exchange

end HomeGateway
