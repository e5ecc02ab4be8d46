import Mathlib
import HomeGateway.Proofs.Subscription.Exchange

/-!
What one dispatch does where filters and hooks ask for nothing. The event goes to the end of
the queue of each open subscription that wants it, and of no other; the filter of each that it
fits is consulted once. Filters note in a journal what they are asked and what they answer, so
that consultations can be counted.
-/

namespace HomeGateway

variable {σ : Type}

/-- A question to the filter of a subscription, and its answer. -/
structure Consultation where
  id : Nat
  event : Event
  answer : Bool

/-- What a subscriber asks for whose filter and hook do not call back. -/
structure QuietConf (σ : Type) where
  criteria : Criteria := {}
  filter : Option (Seen → σ → Bool × σ) := none
  hook : Option (Seen → σ → σ) := none

/-- The same, where the filter keeps a journal beside the state of the client. -/
def QuietConf.journaled (id : Nat) (k : QuietConf σ) :
    SubscriptionConf (σ × List Consultation) where
  criteria := k.criteria
  filter := k.filter.map fun judge seen (client, journal) =>
    let (answer, client) := judge seen client
    (answer, [], client, journal ++ [{ id, event := seen.event, answer }])
  hook := k.hook.map fun react seen (client, journal) => ([], react seen client, journal)

/-- The consultations of one filter, in order. -/
def consultations (id : Nat) (journal : List Consultation) : List (Event × Bool) :=
  (journal.filter fun c => c.id = id).map fun c => (c.event, c.answer)

@[simp] theorem consultations_append (id : Nat) (first second : List Consultation) :
    consultations id (first ++ second) = consultations id first ++ consultations id second := by
  simp [consultations]

@[simp] theorem consultations_self (id : Nat) (event : Event) (answer : Bool) :
    consultations id [{ id, event, answer }] = [(event, answer)] := by
  simp [consultations]

theorem consultations_other {id other : Nat} (h : other ≠ id) (event : Event) (answer : Bool) :
    consultations id [{ id := other, event, answer }] = [] := by
  simp [consultations, h]

namespace Dispatcher

/-- Queues an event at some of the known subscriptions. -/
def enqueue (known : List (Subscription σ)) (took : List Nat) (ref : EventRef) :
    List (Subscription σ) :=
  known.map fun s => if s.id ∈ took then { s with queue := s.queue ++ [ref] } else s

@[simp] theorem enqueue_nil (known : List (Subscription σ)) (ref : EventRef) :
    enqueue known [] ref = known := by
  simp [enqueue]

theorem update_eq_enqueue (d : Dispatcher σ) (id : Nat) (ref : EventRef) :
    (d.update id fun s => { s with queue := s.queue ++ [ref] }).known =
      enqueue d.known [id] ref := by
  simp [update, enqueue]

theorem enqueue_append (known : List (Subscription σ)) {first second : List Nat} (ref : EventRef)
    (hdisjoint : ∀ id ∈ first, id ∉ second) :
    enqueue (enqueue known first ref) second ref = enqueue known (first ++ second) ref := by
  simp only [enqueue, List.map_map]
  apply List.map_congr_left
  intro s _
  by_cases hfirst : s.id ∈ first
  · simp [hfirst, hdisjoint s.id hfirst]
  · simp [hfirst]

/-- A known subscription keeps its id, its terms and whether it is open. -/
theorem mem_enqueue {known : List (Subscription σ)} {s : Subscription σ} (hs : s ∈ known)
    (took : List Nat) (ref : EventRef) :
    ∃ t ∈ enqueue known took ref, t.id = s.id ∧ t.conf = s.conf ∧ t.isOpen = s.isOpen := by
  refine ⟨_, List.mem_map_of_mem hs, ?_⟩
  split <;> exact ⟨rfl, rfl, rfl⟩

/-- A subscription that is known afterwards was known before, perhaps with a shorter queue. -/
theorem of_mem_enqueue {known : List (Subscription σ)} {took : List Nat} {ref : EventRef}
    {t : Subscription σ} (ht : t ∈ enqueue known took ref) :
    ∃ s ∈ known, t.id = s.id ∧ t.conf = s.conf ∧ t.isOpen = s.isOpen ∧
      t.queue = if s.id ∈ took then s.queue ++ [ref] else s.queue := by
  obtain ⟨s, hs, rfl⟩ := List.mem_map.mp ht
  refine ⟨s, hs, ?_⟩
  split <;> exact ⟨rfl, rfl, rfl, rfl⟩

theorem enqueue_ids (known : List (Subscription σ)) (took : List Nat) (ref : EventRef) :
    (enqueue known took ref).map Subscription.id = known.map Subscription.id := by
  unfold enqueue
  rw [List.map_map]
  apply List.map_congr_left
  intro s _
  simp only [Function.comp_apply]
  split <;> rfl

/-- Filters and hooks of the open subscriptions do not call back, and keep the journal. -/
def Quiet (d : Dispatcher (σ × List Consultation)) : Prop :=
  ∀ s ∈ d.known, s.isOpen → ∃ k : QuietConf σ, s.conf = k.journaled s.id

end Dispatcher

/-- What an event does that is offered to `ids`, where `took` are those that took it. -/
structure Fanout (ref : EventRef) (event : Event) (ids took : List Nat)
    (before after : Dispatcher (σ × List Consultation))
    (earlier later : List Consultation) : Prop where
  known : after.known = Dispatcher.enqueue before.known took ref
  listed : after.listed = before.listed
  nextId : after.nextId = before.nextId
  sublist : took.Sublist ids
  fits : ∀ s ∈ before.known, s.id ∈ took → s.conf.criteria.fit event
  unfiltered : ∀ s ∈ before.known, s.id ∈ ids → s.conf.criteria.fit event →
    s.conf.filter.isNone → s.id ∈ took
  consulted : ∀ s ∈ before.known, s.id ∈ ids →
    consultations s.id later = consultations s.id earlier ++
      if s.conf.criteria.fit event ∧ s.conf.filter.isSome then [(event, decide (s.id ∈ took))]
      else []
  others : ∀ id, id ∉ ids → consultations id later = consultations id earlier

namespace Fanout

variable {ref : EventRef} {event : Event} {ids took : List Nat}
  {before middle after : Dispatcher (σ × List Consultation)}
  {earlier between later : List Consultation}

theorem nil (ref : EventRef) (event : Event) (d : Dispatcher (σ × List Consultation))
    (journal : List Consultation) : Fanout ref event [] [] d d journal journal := by
  constructor <;> simp

theorem quiet (h : Fanout ref event ids took before after earlier later) (hquiet : before.Quiet) :
    after.Quiet := by
  intro t ht hopen
  rw [h.known] at ht
  obtain ⟨s, hs, hid, hconf, hstill, -⟩ := Dispatcher.of_mem_enqueue ht
  rw [hid, hconf]
  exact hquiet s hs (hstill ▸ hopen)

/-- An offer to one subscription. -/
theorem single (hdistinct : (before.known.map Subscription.id).Nodup)
    {s : Subscription (σ × List Consultation)} (hs : s ∈ before.known) (taken : Bool)
    (htook : took = if taken then [s.id] else [])
    (hknown : after.known = Dispatcher.enqueue before.known took ref)
    (hlisted : after.listed = before.listed) (hnextId : after.nextId = before.nextId)
    (hfits : taken → s.conf.criteria.fit event)
    (hunfiltered : s.conf.criteria.fit event → s.conf.filter.isNone → taken)
    (hjournal : later = earlier ++
      if s.conf.criteria.fit event ∧ s.conf.filter.isSome then [⟨s.id, event, taken⟩] else []) :
    Fanout ref event [s.id] took before after earlier later := by
  have honly {t : Subscription (σ × List Consultation)} (ht : t ∈ before.known)
      (hid : t.id ∈ [s.id]) : t = s :=
    Dispatcher.eq_of_id hdistinct ht hs (List.mem_singleton.mp hid)
  have hsublist : took.Sublist [s.id] := by
    rw [htook]
    split <;> simp
  constructor
  · exact hknown
  · exact hlisted
  · exact hnextId
  · exact hsublist
  · intro t ht hin
    obtain rfl := honly ht (hsublist.subset hin)
    apply hfits
    by_contra hrefused
    simp [htook, hrefused] at hin
  · intro t ht hid hfit hnone
    obtain rfl := honly ht hid
    simp [htook, hunfiltered hfit hnone]
  · intro t ht hid
    obtain rfl := honly ht hid
    rw [hjournal, htook, consultations_append]
    cases taken <;> split <;> simp [consultations]
  · intro id hid
    rw [List.mem_singleton] at hid
    rw [hjournal, consultations_append]
    split
    · rw [consultations_other (Ne.symm hid), List.append_nil]
    · simp [consultations]

/-- One offer and then the others. -/
theorem cons {id : Nat} {first rest : List Nat}
    (hfirst : Fanout ref event [id] first before middle earlier between)
    (hrest : Fanout ref event ids rest middle after between later) (hnew : id ∉ ids) :
    Fanout ref event (id :: ids) (first ++ rest) before after earlier later := by
  have honly : ∀ other ∈ first, other = id := fun other hother =>
    List.mem_singleton.mp (hfirst.sublist.subset hother)
  have hdisjoint : ∀ other ∈ first, other ∉ rest := by
    intro other hother hin
    rw [honly other hother] at hin
    exact hnew (hrest.sublist.subset hin)
  have hlater {s : Subscription (σ × List Consultation)} (hs : s ∈ before.known) :
      ∃ t ∈ middle.known, t.id = s.id ∧ t.conf = s.conf ∧ t.isOpen = s.isOpen := by
    rw [hfirst.known]
    exact Dispatcher.mem_enqueue hs first ref
  constructor
  · rw [hrest.known, hfirst.known, Dispatcher.enqueue_append _ _ hdisjoint]
  · exact hrest.listed.trans hfirst.listed
  · exact hrest.nextId.trans hfirst.nextId
  · exact hfirst.sublist.append hrest.sublist
  · intro s hs htook
    rcases List.mem_append.mp htook with hin | hin
    · exact hfirst.fits s hs hin
    · obtain ⟨t, ht, hid, hconf, -⟩ := hlater hs
      rw [← hid] at hin
      exact hconf ▸ hrest.fits t ht hin
  · intro s hs hin hfit hnone
    rcases List.mem_cons.mp hin with heq | hothers
    · exact List.mem_append_left _
        (hfirst.unfiltered s hs (List.mem_singleton.mpr heq) hfit hnone)
    · obtain ⟨t, ht, hid, hconf, -⟩ := hlater hs
      rw [← hid] at hothers ⊢
      rw [← hconf] at hfit hnone
      exact List.mem_append_right _ (hrest.unfiltered t ht hothers hfit hnone)
  · intro s hs hin
    obtain ⟨t, ht, hid, hconf, -⟩ := hlater hs
    by_cases heq : s.id = id
    · have hout : s.id ∉ ids := heq ▸ hnew
      have hlate : s.id ∉ rest := fun hmem => hout (hrest.sublist.subset hmem)
      rw [hrest.others s.id hout, hfirst.consulted s hs (List.mem_singleton.mpr heq)]
      simp [hlate]
    · have hothers : t.id ∈ ids := by
        rw [hid]
        exact (List.mem_cons.mp hin).resolve_left heq
      have hearly : s.id ∉ first := fun hmem => heq (honly s.id hmem)
      have hconsulted := hrest.consulted t ht hothers
      rw [hid, hconf] at hconsulted
      rw [hconsulted, hfirst.others s.id fun hmem => heq (List.mem_singleton.mp hmem)]
      simp [hearly]
  · intro other hother
    rw [List.mem_cons, not_or] at hother
    rw [hrest.others other hother.2,
      hfirst.others other fun hmem => hother.1 (List.mem_singleton.mp hmem)]

end Fanout

namespace Exchange

variable {x : Exchange (σ × List Consultation)} {ref : EventRef} {event : Event}

/-- A filter that does not call back answers, and notes its answer. -/
theorem consult_journaled (k : QuietConf σ) (id : Nat) (seen : Seen) (client : σ)
    (journal : List Consultation) :
    ∃ (answer : Bool) (left : σ), (k.filter.isNone → answer) ∧
      Exchange.consult (k.journaled id) seen x (client, journal) =
        (answer, x, left,
          journal ++ if k.filter.isSome then [⟨id, seen.event, answer⟩] else []) := by
  cases hfilter : k.filter with
  | none => exact ⟨true, client, by simp, by simp [Exchange.consult, QuietConf.journaled, hfilter]⟩
  | some judge =>
    refine ⟨(judge seen client).1, (judge seen client).2, by simp, ?_⟩
    simp [Exchange.consult, QuietConf.journaled, hfilter, Exchange.perform]

theorem runHook_journaled (k : QuietConf σ) (id : Nat) (seen : Seen) (client : σ)
    (journal : List Consultation) :
    ∃ left : σ, Exchange.runHook (k.journaled id) seen x (client, journal) =
      (x, left, journal) := by
  cases hhook : k.hook with
  | none => exact ⟨client, by simp [Exchange.runHook, QuietConf.journaled, hhook]⟩
  | some react =>
    exact ⟨react seen client, by
      simp [Exchange.runHook, QuietConf.journaled, hhook, Exchange.perform]⟩

/-- The turn of one subscription. -/
theorem offer_fanout (ref : EventRef) (event : Event)
    (hdistinct : (x.dispatcher.known.map Subscription.id).Nodup)
    {s : Subscription (σ × List Consultation)} (hs : s ∈ x.dispatcher.known) (hopen : s.isOpen)
    {k : QuietConf σ} (hconf : s.conf = k.journaled s.id) (client : σ)
    (journal : List Consultation) :
    let (taken, next, answer) := Exchange.offer ref event s.id x (client, journal)
    Fanout ref event [s.id] (if taken then [s.id] else []) x.dispatcher next.dispatcher
      journal answer.2 := by
  have hfind := Dispatcher.find?_eq_some hdistinct hs
  have hfilterNone : s.conf.filter.isNone = k.filter.isNone := by
    simp [hconf, QuietConf.journaled]
  have hfilterSome : s.conf.filter.isSome = k.filter.isSome := by
    simp [hconf, QuietConf.journaled]
  unfold Exchange.offer
  simp only [hfind, hopen, Bool.not_true, Bool.false_or]
  by_cases hfit : s.conf.criteria.fit event
  · simp only [hfit, Bool.not_true, Bool.false_eq_true, if_false]
    obtain ⟨answer, left, hfree, hconsult⟩ :=
      consult_journaled (x := x) k s.id { event, holders := x.events.holders ref } client journal
    have hstill : x.dispatcher.isOpen s.id = true := by
      simp [Dispatcher.isOpen, hfind, hopen]
    rw [hconf] at hfit
    simp only [hconf, hconsult, hstill]
    cases answer with
    | false =>
      apply Fanout.single hdistinct hs false (by simp) (by simp) rfl rfl (by simp)
      · intro _ hnone
        exact hfree (hfilterNone ▸ hnone)
      · simp [hconf, hfit, ← hfilterSome]
    | true =>
      obtain ⟨after, hhook⟩ := runHook_journaled (x := x.push s.id ref) k s.id
        { event, holders := (x.push s.id ref).events.holders ref } left
        (journal ++ if k.filter.isSome then [⟨s.id, event, true⟩] else [])
      simp only [hhook, Bool.not_true, Bool.or_self, Bool.false_eq_true, if_false]
      apply Fanout.single hdistinct hs true (by simp)
      · exact Dispatcher.update_eq_enqueue _ _ _
      · rfl
      · rfl
      · intro _
        rw [hconf]
        exact hfit
      · simp
      · simp [hconf, hfit, ← hfilterSome]
  · simp only [hfit, Bool.not_false, if_true]
    apply Fanout.single hdistinct hs false (by simp) (by simp) rfl rfl (by simp)
    · simp [hfit]
    · simp [hfit]

/-- Each of the subscriptions gets its turn once. -/
theorem offerAll_fanout (ref : EventRef) (event : Event) {ids : List Nat}
    (hdistinct : (x.dispatcher.known.map Subscription.id).Nodup) (hquiet : x.dispatcher.Quiet)
    (honce : ids.Nodup) (hids : ∀ id ∈ ids, ∃ s ∈ x.dispatcher.known, s.id = id ∧ s.isOpen)
    (client : σ) (journal : List Consultation) :
    let (count, next, answer) := Exchange.offerAll ref event ids x (client, journal)
    ∃ took, count = took.length ∧
      Fanout ref event ids took x.dispatcher next.dispatcher journal answer.2 := by
  induction ids generalizing x client journal with
  | nil => exact ⟨[], rfl, Fanout.nil ref event x.dispatcher journal⟩
  | cons id rest ih =>
    rw [List.nodup_cons] at honce
    obtain ⟨s, hs, rfl, hopen⟩ := hids id List.mem_cons_self
    obtain ⟨k, hconf⟩ := hquiet s hs hopen
    have hfirst := offer_fanout ref event hdistinct hs hopen hconf client journal
    unfold Exchange.offerAll
    generalize Exchange.offer ref event s.id x (client, journal) = offered at hfirst ⊢
    obtain ⟨taken, middle, left, between⟩ := offered
    dsimp only at hfirst ⊢
    have hrest := ih (x := middle)
      (by rw [hfirst.known, Dispatcher.enqueue_ids]; exact hdistinct)
      (hfirst.quiet hquiet) honce.2
      (by
        intro other hother
        obtain ⟨t, ht, hid, hstill⟩ := hids other (List.mem_cons_of_mem _ hother)
        rw [hfirst.known]
        obtain ⟨u, hu, huid, -, huopen⟩ := Dispatcher.mem_enqueue ht _ ref
        exact ⟨u, hu, huid.trans hid, huopen.trans hstill⟩)
      left between
    generalize Exchange.offerAll ref event rest middle (left, between) = offered at hrest ⊢
    obtain ⟨count, next, answer⟩ := offered
    obtain ⟨took, hcount, hfanout⟩ := hrest
    refine ⟨(if taken then [s.id] else []) ++ took, ?_, hfirst.cons hfanout honce.1⟩
    cases taken <;> simp [hcount]

/-- A live event is offered to the open subscriptions. -/
theorem publish_fanout (hordered : x.dispatcher.Ordered) (hquiet : x.dispatcher.Quiet)
    {stored : StoredEvent} (hfind : x.events.find? ref = some stored) (client : σ)
    (journal : List Consultation) :
    let (count, next, answer) := Exchange.publish ref x (client, journal)
    ∃ took, count = took.length ∧ Fanout ref stored.event x.dispatcher.listed took
      x.dispatcher next.dispatcher journal answer.2 := by
  unfold Exchange.publish
  simp only [hfind]
  apply offerAll_fanout ref stored.event hordered.distinct hquiet
  · exact hordered.listed_nodup
  · intro id hid
    rw [hordered.listed] at hid
    obtain ⟨s, hs, rfl⟩ := List.mem_map.mp hid
    obtain ⟨hknown, hopen⟩ := List.mem_filter.mp hs
    exact ⟨s, hknown, rfl, hopen⟩

end Exchange

namespace Dispatcher

/-- The subscriptions whose queue grew by one event. -/
def grown (before after : Dispatcher σ) (ref : EventRef) : List Nat :=
  (before.known.map Subscription.id).filter fun id => after.queue id = before.queue id ++ [ref]

/-- So many queues grew by an event, and the others did not change. -/
def GrewBy (before after : Dispatcher σ) (ref : EventRef) (count : Nat) : Prop :=
  (before.grown after ref).length = count ∧
    ∀ id, id ∉ before.grown after ref → after.queue id = before.queue id

end Dispatcher

namespace Fanout

variable {ref : EventRef} {event : Event} {ids took : List Nat}
  {before after : Dispatcher (σ × List Consultation)} {earlier later : List Consultation}

theorem find?_after (h : Fanout ref event ids took before after earlier later) (id : Nat) :
    after.find? id = (before.find? id).map fun s =>
      if s.id ∈ took then { s with queue := s.queue ++ [ref] } else s := by
  unfold Dispatcher.find?
  rw [h.known, Dispatcher.enqueue, List.find?_map]
  congr 2
  funext s
  simp only [Function.comp_apply]
  split <;> rfl

theorem queue_after (h : Fanout ref event ids took before after earlier later) {id : Nat}
    {s : Subscription (σ × List Consultation)} (hfind : before.find? id = some s) :
    after.queue id = if id ∈ took then before.queue id ++ [ref] else before.queue id := by
  have hid := (Dispatcher.mem_of_find? hfind).2
  unfold Dispatcher.queue
  rw [h.find?_after, hfind]
  simp only [Option.map_some, hid]
  split <;> rfl

/-- As many queues grew as subscriptions took the event. -/
theorem grewBy (h : Fanout ref event ids took before after earlier later)
    (hdistinct : (before.known.map Subscription.id).Nodup) (honce : ids.Nodup)
    (hids : ∀ id ∈ ids, id ∈ before.known.map Subscription.id) :
    before.GrewBy after ref took.length := by
  have hmem (id : Nat) : id ∈ before.grown after ref ↔ id ∈ took := by
    unfold Dispatcher.grown
    rw [List.mem_filter, decide_eq_true_eq]
    constructor
    · rintro ⟨hid, hgrew⟩
      obtain ⟨s, hs, rfl⟩ := List.mem_map.mp hid
      rw [h.queue_after (Dispatcher.find?_eq_some hdistinct hs)] at hgrew
      by_contra hout
      rw [if_neg hout] at hgrew
      simp at hgrew
    · intro htook
      have hid := hids id (h.sublist.subset htook)
      refine ⟨hid, ?_⟩
      obtain ⟨s, hs, rfl⟩ := List.mem_map.mp hid
      rw [h.queue_after (Dispatcher.find?_eq_some hdistinct hs), if_pos htook]
  constructor
  · apply List.Perm.length_eq
    exact (List.perm_ext_iff_of_nodup (hdistinct.filter _) (honce.sublist h.sublist)).mpr hmem
  · intro id hid
    rw [hmem] at hid
    cases hfind : before.find? id with
    | none => simp [Dispatcher.queue, h.find?_after, hfind]
    | some s => rw [h.queue_after hfind, if_neg hid]

end Fanout

namespace Dispatcher

theorem GrewBy.refl (d : Dispatcher σ) (ref : EventRef) : d.GrewBy d ref 0 := by
  constructor
  · simp [grown]
  · intro id _
    rfl

end Dispatcher

/-- The count that a dispatch answers is the number of queues that grew. -/
theorem Exchange.publish_grewBy {x : Exchange (σ × List Consultation)}
    (hordered : x.dispatcher.Ordered) (hquiet : x.dispatcher.Quiet) (ref : EventRef)
    (client : σ × List Consultation) :
    let (count, next, _) := Exchange.publish ref x client
    x.dispatcher.GrewBy next.dispatcher ref count := by
  cases hfind : x.events.find? ref with
  | none =>
    simp only [Exchange.publish, hfind]
    exact Dispatcher.GrewBy.refl _ _
  | some stored =>
    have hfanout := publish_fanout hordered hquiet hfind client.1 client.2
    generalize Exchange.publish ref x (client.1, client.2) = published at hfanout ⊢
    obtain ⟨count, next, answer⟩ := published
    obtain ⟨took, rfl, hfanout⟩ := hfanout
    exact hfanout.grewBy hordered.distinct hordered.listed_nodup hordered.listed_known

end HomeGateway
