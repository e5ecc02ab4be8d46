import Mathlib
import HomeGateway.Proofs.Subscription.Tenure

/-!
A dispatch turn by turn, whatever filters and hooks ask for on the way. The subscriptions that
were open when it began get one turn each, in order; what happens in a turn is up to the
subscription as it is found by then. Subscriptions come and go between the turns and within them,
and yet the queues grow by just what was queued.
-/

namespace HomeGateway

variable {σ : Type}

/-- The turn of a subscription: how it finds things, what the filter answers and leaves if it is
asked, and how it leaves things. -/
structure Turn (σ : Type) where
  id : Nat
  found : Exchange σ × σ
  verdict : Option (Bool × Exchange σ × σ)
  queued : Bool
  left : Exchange σ × σ

namespace Exchange

/-- The filter of a subscription is asked if it is open and the event fits. -/
def judge (ref : EventRef) (event : Event) (id : Nat) (x : Exchange σ) (client : σ) :
    Option (Bool × Exchange σ × σ) :=
  match x.dispatcher.find? id with
  | none => none
  | some s =>
    if s.isOpen && s.conf.criteria.fit event then
      some (consult s.conf { event, holders := x.events.holders ref } x client)
    else none

def turn (ref : EventRef) (event : Event) (id : Nat) (x : Exchange σ) (client : σ) : Turn σ where
  id
  found := (x, client)
  verdict := judge ref event id x client
  queued := (offer ref event id x client).1
  left := (offer ref event id x client).2

/-- The turns in which an event is offered to some subscriptions. -/
def course (ref : EventRef) (event : Event) : List Nat → Exchange σ → σ → List (Turn σ)
  | [], _, _ => []
  | id :: rest, x, client =>
    let first := turn ref event id x client
    first :: course ref event rest first.left.1 first.left.2

end Exchange

namespace Turn

/-- What becomes of an event in a turn. -/
structure Lawful (ref : EventRef) (event : Event) (t : Turn σ) : Prop where
  asked : t.verdict = Exchange.judge ref event t.id t.found.1 t.found.2
  /-- The event is queued to a subscription that is open, that it fits, and that is still open
  when its filter has accepted. -/
  queued : t.queued = true ↔ ∃ s x client, t.found.1.dispatcher.find? t.id = some s ∧ s.isOpen ∧
    s.conf.criteria.fit event ∧ t.verdict = some (true, x, client) ∧ x.dispatcher.isOpen t.id
  /-- Where the filter is not asked, nothing happens. -/
  passed : t.verdict = none → t.left = t.found
  /-- Where the event is not queued, nothing happens after the filter. -/
  declined : ∀ accept x client, t.verdict = some (accept, x, client) → t.queued = false →
    t.left = (x, client)
  /-- Where it is queued, the hook runs next, once, and nothing happens after it. -/
  hooked : ∀ s accept x client, t.found.1.dispatcher.find? t.id = some s →
    t.verdict = some (accept, x, client) → t.queued = true →
      t.left = Exchange.runHook s.conf
        { event, holders := (x.push t.id ref).events.holders ref } (x.push t.id ref) client

/-- A subscription that is found closed is passed over. -/
theorem Lawful.passes {ref : EventRef} {event : Event} {t : Turn σ}
    (h : t.Lawful ref event) (hclosed : t.found.1.dispatcher.isOpen t.id = false) :
    t.queued = false ∧ t.left = t.found := by
  have hverdict : t.verdict = none := by
    rw [h.asked]
    unfold Exchange.judge
    unfold Dispatcher.isOpen at hclosed
    cases hfind : t.found.1.dispatcher.find? t.id with
    | none => rfl
    | some s =>
      rw [hfind] at hclosed
      simp [hclosed]
  refine ⟨?_, h.passed hverdict⟩
  rw [← Bool.not_eq_true, h.queued, hverdict]
  simp

/-- Without a filter, what fits is queued, if the subscription is open when its turn comes. -/
theorem Lawful.queued_unfiltered {ref : EventRef} {event : Event} {t : Turn σ}
    (h : t.Lawful ref event) {s : Subscription σ}
    (hfind : t.found.1.dispatcher.find? t.id = some s) (hfilter : s.conf.filter = none) :
    t.queued = true ↔
      s.conf.criteria.fit event = true ∧ t.found.1.dispatcher.isOpen t.id = true := by
  have hopen : t.found.1.dispatcher.isOpen t.id = s.isOpen := by
    rw [Dispatcher.isOpen, hfind]
  rw [h.queued, hopen]
  constructor
  · rintro ⟨other, x, client, hother, hs, hfit, -⟩
    rw [hfind, Option.some.injEq] at hother
    rw [hother]
    exact ⟨hfit, hs⟩
  · rintro ⟨hfit, hs⟩
    refine ⟨s, t.found.1, t.found.2, hfind, hs, hfit, ?_, hopen.trans hs⟩
    rw [h.asked, Exchange.judge, hfind]
    simp [hs, hfit, Exchange.consult, hfilter]

/-- Each turn goes on from where the one before it left things. -/
def Chained : Exchange σ × σ → List (Turn σ) → Exchange σ × σ → Prop
  | first, [], last => first = last
  | first, t :: rest, last => t.found = first ∧ Chained t.left rest last

/-- The subscriptions that the event was queued to. -/
def took (turns : List (Turn σ)) : List Nat := (turns.filter queued).map id

end Turn

namespace Exchange

variable {x : Exchange σ} {ref : EventRef} {event : Event} {capacity : Nat}

/-- All that an offer can come to: it passes the subscription over, or the filter is asked, and the
event is queued if the subscription is still open after it was accepted. -/
theorem offer_cases (ref : EventRef) (event : Event) (id : Nat) (x : Exchange σ) (client : σ) :
    (judge ref event id x client = none ∧ offer ref event id x client = (false, x, client)) ∨
    ∃ s accept asked after, x.dispatcher.find? id = some s ∧ s.isOpen = true ∧
      s.conf.criteria.fit event = true ∧
      consult s.conf { event, holders := x.events.holders ref } x client = (accept, asked, after) ∧
      judge ref event id x client = some (accept, asked, after) ∧
      ((accept && asked.dispatcher.isOpen id) = false ∧
          offer ref event id x client = (false, asked, after) ∨
        accept = true ∧ asked.dispatcher.isOpen id = true ∧
          offer ref event id x client =
            (true, runHook s.conf { event, holders := (asked.push id ref).events.holders ref }
              (asked.push id ref) after)) := by
  unfold judge offer
  cases hfind : x.dispatcher.find? id with
  | none => exact .inl ⟨rfl, rfl⟩
  | some s =>
    dsimp only
    rw [← Bool.not_and]
    cases hpassed : s.isOpen && s.conf.criteria.fit event with
    | false => exact .inl ⟨rfl, rfl⟩
    | true =>
      obtain ⟨hopen, hfit⟩ := Bool.and_eq_true_iff.mp hpassed
      refine .inr ⟨s, ?_⟩
      cases consult s.conf { event, holders := x.events.holders ref } x client with
      | mk accept judged =>
        obtain ⟨asked, after⟩ := judged
        refine ⟨accept, asked, after, rfl, hopen, hfit, rfl, rfl, ?_⟩
        dsimp only
        rw [← Bool.not_and]
        cases htaken : accept && asked.dispatcher.isOpen id with
        | false => exact .inl ⟨rfl, rfl⟩
        | true =>
          obtain ⟨haccept, hstill⟩ := Bool.and_eq_true_iff.mp htaken
          exact .inr ⟨haccept, hstill, rfl⟩

theorem turn_lawful (ref : EventRef) (event : Event) (id : Nat) (x : Exchange σ) (client : σ) :
    (turn ref event id x client).Lawful ref event := by
  rcases offer_cases ref event id x client with
    ⟨hjudge, hoffer⟩ |
      ⟨s, accept, asked, after, hfind, hopen, hfit, -, hjudge,
        ⟨htaken, hoffer⟩ | ⟨rfl, hstill, hoffer⟩⟩
  · constructor <;> simp [turn, hjudge, hoffer]
  · constructor
    case asked => rfl
    case queued =>
      simp only [turn, hjudge, hoffer, Bool.false_eq_true, Option.some.injEq, Prod.mk.injEq,
        false_iff]
      rintro ⟨_, _, _, -, -, -, ⟨rfl, rfl, rfl⟩, hstill⟩
      exact Bool.false_ne_true (htaken.symm.trans hstill)
    case passed => simp [turn, hjudge]
    case declined =>
      rintro _ _ _ hverdict -
      cases hjudge.symm.trans hverdict
      simp [turn, hoffer]
    case hooked => simp [turn, hoffer]
  · constructor
    case asked => rfl
    case queued =>
      refine iff_of_true (by simp [turn, hoffer]) ?_
      exact ⟨s, asked, after, hfind, hopen, hfit, hjudge, hstill⟩
    case passed => simp [turn, hjudge]
    case declined => simp [turn, hoffer]
    case hooked =>
      rintro _ _ _ _ hother hverdict -
      cases hfind.symm.trans hother
      cases hjudge.symm.trans hverdict
      simp [turn, hoffer]

theorem course_ids (ref : EventRef) (event : Event) (ids : List Nat) (x : Exchange σ)
    (client : σ) :
    (course ref event ids x client).map Turn.id = ids := by
  induction ids generalizing x client with
  | nil => rfl
  | cons id rest ih => exact congrArg (id :: ·) (ih _ _)

theorem course_lawful (ref : EventRef) (event : Event) (ids : List Nat) (x : Exchange σ)
    (client : σ) :
    ∀ t ∈ course ref event ids x client, t.Lawful ref event := by
  induction ids generalizing x client with
  | nil => simp [course]
  | cons id rest ih => exact List.forall_mem_cons.mpr ⟨turn_lawful ref event id x client, ih _ _⟩

/-- What turns keep holds whenever a filter is asked, and when it has answered. -/
theorem KeptByTurns.course {keeps : Exchange σ → Prop} (hkept : KeptByTurns ref keeps)
    (event : Event) (ids : List Nat) (client : σ) (h : keeps x) :
    ∀ t ∈ course ref event ids x client, keeps t.found.1 ∧
      ∀ accept y after, t.verdict = some (accept, y, after) → keeps y := by
  induction ids generalizing x client with
  | nil => simp [Exchange.course]
  | cons id rest ih =>
    have hleft := hkept.offer event id client h
    refine List.forall_mem_cons.mpr ⟨⟨h, ?_⟩, ih _ hleft⟩
    intro accept y after hverdict
    simp only [turn, judge] at hverdict
    split at hverdict
    · cases hverdict
    · rename_i s hfind
      split at hverdict
      · have hasked := hkept.consult s.conf { event, holders := x.events.holders ref } client h
        rw [Option.some.inj hverdict] at hasked
        exact hasked
      · cases hverdict

/-- The turns make up the dispatch, and the count is of those in which the event was queued. -/
theorem offerAll_course (ref : EventRef) (event : Event) (ids : List Nat) (x : Exchange σ)
    (client : σ) :
    (offerAll ref event ids x client).1 = (course ref event ids x client).countP Turn.queued ∧
      Turn.Chained (x, client) (course ref event ids x client)
        (offerAll ref event ids x client).2 := by
  induction ids generalizing x client with
  | nil => exact ⟨rfl, rfl⟩
  | cons id rest ih =>
    obtain ⟨hcount, hchained⟩ := ih (offer ref event id x client).2.1
      (offer ref event id x client).2.2
    refine ⟨?_, rfl, hchained⟩
    rw [course, List.countP_cons, offerAll]
    dsimp only
    rw [hcount]
    cases hqueued : (offer ref event id x client).1 <;> simp [turn, hqueued]

/-- Nothing is counted of a dispatch if the event is queued in no turn. -/
theorem publish_eq_zero_iff (ref : EventRef) (x : Exchange σ) (client : σ) :
    (publish ref x client).1 = 0 ↔ ∀ stored ∈ x.events.find? ref,
      ∀ t ∈ course ref stored.event x.dispatcher.listed x client, t.queued = false := by
  unfold Exchange.publish
  cases x.events.find? ref with
  | none => simp
  | some stored =>
    obtain ⟨hcount, -⟩ := offerAll_course ref stored.event x.dispatcher.listed x client
    simp [hcount, List.countP_eq_zero]

end Exchange

namespace Dispatcher

/-- Over a stretch of a dispatch, the queues of those who are still open grew by what they took. -/
structure Grows (capacity : Nat) (ref : EventRef) (took : List Nat)
    (before after : Dispatcher σ) : Prop extends Lasts capacity before after where
  known : ∀ id ∈ took, after.find? id ≠ none
  queues : ∀ id, after.isOpen id = true →
    after.queue id = before.queue id ++ List.replicate (took.count id) ref

variable {capacity : Nat} {ref : EventRef} {before mid after : Dispatcher σ}
  {first rest took : List Nat}

theorem Grows.refl {d : Dispatcher σ} (h : d.Tenured capacity) (ref : EventRef) :
    Grows capacity ref [] d d where
  tenured := h
  continues := .refl d
  known := by simp
  queues := by simp

theorem Grows.trans (hfirst : Grows capacity ref first before mid)
    (hrest : Grows capacity ref rest mid after) :
    Grows capacity ref (first ++ rest) before after where
  tenured := hrest.tenured
  continues := hfirst.continues.trans hrest.continues
  known := by
    intro id hid
    rcases List.mem_append.mp hid with hin | hin
    · exact hrest.continues.known (hfirst.known id hin)
    · exact hrest.known id hin
  queues := by
    intro id hopen
    rw [hrest.queues id hopen, List.count_append, List.replicate_add, ← List.append_assoc]
    congr 1
    by_cases hknown : mid.find? id = none
    · have hbefore : before.find? id = none := by
        by_contra hsome
        exact hfirst.continues.known hsome hknown
      have hnot : id ∉ first := fun hin => hfirst.known id hin hknown
      rw [queue_of_find?_none hknown, queue_of_find?_none hbefore, List.count_eq_zero.mpr hnot]
      rfl
    · exact hfirst.queues id (hrest.continues.isOpen hknown hopen)

/-- Who is still open got the event once if it was queued to them, and who was not known before
got nothing. -/
theorem Grows.queue_once (hgrows : Grows capacity ref took before after)
    (honce : took.Nodup) {id : Nat} (hopen : after.isOpen id = true) :
    after.queue id = before.queue id ++ if id ∈ took then [ref] else [] := by
  rw [hgrows.queues id hopen]
  split
  · rename_i hin
    rw [List.count_eq_one_of_mem honce hin]
    rfl
  · rename_i hout
    rw [List.count_eq_zero.mpr hout]
    rfl

theorem Grows.queue_young (hgrows : Grows capacity ref took before after)
    {id : Nat} (hunknown : before.find? id = none) (hout : id ∉ took) : after.queue id = [] := by
  cases hopen : after.isOpen id with
  | true =>
    rw [hgrows.queues id hopen, queue_of_find?_none hunknown,
      List.count_eq_zero.mpr hout]
    rfl
  | false => exact hgrows.tenured.ordered.queue_closed hopen

end Dispatcher

namespace Exchange

variable {x : Exchange σ} {ref : EventRef} {capacity : Nat}

theorem subscribe_grows (conf : SubscriptionConf σ) (h : x.dispatcher.Tenured capacity)
    (ref : EventRef) : x.dispatcher.Grows capacity ref [] (x.subscribe conf).2.dispatcher := by
  refine { x.subscribe_lasts conf h with known := by simp, queues := ?_ }
  intro id _
  rcases x.subscribe_cases conf with
    ⟨cause, -, hcase⟩ | ⟨-, -, hcase⟩ | ⟨-, slot, slots, -, hcase⟩
  · simp [hcase]
  · simp [hcase]
  · rw [hcase]
    simp only [Dispatcher.queue, Dispatcher.find?_enlist, List.count_nil, List.replicate_zero,
      List.append_nil]
    by_cases hid : x.dispatcher.nextId = id
    · subst hid
      simp [h.fresh]
    · cases x.dispatcher.find? id <;> simp [hid]

theorem unsubscribe_grows (id : Nat) (h : x.dispatcher.Tenured capacity) (ref : EventRef) :
    x.dispatcher.Grows capacity ref [] (x.unsubscribe id).dispatcher := by
  refine { x.unsubscribe_lasts id h with known := by simp, queues := ?_ }
  intro other hother
  cases hopen : x.dispatcher.isOpen id with
  | false => simp [unsubscribe_closed hopen]
  | true =>
    obtain ⟨s, slot, hfind, hs, hslot, hcase⟩ := unsubscribe_open h hopen
    have hafter (y : Nat) : (x.dispatcher.close id slot).find? y =
        (x.dispatcher.find? y).map fun s => if y = id then s.closed else s :=
      x.dispatcher.find?_update id y fun _ => rfl
    rw [hcase] at hother ⊢
    simp only [Dispatcher.isOpen, Dispatcher.queue, hafter, List.count_nil, List.replicate_zero,
      List.append_nil] at hother ⊢
    by_cases hid : other = id
    · subst hid
      simp [hfind, Subscription.closed] at hother
    · cases x.dispatcher.find? other <;> simp [hid]

theorem push_grows {id : Nat} (ref : EventRef) (h : x.dispatcher.Tenured capacity)
    (hopen : x.dispatcher.isOpen id = true) :
    x.dispatcher.Grows capacity ref [id] (x.push id ref).dispatcher := by
  have hafter (y : Nat) : (x.push id ref).dispatcher.find? y =
      (x.dispatcher.find? y).map fun s =>
        if y = id then { s with queue := s.queue ++ [ref] } else s :=
    x.dispatcher.find?_update id y fun _ => rfl
  refine { x.push_lasts ref h hopen with known := ?_, queues := ?_ }
  · intro other hother
    rw [List.mem_singleton.mp hother]
    exact (x.push_lasts ref h hopen).continues.known (Dispatcher.known_of_isOpen hopen)
  · intro other hstill
    simp only [Dispatcher.isOpen, Dispatcher.queue, hafter] at hstill ⊢
    cases hfind : x.dispatcher.find? other with
    | none => simp [hfind] at hstill
    | some s =>
      by_cases hid : other = id
      · simp [hid]
      · simp [hid, Ne.symm hid]

/-- Filters and hooks queue nothing. -/
theorem grows_kept (before : Dispatcher σ) (capacity : Nat) (ref : EventRef) :
    KeptByRequests fun x : Exchange σ => before.Grows capacity ref [] x.dispatcher where
  subscribe x conf h := h.trans (x.subscribe_grows conf h.tenured ref)
  unsubscribe x id h := h.trans (x.unsubscribe_grows id h.tenured ref)

/-- In a turn, the queue of the subscription grows if the event is queued. -/
theorem offer_grows (event : Event) (id : Nat) (client : σ) (h : x.dispatcher.Tenured capacity)
    (ref : EventRef) :
    x.dispatcher.Grows capacity ref (if (offer ref event id x client).1 then [id] else [])
      (offer ref event id x client).2.1.dispatcher := by
  rcases offer_cases ref event id x client with
    ⟨-, hoffer⟩ | ⟨s, accept, asked, after, hfind, -, -, hconsult, -, htaken⟩
  · rw [hoffer]
    exact .refl h ref
  · have hconsulted := (grows_kept x.dispatcher capacity ref).consult s.conf
      { event, holders := x.events.holders ref } client (.refl h ref)
    rw [hconsult] at hconsulted
    rcases htaken with ⟨-, hoffer⟩ | ⟨-, hstill, hoffer⟩
    · rw [hoffer]
      exact hconsulted
    · have hpushed := asked.push_grows ref hconsulted.tenured hstill
      have hhooked := (grows_kept (asked.push id ref).dispatcher capacity ref).runHook s.conf
        { event, holders := (asked.push id ref).events.holders ref } after
        (.refl hpushed.tenured ref)
      rw [hoffer]
      exact (hconsulted.trans hpushed).trans hhooked

/-- Over some turns, queues grow by what was queued. -/
theorem course_grows (ref : EventRef) (event : Event) (ids : List Nat) (client : σ)
    (h : x.dispatcher.Tenured capacity) :
    x.dispatcher.Grows capacity ref (Turn.took (course ref event ids x client))
      (offerAll ref event ids x client).2.1.dispatcher := by
  induction ids generalizing x client with
  | nil => exact .refl h ref
  | cons id rest ih =>
    have hfirst := x.offer_grows event id client h ref
    have hrest := ih (offer ref event id x client).2.2 hfirst.tenured
    have htook : Turn.took (course ref event (id :: rest) x client) =
        (if (offer ref event id x client).1 then [id] else []) ++
          Turn.took (course ref event rest (offer ref event id x client).2.1
            (offer ref event id x client).2.2) := by
      unfold Turn.took
      rw [course, List.filter_cons]
      cases hqueued : (offer ref event id x client).1 <;> simp [turn, hqueued]
    rw [htook]
    exact hfirst.trans hrest

theorem publish_lasts (ref : EventRef) (client : σ) (h : x.dispatcher.Tenured capacity) :
    x.dispatcher.Lasts capacity (publish ref x client).2.1.dispatcher := by
  unfold Exchange.publish
  split
  · exact .refl h
  · exact (course_grows ref _ _ client h).toLasts

/-- The subscriptions go on from turn to turn. -/
theorem course_lasts (ref : EventRef) (event : Event) (ids : List Nat) (client : σ)
    (h : x.dispatcher.Tenured capacity) :
    (∀ t ∈ course ref event ids x client, x.dispatcher.Lasts capacity t.found.1.dispatcher ∧
      t.found.1.dispatcher.Lasts capacity t.left.1.dispatcher) ∧
    (course ref event ids x client).Pairwise fun earlier later =>
      earlier.left.1.dispatcher.Continues later.found.1.dispatcher := by
  induction ids generalizing x client with
  | nil => exact ⟨by simp [course], List.Pairwise.nil⟩
  | cons id rest ih =>
    have hfirst := (x.offer_grows event id client h ref).toLasts
    obtain ⟨hturns, hpairs⟩ := ih (offer ref event id x client).2.2 hfirst.tenured
    constructor
    · refine List.forall_mem_cons.mpr ⟨⟨.refl h, hfirst⟩, ?_⟩
      intro t ht
      obtain ⟨hfound, hleft⟩ := hturns t ht
      exact ⟨hfirst.trans hfound, hleft⟩
    · exact List.pairwise_cons.mpr ⟨fun t ht => (hturns t ht).1.continues, hpairs⟩

/-- Whatever a turn leaves, the subscriptions go on to the end of the dispatch. -/
theorem course_ends (ref : EventRef) (event : Event) (ids : List Nat) (client : σ)
    (h : x.dispatcher.Tenured capacity) :
    ∀ t ∈ course ref event ids x client,
      t.found.1.dispatcher.Lasts capacity (offerAll ref event ids x client).2.1.dispatcher := by
  induction ids generalizing x client with
  | nil => simp [course]
  | cons id rest ih =>
    have hall := (course_grows ref event (id :: rest) client h).toLasts
    have hfirst := (x.offer_grows event id client h ref).toLasts
    exact List.forall_mem_cons.mpr ⟨hall, ih _ hfirst.tenured⟩

theorem took_sublist (ref : EventRef) (event : Event) (ids : List Nat) (x : Exchange σ)
    (client : σ) :
    (Turn.took (course ref event ids x client)).Sublist ids := by
  have hsublist : (Turn.took (course ref event ids x client)).Sublist
      ((course ref event ids x client).map Turn.id) := List.filter_sublist.map Turn.id
  rwa [course_ids] at hsublist

/-- What a dispatch comes to. -/
structure Dispatched (ref : EventRef) (event : Event) (x : Exchange σ) (client : σ)
    (turns : List (Turn σ)) (count : Nat) (last : Exchange σ × σ) : Prop where
  /-- Who was open has one turn, in the order in which subscriptions were made. -/
  ids : turns.map Turn.id = x.dispatcher.listed
  once : x.dispatcher.listed.Nodup
  invited : ∀ id, id ∈ x.dispatcher.listed ↔ x.dispatcher.isOpen id = true
  chained : Turn.Chained (x, client) turns last
  lawful : ∀ t ∈ turns, t.Lawful ref event
  /-- Who was closed in an earlier turn is found closed. -/
  closed : turns.Pairwise fun earlier later =>
    earlier.left.1.dispatcher.isOpen later.id = false →
      later.found.1.dispatcher.isOpen later.id = false
  count : count = turns.countP Turn.queued
  /-- The queue of who is still open grew by the event if it was queued, and by nothing else. -/
  queues : ∀ id, last.1.dispatcher.isOpen id = true → last.1.dispatcher.queue id =
    x.dispatcher.queue id ++ if id ∈ Turn.took turns then [ref] else []
  /-- Who was made on the way gets nothing. -/
  young : ∀ id, x.dispatcher.find? id = none → last.1.dispatcher.queue id = []
  emptied : ∀ s ∈ last.1.dispatcher.known, s.isOpen = false → s.queue = [] ∧ s.slot = none

/-- A live event is dispatched in the turns of those who are open, whoever comes and goes on the
way. -/
theorem publish_dispatched (h : x.dispatcher.Tenured capacity) {stored : StoredEvent}
    (hfind : x.events.find? ref = some stored) (client : σ) :
    Dispatched ref stored.event x client
      (course ref stored.event x.dispatcher.listed x client)
      (publish ref x client).1 (publish ref x client).2 := by
  have hpublish : publish ref x client =
      offerAll ref stored.event x.dispatcher.listed x client := by
    unfold Exchange.publish
    rw [hfind]
  rw [hpublish]
  generalize stored.event = event
  have hids := course_ids ref event x.dispatcher.listed x client
  obtain ⟨hcount, hchained⟩ := offerAll_course ref event x.dispatcher.listed x client
  have hgrows := course_grows ref event x.dispatcher.listed client h
  have htook := took_sublist ref event x.dispatcher.listed x client
  obtain ⟨hturns, hpairs⟩ := course_lasts ref event x.dispatcher.listed client h
  constructor
  case ids => exact hids
  case once => exact h.ordered.listed_nodup
  case invited => exact fun id => (h.isOpen_iff id).symm
  case chained => exact hchained
  case lawful => exact course_lawful ref event _ x client
  case closed =>
    refine hpairs.imp_of_mem ?_
    intro earlier later hearlier hlater hcontinues hclosed
    have hlisted : later.id ∈ x.dispatcher.listed := hids ▸ List.mem_map_of_mem hlater
    have hstart := Dispatcher.known_of_isOpen ((h.isOpen_iff later.id).mpr hlisted)
    obtain ⟨hfound, hleft⟩ := hturns earlier hearlier
    have hknown := hleft.continues.known (hfound.continues.known hstart)
    rw [← Bool.not_eq_true] at hclosed ⊢
    exact fun hopen => hclosed (hcontinues.isOpen hknown hopen)
  case count => exact hcount
  case queues =>
    intro id hopen
    exact hgrows.queue_once (h.ordered.listed_nodup.sublist htook) hopen
  case young =>
    intro id hunknown
    apply hgrows.queue_young hunknown
    intro hin
    exact Dispatcher.known_of_isOpen ((h.isOpen_iff id).mpr (htook.subset hin)) hunknown
  case emptied =>
    intro s hs hclosed
    exact ⟨hgrows.tenured.ordered.emptied s hs hclosed, hgrows.tenured.slot_closed hs hclosed⟩

/-- Who is closed in a dispatch is passed over from then on, their hook included. -/
theorem course_passes (h : x.dispatcher.Tenured capacity) {stored : StoredEvent}
    (hfind : x.events.find? ref = some stored) (client : σ) :
    (course ref stored.event x.dispatcher.listed x client).Pairwise fun earlier later =>
      earlier.left.1.dispatcher.isOpen later.id = false →
        later.queued = false ∧ later.left = later.found := by
  have hdispatched := publish_dispatched h hfind client
  refine hdispatched.closed.imp_of_mem ?_
  intro earlier later _ hlater hfound hclosed
  exact (hdispatched.lawful later hlater).passes (hfound hclosed)

/-- Who is open has a turn, on the terms that were agreed on. -/
theorem exists_turn (h : x.dispatcher.Tenured capacity) {id : Nat} {s : Subscription σ}
    (hfind : x.dispatcher.find? id = some s) (hopen : s.isOpen = true) (event : Event)
    (client : σ) :
    ∃ t ∈ course ref event x.dispatcher.listed x client, t.id = id ∧
      ∃ kept, t.found.1.dispatcher.find? t.id = some kept ∧ kept.conf = s.conf := by
  have hlisted : id ∈ x.dispatcher.listed := by
    rw [← h.isOpen_iff, Dispatcher.isOpen, hfind]
    exact hopen
  rw [← course_ids ref event x.dispatcher.listed x client] at hlisted
  obtain ⟨t, ht, rfl⟩ := List.mem_map.mp hlisted
  obtain ⟨hlasts, -⟩ := (course_lasts ref event x.dispatcher.listed client h).1 t ht
  obtain ⟨kept, hkept, hconf, -⟩ := hlasts.continues.kept t.id s hfind
  exact ⟨t, ht, rfl, kept, hkept, hconf⟩

/-- A subscription without a filter that is still open after a dispatch got the event if it fits. -/
theorem publish_unfiltered (h : x.dispatcher.Tenured capacity) {stored : StoredEvent}
    (hlive : x.events.find? ref = some stored) {id : Nat} {s : Subscription σ}
    (hfind : x.dispatcher.find? id = some s) (hopen : s.isOpen = true)
    (hfilter : s.conf.filter = none) (client : σ) :
    let turns := course ref stored.event x.dispatcher.listed x client
    let last := (publish ref x client).2.1.dispatcher
    (∃ t ∈ turns, t.id = id ∧ (t.queued = true ↔
      s.conf.criteria.fit stored.event = true ∧ t.found.1.dispatcher.isOpen id = true)) ∧
    (last.isOpen id = true → last.queue id =
      x.dispatcher.queue id ++ if s.conf.criteria.fit stored.event then [ref] else []) := by
  have hdispatched := publish_dispatched h hlive client
  obtain ⟨t, ht, rfl, kept, hkept, hconf⟩ := exists_turn h hfind hopen stored.event client
  have hqueued := (hdispatched.lawful t ht).queued_unfiltered hkept (hconf ▸ hfilter)
  rw [hconf] at hqueued
  refine ⟨⟨t, ht, rfl, hqueued⟩, fun hlast => ?_⟩
  have hlasts := course_ends ref stored.event x.dispatcher.listed client h t ht
  have hpublish : publish ref x client =
      offerAll ref stored.event x.dispatcher.listed x client := by
    rw [publish, hlive]
  have hfound : t.found.1.dispatcher.isOpen t.id = true := by
    apply hlasts.continues.isOpen (by simp [hkept])
    rw [← hpublish]
    exact hlast
  have hnodup := hdispatched.once
  rw [← hdispatched.ids] at hnodup
  have htook : t.id ∈ Turn.took (course ref stored.event x.dispatcher.listed x client) ↔
      s.conf.criteria.fit stored.event = true := by
    rw [Turn.took, List.mem_map]
    constructor
    · rintro ⟨other, hother, hid⟩
      obtain ⟨hin, htaken⟩ := List.mem_filter.mp hother
      rw [List.inj_on_of_nodup_map hnodup hin ht hid, hqueued] at htaken
      exact htaken.1
    · intro hfit
      exact ⟨t, List.mem_filter.mpr ⟨ht, hqueued.mpr ⟨hfit, hfound⟩⟩, rfl⟩
  rw [hdispatched.queues t.id hlast]
  simp only [htook]

end Exchange

end HomeGateway
