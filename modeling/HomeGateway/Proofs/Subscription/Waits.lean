import Mathlib
import HomeGateway.Proofs.Subscription.Tenure
import HomeGateway.Session.Basic

/-!
Waiting at subscriptions, with several tasks at work at once. What queues an event announces it in
a step of its own, a subscription is closed in three steps, and a wait registers for the next
announcement, looks at the queue, looks whether the subscription is open and only then goes to
sleep. The steps of different tasks come in any order.
-/

namespace HomeGateway

variable {σ : Type}

namespace Subscription

def add (ref : EventRef) (s : Subscription σ) : Subscription σ :=
  { s with queue := s.queue ++ [ref] }

def keep (rest : List EventRef) (s : Subscription σ) : Subscription σ := { s with queue := rest }

def shut (s : Subscription σ) : Subscription σ := { s with isOpen := false }

def strip (s : Subscription σ) : Subscription σ := { s with queue := [], slot := none }

end Subscription

namespace Dispatcher

variable {d : Dispatcher σ} {id : Nat}

/-- Whether a subscription was ever made under this id. -/
def knows (d : Dispatcher σ) (id : Nat) : Bool := (d.find? id).isSome

theorem knows_of_isOpen (hopen : d.isOpen id = true) : d.knows id = true :=
  Option.isSome_iff_ne_none.mpr (known_of_isOpen hopen)

theorem queue_of_not_knows (hstrange : d.knows id = false) : d.queue id = [] :=
  queue_of_find?_none (Option.not_isSome_iff_eq_none.mp (Bool.eq_false_iff.mp hstrange))

section Update

variable {f : Subscription σ → Subscription σ} (hid : ∀ s, (f s).id = s.id) (other : Nat)
include hid

theorem knows_update : (d.update id f).knows other = d.knows other := by
  unfold knows
  rw [find?_update d id other hid, Option.isSome_map]

theorem isOpen_update (hopen : ∀ s, (f s).isOpen = s.isOpen) :
    (d.update id f).isOpen other = d.isOpen other := by
  unfold isOpen
  rw [find?_update d id other hid]
  cases d.find? other with
  | none => rfl
  | some s =>
    dsimp only [Option.map_some]
    split
    · exact hopen s
    · rfl

theorem queue_update (hqueue : ∀ s, (f s).queue = s.queue) :
    (d.update id f).queue other = d.queue other := by
  unfold queue
  rw [find?_update d id other hid]
  cases d.find? other with
  | none => rfl
  | some s =>
    dsimp only [Option.map_some]
    split
    · exact hqueue s
    · rfl

variable {other : Nat}

theorem queue_update_other (hother : other ≠ id) :
    (d.update id f).queue other = d.queue other := by
  unfold queue
  rw [find?_update d id other hid]
  simp only [hother, if_false, Option.map_id']

theorem queue_update_self (rewrite : List EventRef → List EventRef)
    (hqueue : ∀ s, (f s).queue = rewrite s.queue) (hknown : d.knows id = true) :
    (d.update id f).queue id = rewrite (d.queue id) := by
  obtain ⟨s, hfind⟩ := Option.isSome_iff_exists.mp hknown
  unfold queue
  rw [find?_update d id id hid, hfind]
  simp [hqueue]

end Update

end Dispatcher

namespace Exchange

/-! The parts that queueing an event and closing a subscription fall into. -/

/-- Queues an event and tells nobody yet. -/
def deposit (x : Exchange σ) (id : Nat) (ref : EventRef) : Exchange σ :=
  { x with
    events := x.events.hold ref
    dispatcher := x.dispatcher.update id (Subscription.add ref) }

/-- From now on nothing more may come. What is there stays for the moment. -/
def shut (x : Exchange σ) (id : Nat) : Exchange σ :=
  { x with dispatcher := x.dispatcher.update id Subscription.shut }

/-- Releases what a subscription holds, and takes it off the list. -/
def clear (x : Exchange σ) (id : Nat) : Exchange σ :=
  match x.dispatcher.find? id with
  | none => x
  | some s =>
    { x with
      events := x.events.releaseAll s.queue
      dispatcher :=
        { x.dispatcher.update id Subscription.strip with
          listed := x.dispatcher.listed.filter fun other => other ≠ id
          slots := match s.slot with
            | some slot => x.dispatcher.slots.release slot
            | none => x.dispatcher.slots } }

def announce (x : Exchange σ) (id : Nat) : Exchange σ :=
  { x with dispatcher := x.dispatcher.announce id }

variable {x : Exchange σ} {id : Nat} {ref : EventRef}

theorem push_eq (x : Exchange σ) (id : Nat) (ref : EventRef) :
    x.push id ref = (x.deposit id ref).announce id := rfl

theorem unsubscribe_eq (hopen : x.dispatcher.isOpen id = true) :
    x.unsubscribe id = ((x.shut id).clear id).announce id := by
  obtain ⟨s, hfind⟩ := Option.isSome_iff_exists.mp (Dispatcher.knows_of_isOpen hopen)
  have hstill : s.isOpen = true := by
    unfold Dispatcher.isOpen at hopen
    rwa [hfind] at hopen
  have hshut : (x.shut id).dispatcher.find? id = some s.shut := by
    have hupdate := Dispatcher.find?_update x.dispatcher id id (f := Subscription.shut) fun _ => rfl
    rw [hfind, Option.map_some, if_pos rfl] at hupdate
    exact hupdate
  have htwice : (x.dispatcher.update id Subscription.shut).update id Subscription.strip =
      x.dispatcher.update id Subscription.closed := by
    unfold Dispatcher.update
    simp only [List.map_map]
    congr 2
    funext t
    simp only [Function.comp_apply]
    by_cases ht : t.id = id <;>
      simp [ht, Subscription.shut, Subscription.strip, Subscription.closed]
  unfold unsubscribe clear
  rw [hfind, hshut]
  simp only [hstill, Bool.not_true, Bool.false_eq_true, if_false]
  unfold shut
  simp only [htwice]
  rfl

section Views

variable (other : Nat)

theorem knows_deposit : (x.deposit id ref).dispatcher.knows other = x.dispatcher.knows other :=
  Dispatcher.knows_update (f := Subscription.add ref) (fun _ => rfl) other

theorem isOpen_deposit : (x.deposit id ref).dispatcher.isOpen other = x.dispatcher.isOpen other :=
  Dispatcher.isOpen_update (f := Subscription.add ref) (fun _ => rfl) other fun _ => rfl

theorem queue_deposit_self (hknown : x.dispatcher.knows id = true) :
    (x.deposit id ref).dispatcher.queue id = x.dispatcher.queue id ++ [ref] :=
  Dispatcher.queue_update_self (f := Subscription.add ref) (fun _ => rfl)
    (fun queue => queue ++ [ref]) (fun _ => rfl) hknown

theorem queue_deposit_other {other : Nat} (hother : other ≠ id) :
    (x.deposit id ref).dispatcher.queue other = x.dispatcher.queue other :=
  Dispatcher.queue_update_other (f := Subscription.add ref) (fun _ => rfl) hother

theorem knows_shut : (x.shut id).dispatcher.knows other = x.dispatcher.knows other :=
  Dispatcher.knows_update (f := Subscription.shut) (fun _ => rfl) other

theorem isOpen_shut :
    (x.shut id).dispatcher.isOpen other = (x.dispatcher.isOpen other && decide (other ≠ id)) := by
  unfold shut Dispatcher.isOpen
  rw [Dispatcher.find?_update x.dispatcher id other (f := Subscription.shut) (fun _ => rfl)]
  cases x.dispatcher.find? other with
  | none => rfl
  | some s => by_cases hother : other = id <;> simp [hother, Subscription.shut]

theorem queue_shut : (x.shut id).dispatcher.queue other = x.dispatcher.queue other :=
  Dispatcher.queue_update (f := Subscription.shut) (fun _ => rfl) other fun _ => rfl

theorem knows_clear : (x.clear id).dispatcher.knows other = x.dispatcher.knows other := by
  unfold clear
  split
  · rfl
  · exact Dispatcher.knows_update (f := Subscription.strip) (fun _ => rfl) other

theorem isOpen_clear : (x.clear id).dispatcher.isOpen other = x.dispatcher.isOpen other := by
  unfold clear
  split
  · rfl
  · exact Dispatcher.isOpen_update (f := Subscription.strip) (fun _ => rfl) other fun _ => rfl

theorem queue_clear_self (x : Exchange σ) (id : Nat) :
    (x.clear id).dispatcher.queue id = [] := by
  unfold clear
  split
  · rename_i hnone
    exact Dispatcher.queue_of_find?_none hnone
  · rename_i s hfind
    exact Dispatcher.queue_update_self (f := Subscription.strip) (fun _ => rfl)
      (fun _ => []) (fun _ => rfl) (Option.isSome_iff_exists.mpr ⟨s, hfind⟩)

theorem queue_clear_other {other : Nat} (hother : other ≠ id) :
    (x.clear id).dispatcher.queue other = x.dispatcher.queue other := by
  unfold clear
  split
  · rfl
  · exact Dispatcher.queue_update_other (f := Subscription.strip) (fun _ => rfl) hother

theorem knows_subscribe (conf : SubscriptionConf σ) (hknown : x.dispatcher.knows other = true) :
    (x.subscribe conf).2.dispatcher.knows other = true := by
  rcases x.subscribe_cases conf with ⟨cause, -, heq⟩ | ⟨-, -, heq⟩ | ⟨-, slot, slots, -, heq⟩
  · rw [heq]
    exact hknown
  · rw [heq]
    exact hknown
  · rw [heq]
    unfold Dispatcher.knows at hknown ⊢
    rw [Dispatcher.find?_enlist, Option.isSome_or, hknown, Bool.true_or]

theorem isOpen_subscribe (conf : SubscriptionConf σ) (hknown : x.dispatcher.knows other = true) :
    (x.subscribe conf).2.dispatcher.isOpen other = x.dispatcher.isOpen other := by
  rcases x.subscribe_cases conf with ⟨cause, -, heq⟩ | ⟨-, -, heq⟩ | ⟨-, slot, slots, -, heq⟩
  · rw [heq]
  · rw [heq]
  · rw [heq]
    obtain ⟨s, hfind⟩ := Option.isSome_iff_exists.mp hknown
    unfold Dispatcher.isOpen
    rw [Dispatcher.find?_enlist, hfind, Option.some_or]

/-- A new subscription has nothing queued. -/
theorem queue_subscribe (conf : SubscriptionConf σ) :
    (x.subscribe conf).2.dispatcher.queue other = x.dispatcher.queue other := by
  rcases x.subscribe_cases conf with ⟨cause, -, heq⟩ | ⟨-, -, heq⟩ | ⟨-, slot, slots, -, heq⟩
  · rw [heq]
  · rw [heq]
  · rw [heq]
    unfold Dispatcher.queue
    rw [Dispatcher.find?_enlist]
    cases x.dispatcher.find? other with
    | some s => rfl
    | none => by_cases hother : x.dispatcher.nextId = other <;> simp [hother]

end Views

/-- An event is taken from a queue, and nothing else changes. -/
structure Yields (x : Exchange σ) (id : Nat) (ref : EventRef) (y : Exchange σ) : Prop where
  knows : ∀ other, y.dispatcher.knows other = x.dispatcher.knows other
  isOpen : ∀ other, y.dispatcher.isOpen other = x.dispatcher.isOpen other
  queue : x.dispatcher.queue id = ref :: y.dispatcher.queue id
  others : ∀ other, other ≠ id → y.dispatcher.queue other = x.dispatcher.queue other
  events : y.events = x.events

theorem next_some {y : Exchange σ} (hnext : x.next id = (some ref, y)) : x.Yields id ref y := by
  unfold next at hnext
  split at hnext
  · cases hnext
  · rename_i first rest hqueue
    obtain ⟨hfirst, rfl⟩ := Prod.mk.inj hnext
    obtain rfl := Option.some.inj hfirst
    have hknown : x.dispatcher.knows id = true := by
      by_contra hstrange
      rw [Bool.not_eq_true] at hstrange
      rw [Dispatcher.queue_of_not_knows hstrange] at hqueue
      cases hqueue
    constructor
    · exact Dispatcher.knows_update (f := Subscription.keep rest) fun _ => rfl
    · intro other
      exact Dispatcher.isOpen_update (f := Subscription.keep rest) (fun _ => rfl) other fun _ => rfl
    · have hrest := Dispatcher.queue_update_self (f := Subscription.keep rest) (fun _ => rfl)
        (fun _ => rest) (fun _ => rfl) hknown
      exact hqueue.trans (congrArg (List.cons first) hrest.symm)
    · intro other hother
      exact Dispatcher.queue_update_other (f := Subscription.keep rest) (fun _ => rfl) hother
    · rfl

theorem next_none {y : Exchange σ} (hnext : x.next id = (none, y)) :
    x.dispatcher.queue id = [] ∧ y = x := by
  unfold next at hnext
  split at hnext
  · rename_i hempty
    exact ⟨hempty, (Prod.mk.inj hnext).2.symm⟩
  · cases hnext

end Exchange

/-- What a wait does next, or how it ended. -/
inductive Stage where
  /-- It registers for the next announcement. -/
  | arrived
  /-- It looks at the queue. -/
  | registered
  /-- It looks whether the subscription is open. -/
  | unserved
  /-- It looks whether there was an announcement since it registered. -/
  | watching
  /-- It looks at the time. -/
  | uncalled
  /-- It sleeps until there is an announcement or its time is up. -/
  | asleep
  | ended (found : Option EventRef)
  deriving DecidableEq

/-- A wait for the next event of a subscription. `calls` are the announcements since it registered:
each is that of an event, or of the closing. -/
structure Waiter where
  id : Nat
  deadline : Option Instant
  stage : Stage := .arrived
  calls : List (Option EventRef) := []

/-- All it can tell of the announcements is whether there was one. -/
def Waiter.called (w : Waiter) : Bool := !w.calls.isEmpty

/-- The subscriptions and those who wait at them. The closing of the subscriptions in `closing`
has begun and not come to their queues yet, and for each entry of `unannounced` somebody is about to
announce an event, or that the subscription is closed. `queued`, `taken` and `dropped` tell in order
which events went where; an event is taken by a wait, which is told by its number, or by somebody
who does not wait. -/
structure SubscriptionWaits (σ : Type) where
  exchange : Exchange σ
  now : Instant
  waiters : List Waiter
  closing : List Nat
  unannounced : List (Nat × Option EventRef)
  queued : List (Nat × EventRef)
  taken : List (Option Nat × Nat × EventRef)
  dropped : List (Nat × EventRef)

namespace SubscriptionWaits

/-- Before the first subscription is made. -/
def empty (events : EventStore) (capacity : Nat) (counters : Counters) (now : Instant) :
    SubscriptionWaits σ :=
  { exchange := { events, dispatcher := .new capacity, counters }, now, waiters := [],
    closing := [], unannounced := [], queued := [], taken := [], dropped := [] }

/-- What one task can do in one step. Queueing ends in an announcement, and closing is to `shut`,
to `clear` and to announce that. A sleeping wait may be woken for no reason. -/
inductive Move (σ : Type) where
  | subscribe (conf : SubscriptionConf σ)
  | queue (id : Nat) (ref : EventRef)
  | tryNext (id : Nat)
  | shut (id : Nat)
  | clear (id : Nat)
  | announce (id : Nat) (what : Option EventRef)
  | wait (id : Nat) (limit : Option Duration)
  | wake (i : Nat)
  | proceed (i : Nat)
  | pass (time : Duration)

/-- Whether a move goes on with what was begun. -/
def Move.goesOn : Move σ → Bool
  | .clear _ | .announce _ _ | .proceed _ => true
  | _ => false

/-- Whether a move is about those who wait. -/
def Move.isAboutWaits : Move σ → Bool
  | .announce _ _ | .wait _ _ | .wake _ | .proceed _ => true
  | _ => false

/-- Whether time is up for a wait. -/
def isDue (l : SubscriptionWaits σ) (w : Waiter) : Bool := w.deadline.any fun due => due ≤ l.now

def place (l : SubscriptionWaits σ) (i : Nat) (w : Waiter) : SubscriptionWaits σ :=
  { l with waiters := l.waiters.set i w }

/-- The next step of a wait that does not look at the queue. -/
def advance (l : SubscriptionWaits σ) (w : Waiter) : Waiter :=
  match w.stage with
  | .arrived => { w with stage := .registered, calls := [] }
  | .registered => w
  | .unserved =>
    { w with stage := if l.exchange.dispatcher.isOpen w.id then .watching else .ended none }
  | .watching => { w with stage := if w.called then .arrived else .uncalled }
  | .uncalled => { w with stage := if l.isDue w then .ended none else .asleep }
  | .asleep => if w.called || l.isDue w then { w with stage := .watching } else w
  | .ended _ => w

/-- The next step of a wait, if it is not over or asleep for good reason. -/
def proceed (l : SubscriptionWaits σ) (i : Nat) : SubscriptionWaits σ :=
  match l.waiters[i]? with
  | none => l
  | some w =>
    if w.stage = .registered then
      match l.exchange.next w.id with
      | (none, _) => l.place i { w with stage := .unserved }
      | (some ref, exchange) =>
        { l.place i { w with stage := .ended (some ref) } with
          exchange, taken := l.taken ++ [(some i, w.id, ref)] }
    else l.place i (l.advance w)

/-! A move that is not possible changes nothing. -/

/-- An event that passed the check of its subscription just before that was shut is still queued,
as long as the queue is not cleared. -/
def enqueue (l : SubscriptionWaits σ) (id : Nat) (ref : EventRef) : SubscriptionWaits σ :=
  if l.exchange.dispatcher.isOpen id ∨ id ∈ l.closing then
    { l with
      exchange := l.exchange.deposit id ref
      unannounced := (id, some ref) :: l.unannounced
      queued := l.queued ++ [(id, ref)] }
  else l

def tryNext (l : SubscriptionWaits σ) (id : Nat) : SubscriptionWaits σ :=
  match l.exchange.next id with
  | (none, _) => l
  | (some ref, exchange) => { l with exchange, taken := l.taken ++ [(none, id, ref)] }

def shut (l : SubscriptionWaits σ) (id : Nat) : SubscriptionWaits σ :=
  if l.exchange.dispatcher.isOpen id then
    { l with exchange := l.exchange.shut id, closing := id :: l.closing }
  else l

def clear (l : SubscriptionWaits σ) (id : Nat) : SubscriptionWaits σ :=
  if id ∈ l.closing then
    { l with
      exchange := l.exchange.clear id
      closing := l.closing.erase id
      unannounced := (id, none) :: l.unannounced
      dropped := l.dropped ++ (l.exchange.dispatcher.queue id).map fun ref => (id, ref) }
  else l

def announce (l : SubscriptionWaits σ) (id : Nat) (what : Option EventRef) : SubscriptionWaits σ :=
  if (id, what) ∈ l.unannounced then
    { l with
      exchange := l.exchange.announce id
      unannounced := l.unannounced.erase (id, what)
      waiters := l.waiters.map fun w =>
        if w.id = id then { w with calls := w.calls ++ [what] } else w }
  else l

def join (l : SubscriptionWaits σ) (id : Nat) (limit : Option Duration) : SubscriptionWaits σ :=
  if l.exchange.dispatcher.knows id then
    { l with waiters := l.waiters ++ [{ id, deadline := limit.map fun limit => l.now + limit }] }
  else l

def wake (l : SubscriptionWaits σ) (i : Nat) : SubscriptionWaits σ :=
  match l.waiters[i]? with
  | none => l
  | some w => if w.stage = .asleep then l.place i { w with stage := .watching } else l

def perform (l : SubscriptionWaits σ) : Move σ → SubscriptionWaits σ
  | .subscribe conf => { l with exchange := (l.exchange.subscribe conf).2 }
  | .queue id ref => l.enqueue id ref
  | .tryNext id => l.tryNext id
  | .shut id => l.shut id
  | .clear id => l.clear id
  | .announce id what => l.announce id what
  | .wait id limit => l.join id limit
  | .wake i => l.wake i
  | .proceed i => l.proceed i
  | .pass time => { l with now := l.now + time }

def run (l : SubscriptionWaits σ) (moves : List (Move σ)) : SubscriptionWaits σ :=
  moves.foldl perform l

/-- No task can run any more: all that was begun is done or sleeps. -/
def Settled (l : SubscriptionWaits σ) : Prop :=
  ∀ move : Move σ, move.goesOn = true → l.perform move = l

theorem run_append (l : SubscriptionWaits σ) (first rest : List (Move σ)) :
    l.run (first ++ rest) = (l.run first).run rest :=
  List.foldl_append

/-! Without the others in between, the steps make up the operations. -/

/-- Moves that bring the subscriptions into this state and leave nothing undone that they began. -/
def Brings (l : SubscriptionWaits σ) (x : Exchange σ) : Prop :=
  ∃ moves, (l.run moves).exchange = x ∧ (l.run moves).closing = l.closing ∧
    (l.run moves).unannounced = l.unannounced

theorem Brings.more {l : SubscriptionWaits σ} {x y : Exchange σ} (h : l.Brings x)
    (moves : List (Move σ))
    (hmoves : ∀ m : SubscriptionWaits σ, m.exchange = x → (m.run moves).exchange = y ∧
      (m.run moves).closing = m.closing ∧ (m.run moves).unannounced = m.unannounced) :
    l.Brings y := by
  obtain ⟨first, hexchange, hclosing, hunannounced⟩ := h
  obtain ⟨hafter, hstill, hquiet⟩ := hmoves _ hexchange
  refine ⟨first ++ moves, ?_⟩
  rw [run_append]
  exact ⟨hafter, hstill.trans hclosing, hquiet.trans hunannounced⟩

theorem brings_kept (l : SubscriptionWaits σ) (ref : EventRef) :
    Exchange.KeptByTurns ref l.Brings where
  subscribe x conf h := by
    refine h.more [.subscribe conf] fun m hm => ?_
    rw [← hm]
    exact ⟨rfl, rfl, rfl⟩
  unsubscribe x id h := by
    cases hopen : x.dispatcher.isOpen id with
    | false => rwa [Exchange.unsubscribe_closed hopen]
    | true =>
      refine h.more [.shut id, .clear id, .announce id none] fun m hm => ?_
      rw [Exchange.unsubscribe_eq hopen, ← hm]
      rw [← hm] at hopen
      simp [run, perform, shut, clear, announce, hopen]
  push x id hopen h := by
    refine h.more [.queue id ref, .announce id (some ref)] fun m hm => ?_
    rw [Exchange.push_eq, ← hm]
    rw [← hm] at hopen
    simp [run, perform, enqueue, announce, hopen]

theorem brings_self (l : SubscriptionWaits σ) : l.Brings l.exchange := ⟨[], rfl, rfl, rfl⟩

/-- The dispatch of an event, with all that filters and hooks ask for, is such a run. -/
theorem brings_publish (l : SubscriptionWaits σ) (ref : EventRef) (client : σ) :
    l.Brings (Exchange.publish ref l.exchange client).2.1 :=
  (l.brings_kept ref).publish client l.brings_self

theorem brings_unsubscribe (l : SubscriptionWaits σ) (id : Nat) :
    l.Brings (l.exchange.unsubscribe id) :=
  (l.brings_kept 0).unsubscribe l.exchange id l.brings_self

/-- The turn of a wait, if nobody comes between: it registers, looks at the queue, at the
subscription, for an announcement and at the time. -/
def turn (i : Nat) : List (Move σ) := List.replicate 5 (.proceed i)

variable {l : SubscriptionWaits σ} {i : Nat} {w : Waiter}

theorem proceed_missing (hi : l.waiters[i]? = none) : l.proceed i = l := by
  unfold proceed
  rw [hi]

theorem proceed_advance (hi : l.waiters[i]? = some w) (hstage : w.stage ≠ .registered) :
    l.proceed i = l.place i (l.advance w) := by
  unfold proceed
  rw [hi]
  exact if_neg hstage

theorem proceed_unserved {x : Exchange σ} (hi : l.waiters[i]? = some w)
    (hstage : w.stage = .registered) (hnext : l.exchange.next w.id = (none, x)) :
    l.proceed i = l.place i { w with stage := .unserved } := by
  unfold proceed
  rw [hi]
  simp only [hstage, if_true, hnext]

theorem proceed_served {ref : EventRef} {x : Exchange σ} (hi : l.waiters[i]? = some w)
    (hstage : w.stage = .registered) (hnext : l.exchange.next w.id = (some ref, x)) :
    l.proceed i =
      { l.place i { w with stage := .ended (some ref) } with
        exchange := x, taken := l.taken ++ [(some i, w.id, ref)] } := by
  unfold proceed
  rw [hi]
  simp only [hstage, if_true, hnext]

/-- What one step of a wait can be. -/
inductive Proceeds (l : SubscriptionWaits σ) (i : Nat) : SubscriptionWaits σ → Prop where
  | missing : l.Proceeds i l
  | advance (w : Waiter) (hi : l.waiters[i]? = some w) (hstage : w.stage ≠ .registered) :
    l.Proceeds i (l.place i (l.advance w))
  | unserved (w : Waiter) (hi : l.waiters[i]? = some w) (hstage : w.stage = .registered)
    (hempty : l.exchange.dispatcher.queue w.id = []) :
    l.Proceeds i (l.place i { w with stage := .unserved })
  | served (w : Waiter) (hi : l.waiters[i]? = some w) (hstage : w.stage = .registered)
    (ref : EventRef) (x : Exchange σ) (hyields : l.exchange.Yields w.id ref x) :
    l.Proceeds i
      { l.place i { w with stage := .ended (some ref) } with
        exchange := x, taken := l.taken ++ [(some i, w.id, ref)] }

theorem proceeds (l : SubscriptionWaits σ) (i : Nat) : l.Proceeds i (l.proceed i) := by
  cases hi : l.waiters[i]? with
  | none =>
    rw [proceed_missing hi]
    exact .missing
  | some w =>
    by_cases hstage : w.stage = .registered
    · rcases hnext : l.exchange.next w.id with ⟨_ | ref, x⟩
      · rw [proceed_unserved hi hstage hnext]
        exact .unserved w hi hstage (Exchange.next_none hnext).1
      · rw [proceed_served hi hstage hnext]
        exact .served w hi hstage ref x (Exchange.next_some hnext)
    · rw [proceed_advance hi hstage]
      exact .advance w hi hstage

theorem tryNext_cases (l : SubscriptionWaits σ) (id : Nat) :
    l.tryNext id = l ∨ ∃ ref x, l.exchange.Yields id ref x ∧
      l.tryNext id = { l with exchange := x, taken := l.taken ++ [(none, id, ref)] } := by
  unfold tryNext
  rcases hnext : l.exchange.next id with ⟨_ | ref, x⟩
  · exact .inl rfl
  · exact .inr ⟨ref, x, Exchange.next_some hnext, rfl⟩

/-- To make and close subscriptions, to queue and to take leaves those alone who wait. -/
theorem waiters_perform (l : SubscriptionWaits σ) {move : Move σ}
    (hmove : move.isAboutWaits = false) :
    (l.perform move).waiters = l.waiters := by
  cases move with
  | subscribe conf => rfl
  | queue id ref =>
    simp only [perform, enqueue]
    split <;> rfl
  | tryNext id =>
    simp only [perform]
    rcases l.tryNext_cases id with hsame | ⟨ref, x, -, htaken⟩
    · rw [hsame]
    · rw [htaken]
  | shut id =>
    simp only [perform, shut]
    split <;> rfl
  | clear id =>
    simp only [perform, clear]
    split <;> rfl
  | pass time => rfl
  | _ => cases hmove

theorem waiters_place (hi : l.waiters[i]? = some w) (v : Waiter) :
    (l.place i v).waiters[i]? = some v := by
  obtain ⟨hlt, -⟩ := List.getElem?_eq_some_iff.mp hi
  exact List.getElem?_set_self hlt

theorem place_place (v u : Waiter) : (l.place i v).place i u = l.place i u := by
  unfold place
  simp only [List.set_set]

/-- One step after another of the same wait. -/
theorem proceed_place (hi : l.waiters[i]? = some w) {v : Waiter} (hstage : v.stage ≠ .registered) :
    (l.place i v).proceed i = l.place i (l.advance v) := by
  rw [proceed_advance (waiters_place hi v) hstage, place_place]
  rfl

theorem place_self (hi : l.waiters[i]? = some w) : l.place i w = l := by
  obtain ⟨hlt, rfl⟩ := List.getElem?_eq_some_iff.mp hi
  unfold place
  rw [List.set_getElem_self]

/-- Who is done does nothing more. -/
theorem proceed_ended {found : Option EventRef} (hi : l.waiters[i]? = some w)
    (hdone : w.stage = .ended found) : l.proceed i = l := by
  rw [proceed_advance hi (by simp [hdone])]
  simp only [advance, hdone]
  exact place_self hi

theorem run_turn (l : SubscriptionWaits σ) (i : Nat) :
    l.run (turn i) = ((((l.proceed i).proceed i).proceed i).proceed i).proceed i := rfl

theorem proceed_arrived (hi : l.waiters[i]? = some w) (hstage : w.stage = .arrived) :
    l.proceed i = l.place i { w with stage := .registered, calls := [] } := by
  rw [proceed_advance hi (by simp [hstage])]
  simp only [advance, hstage]

/-- Who comes and finds something queued takes it. -/
theorem turn_served {ref : EventRef} {x : Exchange σ} (hi : l.waiters[i]? = some w)
    (hstage : w.stage = .arrived) (hnext : l.exchange.next w.id = (some ref, x)) :
    (l.run (turn i)).exchange = x ∧
      (l.run (turn i)).waiters[i]? =
        some { w with stage := .ended (some ref), calls := [] } := by
  have hserved := proceed_served (waiters_place hi { w with stage := .registered, calls := [] })
    rfl hnext
  rw [place_place] at hserved
  rw [run_turn, proceed_arrived hi hstage, hserved]
  generalize hm : ({ l.place i _ with exchange := x, taken := _ } : SubscriptionWaits σ) = m
  have hdone : m.waiters[i]? = some { w with stage := .ended (some ref), calls := [] } := by
    rw [← hm]
    exact waiters_place hi _
  rw [proceed_ended hdone rfl, proceed_ended hdone rfl, proceed_ended hdone rfl]
  exact ⟨by rw [← hm], hdone⟩

/-- Who finds nothing leaves at once if the subscription is closed or time is up, and goes to
sleep otherwise. -/
theorem turn_unserved {x : Exchange σ} (hi : l.waiters[i]? = some w)
    (hstage : w.stage = .arrived) (hnext : l.exchange.next w.id = (none, x)) :
    (l.run (turn i)).exchange = l.exchange ∧
      (l.run (turn i)).waiters[i]? = some
        { w with
          stage :=
            if !l.exchange.dispatcher.isOpen w.id || l.isDue w then .ended none else .asleep
          calls := [] } := by
  have hunserved := proceed_unserved
    (waiters_place hi { w with stage := .registered, calls := [] }) rfl hnext
  rw [place_place] at hunserved
  rw [run_turn, proceed_arrived hi hstage, hunserved, proceed_place hi (by simp)]
  cases hopen : l.exchange.dispatcher.isOpen w.id with
  | false =>
    simp only [advance, hopen]
    rw [proceed_ended (waiters_place hi _) rfl, proceed_ended (waiters_place hi _) rfl]
    exact ⟨rfl, waiters_place hi _⟩
  | true =>
    simp only [advance, hopen]
    rw [proceed_place hi (by simp)]
    simp only [advance]
    rw [proceed_place hi (by simp [Waiter.called])]
    exact ⟨rfl, waiters_place hi _⟩

end SubscriptionWaits

/-- The turn of a wait in a session is such a turn. What is taken is looked at and let go. -/
theorem Session.pollWait_turn {π : Type} (s : Session σ π) (w : Wait) {l : SubscriptionWaits σ}
    {i : Nat} (hexchange : l.exchange = s.hub.exchange) (hnow : l.now = s.time)
    (hi : l.waiters[i]? = some { id := w.id, deadline := w.deadline })
    (hlive : ∀ ref ∈ l.exchange.dispatcher.queue w.id, s.view ref ≠ none) :
    let after := l.run (SubscriptionWaits.turn i)
    let ended (stage : Stage) : Prop :=
      after.waiters[i]? = some { id := w.id, deadline := w.deadline, stage }
    (∃ ref, ended (.ended (some ref)) ∧ (s.pollWait w).1 = some (s.view ref) ∧
      (s.pollWait w).2.hub.exchange = after.exchange.release ref) ∨
    (ended (.ended none) ∧ (s.pollWait w).1 = some none ∧
      (s.pollWait w).2.hub.exchange = after.exchange) ∨
    (ended .asleep ∧ (s.pollWait w).1 = none ∧
      (s.pollWait w).2.hub.exchange = after.exchange) := by
  intro after ended
  cases hnext : l.exchange.next w.id with
  | mk found x =>
    have hhub : s.hub.next w.id = (found, { s.hub with exchange := x }) := by
      unfold Hub.next
      rw [← hexchange, hnext]
    cases found with
    | some ref =>
      obtain ⟨hafter, hdone⟩ := SubscriptionWaits.turn_served hi rfl hnext
      have hyields := Exchange.next_some hnext
      obtain ⟨event, hview⟩ := Option.ne_none_iff_exists'.mp
        (hlive ref (by rw [hyields.queue]; exact List.mem_cons_self))
      have hstill : x.events.find? ref = some event := by
        rw [hyields.events, hexchange]
        exact hview
      refine .inl ⟨ref, hdone, ?_⟩
      rw [hafter, hview]
      simp only [pollWait, takeNext, hhub, view, Hub.events, hstill]
      exact ⟨trivial, rfl⟩
    | none =>
      obtain ⟨hafter, hended⟩ := SubscriptionWaits.turn_unserved hi rfl hnext
      obtain ⟨-, rfl⟩ := Exchange.next_none hnext
      have hdue : l.isDue { id := w.id, deadline := w.deadline } = s.isDue w := by
        unfold SubscriptionWaits.isDue isDue
        rw [hnow]
      rw [hdue] at hended
      rw [hafter]
      have hpoll : s.pollWait w =
          (if !l.exchange.dispatcher.isOpen w.id || s.isDue w then some none else none,
            { s with hub := { s.hub with exchange := l.exchange } }) := by
        simp only [pollWait, takeNext, hhub]
        rw [← apply_ite (fun found => (found, _))]
        rfl
      rw [hpoll]
      split at hended
      · rename_i hdone
        exact .inr (.inl ⟨hended, if_pos hdone, rfl⟩)
      · rename_i hdone
        exact .inr (.inr ⟨hended, if_neg hdone, rfl⟩)

end HomeGateway
