import HomeGateway.Event.Store
import HomeGateway.Statistics
import HomeGateway.Subscription.Conf

/-!
Subscriptions and the dispatch of events to them. An event goes to the subscriptions that
were open when its dispatch began, in the order in which they were made, as far as they are
still open when their turn comes and want it.
-/

namespace HomeGateway

/-- An open subscription holds a slot and the events in its queue; a closed one holds
nothing. -/
structure Subscription (σ : Type) where
  id : Nat
  conf : SubscriptionConf σ
  isOpen : Bool
  queue : List EventRef
  slot : Option Nat

/-- `known` has every subscription that was ever made, `listed` the ids of those that events
go to, and `news` the ids of those that got an event or were closed since it was last asked,
in order. -/
structure Dispatcher (σ : Type) where
  known : List (Subscription σ)
  listed : List Nat
  slots : Pool
  nextId : Nat
  news : List Nat

/-- Live events, the subscriptions that hold them, and the counters. -/
structure Exchange (σ : Type) where
  events : EventStore
  dispatcher : Dispatcher σ
  counters : Counters

namespace Dispatcher

variable {σ : Type}

def new (capacity : Nat) : Dispatcher σ :=
  { known := [], listed := [], slots := .new "subscription" capacity, nextId := 1, news := [] }

def find? (d : Dispatcher σ) (id : Nat) : Option (Subscription σ) :=
  d.known.find? fun s => s.id = id

def isOpen (d : Dispatcher σ) (id : Nat) : Bool :=
  match d.find? id with
  | some s => s.isOpen
  | none => false

def queue (d : Dispatcher σ) (id : Nat) : List EventRef :=
  match d.find? id with
  | some s => s.queue
  | none => []

def update (d : Dispatcher σ) (id : Nat) (f : Subscription σ → Subscription σ) : Dispatcher σ :=
  { d with known := d.known.map fun s => if s.id = id then f s else s }

/-- Tells those who wait at a subscription to look again. -/
def announce (d : Dispatcher σ) (id : Nat) : Dispatcher σ := { d with news := d.news ++ [id] }

end Dispatcher

namespace Exchange

variable {σ : Type}

/-- Makes a subscription, if its criteria make sense and a slot is free. -/
def subscribe (x : Exchange σ) (conf : SubscriptionConf σ) :
    Except SubscriptionError Nat × Exchange σ :=
  match conf.criteria.check with
  | .error e => (.error e, x)
  | .ok () =>
    match x.dispatcher.slots.acquire with
    | .error _ => (.error .poolExhausted, { x with counters := x.counters.subscriptionRefused })
    | .ok (slot, slots) =>
      let id := x.dispatcher.nextId
      let subscription := { id, conf, isOpen := true, queue := [], slot := some slot }
      (.ok id,
        { x with
          dispatcher :=
            { x.dispatcher with
              known := x.dispatcher.known ++ [subscription]
              listed := x.dispatcher.listed ++ [id]
              slots
              nextId := id + 1 } })

/-- Closes a subscription: what is queued is released and its slot is free again. A closed
one stays as it is. -/
def unsubscribe (x : Exchange σ) (id : Nat) : Exchange σ :=
  match x.dispatcher.find? id with
  | none => x
  | some s =>
    if !s.isOpen then x
    else
      let d := x.dispatcher.update id fun s => { s with isOpen := false, queue := [], slot := none }
      { x with
        events := x.events.releaseAll s.queue
        dispatcher :=
          { d.announce id with
            listed := d.listed.filter fun other => other ≠ id
            slots := match s.slot with
              | some slot => d.slots.release slot
              | none => d.slots } }

/-- Takes the oldest queued event. Whoever takes it holds it in place of the queue. -/
def next (x : Exchange σ) (id : Nat) : Option EventRef × Exchange σ :=
  match x.dispatcher.queue id with
  | [] => (none, x)
  | ref :: rest =>
    (some ref, { x with dispatcher := x.dispatcher.update id fun s => { s with queue := rest } })

/-- Queues an event. -/
def push (x : Exchange σ) (id : Nat) (ref : EventRef) : Exchange σ :=
  { x with
    events := x.events.hold ref
    dispatcher :=
      (x.dispatcher.update id fun s => { s with queue := s.queue ++ [ref] }).announce id }

/-- The subscriptions that had news since it was last asked. -/
def takeNews (x : Exchange σ) : List Nat × Exchange σ :=
  (x.dispatcher.news, { x with dispatcher := { x.dispatcher with news := [] } })

/-- Lets go of an event. -/
def release (x : Exchange σ) (ref : EventRef) : Exchange σ :=
  { x with events := x.events.release ref }

/-- Carries out what a filter or hook asked for. -/
def perform (requests : List (SubscriptionRequest σ)) (x : Exchange σ) (client : σ) :
    Exchange σ × σ :=
  requests.foldl
    (fun (x, client) request =>
      match request with
      | .unsubscribe id => (x.unsubscribe id, client)
      | .subscribe conf told =>
        let (result, x) := x.subscribe conf
        (x, told result client))
    (x, client)

/-- Asks the filter of a subscription. -/
def consult (conf : SubscriptionConf σ) (seen : Seen) (x : Exchange σ) (client : σ) :
    Bool × Exchange σ × σ :=
  match conf.filter with
  | none => (true, x, client)
  | some filter =>
    let (accept, requests, client) := filter seen client
    let (x, client) := perform requests x client
    (accept, x, client)

def runHook (conf : SubscriptionConf σ) (seen : Seen) (x : Exchange σ) (client : σ) :
    Exchange σ × σ :=
  match conf.hook with
  | none => (x, client)
  | some hook =>
    let (requests, client) := hook seen client
    perform requests x client

/-- The turn of one subscription in the dispatch of `event`. Its own filter may close it, so
it is looked at again before the event is queued. The answer is whether it was. -/
def offer (ref : EventRef) (event : Event) (id : Nat) (x : Exchange σ) (client : σ) :
    Bool × Exchange σ × σ :=
  match x.dispatcher.find? id with
  | none => (false, x, client)
  | some s =>
    if !s.isOpen || !s.conf.criteria.fit event then (false, x, client)
    else
      let (accept, x, client) :=
        consult s.conf { event, holders := x.events.holders ref } x client
      if !accept || !x.dispatcher.isOpen id then (false, x, client)
      else
        let x := x.push id ref
        let (x, client) := runHook s.conf { event, holders := x.events.holders ref } x client
        (true, x, client)

/-- Offers an event to each of these subscriptions in turn and counts those that took it. -/
def offerAll (ref : EventRef) (event : Event) :
    List Nat → Exchange σ → σ → Nat × Exchange σ × σ
  | [], x, client => (0, x, client)
  | id :: rest, x, client =>
    let (taken, x, client) := offer ref event id x client
    let (count, x, client) := offerAll ref event rest x client
    (if taken then count + 1 else count, x, client)

/-- Dispatches a live event. -/
def publish (ref : EventRef) (x : Exchange σ) (client : σ) : Nat × Exchange σ × σ :=
  match x.events.find? ref with
  | none => (0, x, client)
  | some stored => offerAll ref stored.event x.dispatcher.listed x client

end Exchange

end HomeGateway
