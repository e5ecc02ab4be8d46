import HomeGateway.Bus.Controller
import HomeGateway.Survey

/-!
A session with a gateway under a virtual clock: a hub, perhaps a bus, and a client who holds
events and waits for some, all under names. Time passes only when the client sleeps or waits.
-/

namespace HomeGateway

/-- The value under a key. -/
def lookupName {α : Type} (name : String) (entries : List (String × α)) : Option α :=
  (entries.find? fun entry => entry.1 == name).map Prod.snd

/-- Puts a value in place of the one under a key. -/
def replaceName {α : Type} (name : String) (value : α) (entries : List (String × α)) :
    List (String × α) :=
  entries.filter (fun entry => entry.1 != name) ++ [(name, value)]

def eraseName {α : Type} (name : String) (entries : List (String × α)) : List (String × α) :=
  entries.filter fun entry => entry.1 != name

/-- A wait for the next event of a subscription; without a name, the one that the client
itself is blocked in. Alarms for the same instant ring in the order in which they were set;
`senior` says that this one was set before that of the bus. -/
structure Wait where
  name : Option String
  id : Nat
  deadline : Option Instant
  senior : Bool := false

/-- The end of something that went on in the background. -/
inductive Finding where
  | reply (result : Except QueryError QueryReply)
  | event (found : Option StoredEvent)

structure Finished where
  name : String
  time : Instant
  finding : Finding

/-- `client` is the state that filters and hooks work on, `names` are those of subscriptions. -/
structure Session (σ π : Type) where
  hub : Hub σ
  client : σ
  names : List (String × Nat)
  handles : List (String × EventRef)
  bus : Option (Controller π)
  /-- Whether telemetry on the bus goes to the hub. -/
  attached : Bool
  time : Instant
  queryNames : List (Nat × String)
  /-- What goes on in the background, the longest wait first. -/
  waits : List Wait
  /-- Waits in the background that will have their turn, in order. -/
  ready : List Wait
  /-- The wait that the client itself is blocked in. -/
  own : Option Wait
  finished : List Finished
  /-- How the client's own wait ended. -/
  answer : Option (Option StoredEvent)

namespace Session

variable {σ π : Type}

def start (hub : Hub σ) (client : σ) (bus : Option (Controller π)) (attached : Bool) :
    Session σ π :=
  { hub, client, names := [], handles := [], bus, attached, time := 0, queryNames := [],
    waits := [], ready := [], own := none, finished := [], answer := none }

/-- A live event as it is now. -/
def view (s : Session σ π) (ref : EventRef) : Option StoredEvent := s.hub.events.find? ref

def release (s : Session σ π) (ref : EventRef) : Session σ π :=
  { s with hub := s.hub.release ref }

/-- Whether a wait refers to a subscription. -/
def isAwaited (s : Session σ π) (id : Nat) : Bool :=
  (s.own.toList ++ s.ready ++ s.waits).any fun w => w.id = id

/-- Closes a subscription that neither a name nor a wait refers to any more. -/
def dropUnused (s : Session σ π) (id : Nat) : Session σ π :=
  if (s.names.any fun entry => entry.2 = id) || s.isAwaited id then s
  else { s with hub := s.hub.unsubscribe id }

/-- Takes the next event of a subscription, looks at it and lets it go. -/
def takeNext (s : Session σ π) (id : Nat) : Option StoredEvent × Session σ π :=
  match s.hub.next id with
  | (none, hub) => (none, { s with hub })
  | (some ref, hub) =>
    let s := { s with hub }
    (s.view ref, s.release ref)

/-- Feeds telemetry to the hub. What becomes of it is of no interest to the bus, unless it
takes the worker down. -/
def forward (frame : BusFrame) (state : Hub σ × σ) : Option (Hub σ × σ) :=
  match state.1.receive (.bus frame.did) frame.payload 0 state.2 with
  | (.error .abort, _, _) => none
  | (_, hub, client) => some (hub, client)

/-- Lets the bus do what it can at this instant. -/
def settleBus [BusProtocol π] (s : Session σ π) : Session σ π :=
  match s.bus with
  | none => s
  | some bus =>
    -- The bus will set its alarm anew, after all those that are set now.
    let waits :=
      if bus.isWoken s.time then s.waits.map fun w => { w with senior := true } else s.waits
    let feed := if s.attached then forward else fun _ state => some state
    let (bus, hub, client) := bus.settle feed s.time (s.hub, s.client)
    let (ended, bus) := bus.takeEnded
    let finished := ended.filterMap fun (ticket, result) =>
      (s.queryNames.find? fun entry => entry.1 = ticket).map fun (_, name) =>
        ({ name, time := s.time, finding := .reply result } : Finished)
    { s with bus := some bus, hub, client, waits, finished := s.finished ++ finished }

/-- Whether time is up for a wait. -/
def isDue (s : Session σ π) (w : Wait) : Bool := w.deadline.any fun due => due ≤ s.time

/-- How a wait ends, if it does: with an event, or without one at its deadline or because the
subscription is closed. -/
def pollWait (s : Session σ π) (w : Wait) : Option (Option StoredEvent) × Session σ π :=
  match s.takeNext w.id with
  | (some found, s) => (some (some found), s)
  | (none, s) =>
    if !s.hub.exchange.dispatcher.isOpen w.id || s.isDue w then (some none, s) else (none, s)

/-- Notes how a wait ended. -/
def conclude (s : Session σ π) (w : Wait) (found : Option StoredEvent) : Session σ π :=
  let s : Session σ π :=
    match w.name with
    | some name =>
      { s with finished := s.finished ++ [{ name, time := s.time, finding := .event found }] }
    | none => { s with answer := some found }
  s.dropUnused w.id

/-- Readies some of the waits in the background. -/
def rouse (s : Session σ π) (which : Wait → Bool) : Session σ π :=
  let (roused, waits) := s.waits.partition which
  { s with waits, ready := s.ready ++ roused }

/-- Readies the waits at subscriptions that had news, in the order of the news. -/
def heedNews (s : Session σ π) : Session σ π :=
  let (news, hub) := s.hub.takeNews
  news.foldl (fun s id => s.rouse fun w => w.id = id) { s with hub }

/-- Gives each of these waits its turn. One that does not end then waits on. -/
def takeTurns : List Wait → Session σ π → Session σ π
  | [], s => { s with ready := [] }
  | w :: rest, s =>
    let (ended, s) := { s with ready := rest }.pollWait w
    takeTurns rest
      (match ended with
        | none => { s with waits := s.waits ++ [w] }
        | some found => s.conclude w found)

/-- Readies the waits that there is news for, and gives all that are ready their turns. -/
def runReady (s : Session σ π) : Session σ π :=
  let s := s.heedNews
  takeTurns s.ready s

/-- Gives the client's own wait its turn, if it is blocked in one. -/
def runOwn (s : Session σ π) : Session σ π :=
  match s.own with
  | none => s
  | some w =>
    match s.pollWait w with
    | (none, s) => s
    | (some found, s) => { s with own := none }.conclude w found

/-- Lets everything happen that can happen at this instant. Alarms come first, that of the
client before all others, and then those in the background in the order in which they were
set. What is woken meanwhile takes its turn after them, and the client comes last. -/
def settle [BusProtocol π] (s : Session σ π) : Session σ π :=
  let s := if s.own.any s.isDue then s.runOwn else s
  let s := (s.rouse fun w => w.senior && s.isDue w).runReady
  let s := s.rouse s.isDue
  s.settleBus.runReady.runOwn

/-- When something is due next. -/
def nextDue [BusProtocol π] (s : Session σ π) : Option Instant :=
  let bus := s.bus.bind Controller.nextDue
  (bus.toList ++ (s.own.toList ++ s.waits).filterMap Wait.deadline).min?

/-- Lets time pass up to `target`, from one due instant to the next, or until the client's
own wait is over. -/
def passTime [BusProtocol π] (target : Instant) (now : Instant) (s : Session σ π) :
    Session σ π :=
  if s.answer.isSome then s
  else
    match s.nextDue with
    | none => { s with time := target }
    | some due =>
      if h : now < due ∧ due ≤ target then
        have : target - due < target - now :=
          Nat.sub_lt_sub_left (Nat.lt_of_lt_of_le h.1 h.2) h.1
        passTime target due { s with time := due }.settle
      else { s with time := target }
termination_by target - now

def sleep [BusProtocol π] (s : Session σ π) (ms : Nat) : Session σ π :=
  s.passTime (s.time + Duration.ofMillis ms) s.time

end Session

end HomeGateway
