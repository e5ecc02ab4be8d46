import HomeGateway.Feed
import HomeGateway.Session.Basic

/-! What the client of a session does. -/

namespace HomeGateway.Session

variable {σ π : Type}

def idOf? (s : Session σ π) (name : String) : Option Nat := lookupName name s.names

/-! Payloads and commands -/

def receive (s : Session σ π) (addr : DeviceAddr) (bytes : List UInt8) (timestamp : UInt32) :
    Except (Halt Error) Nat × Session σ π :=
  let (result, hub, client) := s.hub.receive addr bytes timestamp s.client
  (result, { s with hub, client })

/-- The same payload `count` times, a second apart, until one is refused. The answer is the
number of deliveries. -/
def receiveMany (addr : DeviceAddr) (bytes : List UInt8) :
    Nat → UInt32 → Nat → Session σ π → Except (Halt Error) Nat × Session σ π
  | 0, _, sum, s => (.ok sum, s)
  | count + 1, timestamp, sum, s =>
    match s.receive addr bytes timestamp with
    | (.error halt, s) => (.error halt, s)
    | (.ok matched, s) => receiveMany addr bytes count (timestamp + 1) (sum + matched) s

def command (s : Session σ π) (addr : DeviceAddr) (endpoint : Nat) (value : DataValue) :
    Except Error (List UInt8) × Session σ π :=
  let (result, hub, client) := s.hub.command addr endpoint value s.client
  (result, { s with hub, client })

def register (s : Session σ π) (addr : DeviceAddr) :
    Except (Halt RegistryError) Nat × Session σ π :=
  let (result, hub) := s.hub.register addr
  (result, { s with hub })

def receiveRecord (s : Session σ π) (addr : BleAddr) (record : ThermometerRecord) :
    Except (Halt Error) Nat × Session σ π :=
  let (result, hub, client) := s.hub.receiveRecord addr record s.client
  (result, { s with hub, client })

def receiveTelemetry (s : Session σ π) (did : BusDeviceId) (frame : List UInt8)
    (timestamp : UInt32) : Except (Halt Error) Nat × Session σ π :=
  let (result, hub, client) := s.hub.receiveTelemetry did frame timestamp s.client
  (result, { s with hub, client })

def receiveDie (s : Session σ π) (bits timestamp : UInt32) :
    Except (Halt Error) Nat × Session σ π :=
  let (result, hub, client) := s.hub.receiveDie bits timestamp s.client
  (result, { s with hub, client })

/-- A kept event, held while it is looked at. -/
def peek (s : Session σ π) (ref : EventRef) : Option StoredEvent :=
  (s.hub.events.hold ref).find? ref

/-- What a survey of the client notes of a device: its id, and the pinned events as they are
during the visit. -/
structure Sighting where
  session : SessionId
  pinned : List (Option StoredEvent)

/-- Visits devices and notes what is there, and breaks off after `limit` visits. The first
visit registers the devices at some addresses. -/
def sight (limit : Option Nat) (newcomers : List DeviceAddr) (visit : Visit) (hub : Hub σ)
    (seen : List Sighting) : Bool × Hub σ × List Sighting :=
  match hub.registry.devices[visit.index]? with
  | none => (true, hub, seen)
  | some device =>
    let pinned := visit.pinned.map fun ref => ref.bind hub.events.find?
    let hub :=
      if seen.isEmpty then newcomers.foldl (fun hub addr => (hub.register addr).2) hub else hub
    let seen := seen ++ [{ session := device.session, pinned }]
    (limit.any fun n => n ≤ seen.length, hub, seen)

def survey (s : Session σ π) (selection : Selection) (pinMask : UInt32) (limit : Option Nat)
    (newcomers : List DeviceAddr) : Except Error (Nat × List Sighting) × Session σ π :=
  let (result, hub, seen) := s.hub.survey selection pinMask (sight limit newcomers) []
  (result.map fun count => (count, seen), { s with hub })

/-! Subscriptions -/

/-- Subscribes under a name. An earlier subscription of that name is dropped then. -/
def subscribe (s : Session σ π) (name : String) (conf : SubscriptionConf σ) :
    Except Error Nat × Session σ π :=
  match s.hub.subscribe conf with
  | (.error e, hub) => (.error e, { s with hub })
  | (.ok id, hub) =>
    let earlier := s.idOf? name
    let s := { s with hub, names := replaceName name id s.names }
    (.ok id,
      match earlier with
      | some id => s.dropUnused id
      | none => s)

def unsubscribe (s : Session σ π) (name : String) : Session σ π :=
  match s.idOf? name with
  | some id => { s with hub := s.hub.unsubscribe id }
  | none => s

/-- The number of queued events, and whether the subscription is open. -/
def pending (s : Session σ π) (name : String) : Option (Nat × Bool) :=
  (s.idOf? name).map fun id =>
    ((s.hub.exchange.dispatcher.queue id).length, s.hub.exchange.dispatcher.isOpen id)

/-- Forgets a subscription. -/
def drop (s : Session σ π) (name : String) : Session σ π :=
  match s.idOf? name with
  | none => s
  | some id => { s with names := eraseName name s.names }.dropUnused id

/-! Events in hand -/

/-- Keeps an event under a name and lets go of an earlier one. -/
def keep (s : Session σ π) (name : String) (ref : EventRef) : Session σ π :=
  let earlier := lookupName name s.handles
  let s := { s with handles := replaceName name ref s.handles }
  match earlier with
  | some ref => s.release ref
  | none => s

def next (s : Session σ π) (name : String) : Option StoredEvent × Session σ π :=
  match s.idOf? name with
  | none => (none, s)
  | some id => s.takeNext id

/-- Takes the next event and keeps it. -/
def hold (s : Session σ π) (subscription name : String) : Option StoredEvent × Session σ π :=
  match s.idOf? subscription with
  | none => (none, s)
  | some id =>
    match s.hub.next id with
    | (none, hub) => (none, { s with hub })
    | (some ref, hub) =>
      let s := { s with hub }
      (s.view ref, s.keep name ref)

def show? (s : Session σ π) (name : String) : Option StoredEvent :=
  (lookupName name s.handles).bind s.view

/-- Lets go of an event. The answer is the number of holders before. -/
def letGo (s : Session σ π) (name : String) : Option Nat × Session σ π :=
  match lookupName name s.handles with
  | none => (none, s)
  | some ref =>
    (some (s.hub.events.holders ref),
      { s with handles := eraseName name s.handles }.release ref)

/-- Holds an event once more, under another name. The answer is the number of holders then. -/
def duplicate (s : Session σ π) (name copy : String) : Option Nat × Session σ π :=
  match lookupName name s.handles with
  | none => (none, s)
  | some ref =>
    let s := { s with hub := s.hub.withEvents (s.hub.events.hold ref) }
    (some (s.hub.events.holders ref), s.keep copy ref)

def sameEvent (s : Session σ π) (a b : String) : Option Bool := do
  let x ← lookupName a s.handles
  let y ← lookupName b s.handles
  return x = y

/-- Takes all queued events, each let go before the next. -/
def drainFrom : Nat → Nat → Session σ π → List StoredEvent × Session σ π
  | 0, _, s => ([], s)
  | left + 1, id, s =>
    match s.takeNext id with
    | (none, s) => ([], s)
    | (some found, s) =>
      let (rest, s) := drainFrom left id s
      (found :: rest, s)

def drain (s : Session σ π) (name : String) : List StoredEvent × Session σ π :=
  match s.idOf? name with
  | none => ([], s)
  | some id => drainFrom (s.hub.exchange.dispatcher.queue id).length id s

/-- Makes an event by hand and dispatches it. It stays under a name, if there is one. -/
def emit (s : Session σ π) (event : Event) (lease : Option UInt64) (name : Option String) :
    Except PoolError (Nat × Option StoredEvent) × Session σ π :=
  match s.hub.events.takeSlot with
  | .error e => (.error e, s)
  | .ok (slot, store) =>
    let reserved : Except PoolError EventStore :=
      match lease with
      | none => .ok store
      | some size => store.reserve size
    match reserved with
    | .error e => (.error e, { s with hub := s.hub.withEvents (store.freeSlot slot) })
    | .ok store =>
      let (ref, store) := store.freeze slot lease event
      let hub := s.hub.withEvents store
      let (matched, exchange, client) := hub.exchange.publish ref s.client
      let s := { s with hub := { hub with exchange }, client }
      let found := s.view ref
      (.ok (matched, found),
        match name with
        | some name => s.keep name ref
        | none => s.release ref)

/-! Waiting -/

/-- Blocks until an event comes, the subscription is closed or time is up. The answer is the
event and the time that passed. -/
def wait [BusProtocol π] (s : Session σ π) (name : String) (ms : Nat) :
    Option StoredEvent × Duration × Session σ π :=
  match s.idOf? name with
  | none => (none, 0, s)
  | some id =>
    let start := s.time
    let deadline := start + Duration.ofMillis ms
    let w : Wait := { name := none, id, deadline := some deadline }
    match s.pollWait w with
    | (some found, s) => (found, 0, s)
    | (none, s) =>
      let s := passTime deadline start { s with own := some w }
      (s.answer.getD none, s.time - start, { s with own := none, answer := none })

/-- Waits in the background. -/
def waitBehind (s : Session σ π) (subscription name : String) (ms : Option Nat) : Session σ π :=
  match s.idOf? subscription with
  | none => s
  | some id =>
    let deadline := ms.map fun ms => s.time + Duration.ofMillis ms
    { s with ready := s.ready ++ [{ name := some name, id, deadline }] }

/-! The bus -/

/-- Starts a query under a name. -/
def query (s : Session σ π) (name : String) (did : BusDeviceId) (frame : BusFrame)
    (timeoutMs : Nat) : Except QueryError Unit × Session σ π :=
  match s.bus with
  | none => (.error .workerStopped, s)
  | some bus =>
    match bus.query did frame timeoutMs s.time with
    | (.error e, bus) => (.error e, { s with bus := some bus })
    | (.ok ticket, bus) =>
      (.ok (), { s with bus := some bus, queryNames := (ticket, name) :: s.queryNames })

def busSend (s : Session σ π) (did : BusDeviceId) (frame : BusFrame) :
    Except QueryError Unit × Session σ π :=
  match s.bus with
  | none => (.error .workerStopped, s)
  | some bus =>
    let (result, bus) := bus.send did frame
    (result, { s with bus := some bus })

/-- Hands a frame to the worker. -/
def deliver (s : Session σ π) (frame : RawFrame) : Delivery × Session σ π :=
  match s.bus with
  | none => (.closed, s)
  | some bus =>
    let (delivery, bus) := bus.deliver frame
    (delivery, { s with bus := some bus })

/-- Looks at the protocol, or changes it. -/
def onProtocol {α : Type} (s : Session σ π) (fallback : α) (f : π → α × π) :
    α × Session σ π :=
  match s.bus with
  | none => (fallback, s)
  | some bus =>
    let (result, protocol) := f bus.worker.protocol
    (result, { s with bus := some { bus with worker := { bus.worker with protocol } } })

def shutdown (s : Session σ π) : Session σ π := { s with bus := s.bus.map Controller.stop }

/-- What ended in the background since it was last asked, sorted by name. -/
def takeFinished (s : Session σ π) : List Finished × Session σ π :=
  (s.finished.mergeSort fun a b => a.name ≤ b.name, { s with finished := [] })

end HomeGateway.Session
