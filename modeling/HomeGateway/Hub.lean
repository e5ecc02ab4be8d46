import HomeGateway.Catalog.Builtin
import HomeGateway.Config
import HomeGateway.Device.Registry
import HomeGateway.Subscription.Exchange

/-!
The hub: known devices, live events and subscriptions together. Payloads come in and become
events; commands go out and leave an event behind.
-/

namespace HomeGateway

structure Hub (σ : Type) where
  config : HubConfig
  registry : Registry
  exchange : Exchange σ
  /-- The time of the clock, in seconds since 1970. -/
  now : UInt32

namespace Hub

variable {σ : Type}

/-- An empty hub, if the configuration makes sense. -/
def new (config : HubConfig) (capability? : DeviceType → Option Capability) (now : UInt32) :
    Except ConfigError (Hub σ) :=
  match config.check with
  | .error e => .error e
  | .ok () =>
    .ok
      { config
        registry := .new config.maxDevices.toNat capability?
          (.ofConfig config.rooms config.roomAssocs)
        exchange :=
          { events := .new config.maxEvents.toNat config.dataHeapLimit
            dispatcher := .new config.maxSubscriptions.toNat
            counters := {} }
        now }

def events (hub : Hub σ) : EventStore := hub.exchange.events

def counters (hub : Hub σ) : Counters := hub.exchange.counters

def withEvents (hub : Hub σ) (events : EventStore) : Hub σ :=
  { hub with exchange := { hub.exchange with events } }

def count (hub : Hub σ) (f : Counters → Counters) : Hub σ :=
  { hub with exchange := { hub.exchange with counters := f hub.exchange.counters } }

def updateDevice (hub : Hub σ) (index : Nat) (f : Device → Device) : Hub σ :=
  { hub with registry := hub.registry.update index f }

/-- Lets go of an event. -/
def release (hub : Hub σ) (ref : EventRef) : Hub σ :=
  { hub with exchange := hub.exchange.release ref }

/-- Finds or adds the device at an address; a failure is counted. -/
def register (hub : Hub σ) (addr : DeviceAddr) : Except (Halt RegistryError) Nat × Hub σ :=
  let (result, registry) := hub.registry.register addr hub.now
  let hub := { hub with registry }
  match result with
  | .error (.error cause) => (result, hub.count fun c => c.registrationFailed cause)
  | _ => (result, hub)

/-- Turns a payload into a live data event of a device. A failure gives back all that was
taken on the way. -/
def ingest (store : EventStore) (device : Device) (payload : Payload) (now : UInt32) :
    Except IngestError (EventRef × Nat) × EventStore :=
  match store.takeSlot with
  | .error _ => (.error .poolExhausted, store)
  | .ok (slot, store) =>
    match device.route payload with
    | .error e => (.error e, store.freeSlot slot)
    | .ok (index, config) =>
      match store.reserve config.dataSize with
      | .error _ => (.error (.noMemory config.dataSize.toNat), store.freeSlot slot)
      | .ok store =>
        match config.decode payload with
        | .error e =>
          (.error e, { store with budget := store.budget.release config.dataSize }.freeSlot slot)
        | .ok decoded =>
          let received := if payload.timestamp = 0 then now else payload.timestamp
          let (ref, store) := store.freeze slot (some config.dataSize)
            { kind := .data
              timestamp := decoded.timestamp.getD received
              origin := some (device.origin index)
              reading := some decoded.reading }
          (.ok (ref, index), store)

/-- Counts a dropped event, on the device and over all. -/
def countFailure (hub : Hub σ) (index : Nat) (cause : IngestError) (command : Bool) : Hub σ :=
  (hub.updateDevice index fun d => { d with stats := d.stats.fail cause }).count fun c =>
    c.eventDropped cause command

/-- Makes an event the one that an endpoint keeps, and lets go of the one before. -/
def retain (hub : Hub σ) (index endpoint : Nat) (ref : EventRef) : Hub σ :=
  let earlier := (hub.registry.devices[index]?).bind fun d => d.retained? endpoint
  let hub := hub.withEvents (hub.events.hold ref)
  let hub := hub.updateDevice index fun d => d.retain endpoint ref
  match earlier with
  | some ref => hub.release ref
  | none => hub

/-- Makes the event of a payload of the device at a position. The endpoint keeps it if it is
told to; the answer says so. The hub holds the event until it is dispatched. -/
def absorb (hub : Hub σ) (index : Nat) (device : Device) (payload : Payload) :
    Except IngestError (EventRef × Bool) × Hub σ :=
  match ingest hub.events device payload hub.now with
  | (.error cause, events) => (.error cause, (hub.withEvents events).countFailure index cause false)
  | (.ok (ref, endpoint), events) =>
    let hub := (hub.withEvents events).updateDevice index fun d =>
      { d with stats := d.stats.receive payload.bytes.length }
    let retains := (device.config? endpoint).any EndpointConfig.retains
    (.ok (ref, retains), if retains then hub.retain index endpoint ref else hub)

/-- Makes the event of a payload from the device at an address, which is added if it is not
known. A zero timestamp stands for now. -/
def intake (hub : Hub σ) (addr : DeviceAddr) (payload : Payload) :
    Except (Halt Error) (EventRef × Bool) × Hub σ :=
  match hub.register addr with
  | (.error (.error cause), hub) => (.error (.error (.registry cause)), hub)
  | (.error .abort, hub) => (.error .abort, hub)
  | (.ok index, hub) =>
    match hub.registry.devices[index]? with
    | none => (.error (.error (.registry .deviceNotFound)), hub)
    | some device =>
      match hub.absorb index device payload with
      | (.error cause, hub) => (.error (.error (.ingest cause)), hub)
      | (.ok made, hub) => (.ok made, hub)

/-- Makes the event of a command, if a slot is free. -/
def report (hub : Hub σ) (event : Event) : Option EventRef × Hub σ :=
  match hub.events.takeSlot with
  | .error e => (none, hub.count fun c => c.eventDropped e.toIngest true)
  | .ok (slot, events) =>
    let (ref, events) := events.freeze slot none event
    (some ref, hub.withEvents events)

/-- Encodes a command for an endpoint of a known device, and makes an event that carries the
value, or the failure. -/
def order (hub : Hub σ) (addr : DeviceAddr) (endpoint : Nat) (value : DataValue) :
    Except Error (List UInt8) × Option EventRef × Hub σ :=
  match hub.registry.lookup? addr with
  | none => (.error (.registry .deviceNotFound), none, hub)
  | some (index, device) =>
    match device.encode endpoint value with
    | .ok (frame, assignment) =>
      let hub := hub.updateDevice index fun d => { d with stats := d.stats.send frame.length }
      (.ok frame, hub.report
        { kind := .command
          timestamp := hub.now
          origin := some (device.origin endpoint)
          aux := [{ assignment, value }] })
    | .error cause =>
      (.error (.ingest cause), (hub.countFailure index cause true).report
        { kind := .error
          timestamp := hub.now
          origin := some (device.origin endpoint)
          failure := some cause })

/-- Dispatches an event that its maker holds, and lets go of it. -/
def dispatch (hub : Hub σ) (ref : EventRef) (retained : Bool) (client : σ) : Nat × Hub σ × σ :=
  let (matched, exchange, client) := hub.exchange.publish ref client
  let hub := { hub with exchange }
  let hub := hub.count fun c => c.eventDispatched (matched ≠ 0 || retained)
  (matched, hub.release ref, client)

/-- Takes a payload and dispatches its event. The answer is the number of subscriptions that
got it. -/
def receive (hub : Hub σ) (addr : DeviceAddr) (bytes : List UInt8) (timestamp : UInt32)
    (client : σ) : Except (Halt Error) Nat × Hub σ × σ :=
  match hub.intake addr { bytes, timestamp } with
  | (.error halt, hub) => (.error halt, hub, client)
  | (.ok (ref, retained), hub) =>
    let (matched, hub, client) := hub.dispatch ref retained client
    (.ok matched, hub, client)

/-- Encodes a command. The caller gets the frame to send; the event is dispatched. -/
def command (hub : Hub σ) (addr : DeviceAddr) (endpoint : Nat) (value : DataValue) (client : σ) :
    Except Error (List UInt8) × Hub σ × σ :=
  match hub.order addr endpoint value with
  | (result, none, hub) => (result, hub, client)
  | (result, some ref, hub) =>
    let (_, hub, client) := hub.dispatch ref false client
    (result, hub, client)

def subscribe (hub : Hub σ) (conf : SubscriptionConf σ) : Except Error Nat × Hub σ :=
  let (result, exchange) := hub.exchange.subscribe conf
  let hub := { hub with exchange }
  match result with
  | .ok id => (.ok id, hub)
  | .error cause => (.error (.subscription cause), hub)

def unsubscribe (hub : Hub σ) (id : Nat) : Hub σ :=
  { hub with exchange := hub.exchange.unsubscribe id }

def next (hub : Hub σ) (id : Nat) : Option EventRef × Hub σ :=
  let (ref, exchange) := hub.exchange.next id
  (ref, { hub with exchange })

def takeNews (hub : Hub σ) : List Nat × Hub σ :=
  let (news, exchange) := hub.exchange.takeNews
  (news, { hub with exchange })

def snapshot (hub : Hub σ) : Snapshot where
  counters := hub.counters
  memory :=
    { events := hub.events.slots.inUse
      eventsFree := hub.events.slots.available
      devices := hub.registry.devices.length
      devicesFree := hub.registry.capacity - hub.registry.devices.length
      subscriptions := hub.exchange.dispatcher.slots.inUse
      subscriptionsFree := hub.exchange.dispatcher.slots.available
      dataUsed := hub.events.budget.used
      dataLimit := hub.events.budget.limit
      dataPeak := hub.events.budget.peak }

end Hub

end HomeGateway
