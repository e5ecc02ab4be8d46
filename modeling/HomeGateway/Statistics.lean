import HomeGateway.Error

/-! Counters. They wrap at 32 bits and are never reset. -/

namespace HomeGateway

structure Counters where
  /-- Events that were dispatched. -/
  events : UInt32 := 0
  registrationsDropped : UInt32 := 0
  deviceListFull : UInt32 := 0
  unsupportedType : UInt32 := 0
  setupRefused : UInt32 := 0
  noEndpointDeclared : UInt32 := 0
  tooManyEndpoints : UInt32 := 0
  eventsDropped : UInt32 := 0
  dataDropped : UInt32 := 0
  commandsDropped : UInt32 := 0
  noEventSlot : UInt32 := 0
  noEndpointSelected : UInt32 := 0
  badEndpoint : UInt32 := 0
  badPayloadSize : UInt32 := 0
  noDataMemory : UInt32 := 0
  notDecoded : UInt32 := 0
  /-- Events that nobody kept. -/
  neverReferenced : UInt32 := 0
  subscriptionsRefused : UInt32 := 0
  deriving DecidableEq

namespace Counters

/-- A failed registration, by its cause. -/
def registrationFailed (c : Counters) (cause : RegistryError) : Counters :=
  let c := { c with registrationsDropped := c.registrationsDropped + 1 }
  match cause with
  | .outOfCapacity _ => { c with deviceListFull := c.deviceListFull + 1 }
  | .unsupportedType _ => { c with unsupportedType := c.unsupportedType + 1 }
  | .endpointInit _ => { c with setupRefused := c.setupRefused + 1 }
  | .noEndpoints => { c with noEndpointDeclared := c.noEndpointDeclared + 1 }
  | .tooManyEndpoints _ _ => { c with tooManyEndpoints := c.tooManyEndpoints + 1 }
  | .noDevices => c
  | .deviceNotFound => c

/-- A dropped event, by its cause and by whether it came from a command. -/
def eventDropped (c : Counters) (cause : IngestError) (command : Bool) : Counters :=
  let c := { c with eventsDropped := c.eventsDropped + 1 }
  let c :=
    if command then { c with commandsDropped := c.commandsDropped + 1 }
    else { c with dataDropped := c.dataDropped + 1 }
  match cause with
  | .poolExhausted => { c with noEventSlot := c.noEventSlot + 1 }
  | .noEndpoint => { c with noEndpointSelected := c.noEndpointSelected + 1 }
  | .invalidEndpoint _ => { c with badEndpoint := c.badEndpoint + 1 }
  | .noCommandHandler _ => { c with badEndpoint := c.badEndpoint + 1 }
  | .payloadSizeMismatch _ _ => { c with badPayloadSize := c.badPayloadSize + 1 }
  | .noMemory _ => { c with noDataMemory := c.noDataMemory + 1 }
  | .decode _ => { c with notDecoded := c.notDecoded + 1 }
  | .command _ => { c with notDecoded := c.notDecoded + 1 }

/-- A dispatched event, kept by somebody or not. -/
def eventDispatched (c : Counters) (kept : Bool) : Counters :=
  { c with
    events := c.events + 1
    neverReferenced := if kept then c.neverReferenced else c.neverReferenced + 1 }

def subscriptionRefused (c : Counters) : Counters :=
  { c with subscriptionsRefused := c.subscriptionsRefused + 1 }

end Counters

/-- One bit for each class of failure. -/
structure ErrorFlags where
  bits : UInt32
  deriving DecidableEq

namespace ErrorFlags

def none : ErrorFlags := ⟨0⟩
def noSlot : ErrorFlags := ⟨1⟩
def noEndpoint : ErrorFlags := ⟨2⟩
def badEndpoint : ErrorFlags := ⟨4⟩
def badSize : ErrorFlags := ⟨8⟩
def noData : ErrorFlags := ⟨16⟩
def ingest : ErrorFlags := ⟨32⟩

def isEmpty (flags : ErrorFlags) : Bool := flags.bits = 0

def contains (flags other : ErrorFlags) : Bool := flags.bits &&& other.bits = other.bits

def union (flags other : ErrorFlags) : ErrorFlags := ⟨flags.bits ||| other.bits⟩

def ofError : IngestError → ErrorFlags
  | .poolExhausted => noSlot
  | .noEndpoint => noEndpoint
  | .invalidEndpoint _ => badEndpoint
  | .noCommandHandler _ => badEndpoint
  | .payloadSizeMismatch _ _ => badSize
  | .noMemory _ => noData
  | .decode _ => ingest
  | .command _ => ingest

end ErrorFlags

/-- The traffic of one device. Flags stay set. -/
structure DeviceStats where
  received : UInt32 := 0
  receivedBytes : UInt32 := 0
  sent : UInt32 := 0
  sentBytes : UInt32 := 0
  failed : UInt32 := 0
  flags : ErrorFlags := .none
  deriving DecidableEq

namespace DeviceStats

/-- A length as a word, the largest word if it is none. -/
def lengthWord (length : Nat) : UInt32 := (min length 0xFFFFFFFF).toUInt32

def receive (s : DeviceStats) (length : Nat) : DeviceStats :=
  { s with received := s.received + 1, receivedBytes := s.receivedBytes + lengthWord length }

def send (s : DeviceStats) (length : Nat) : DeviceStats :=
  { s with sent := s.sent + 1, sentBytes := s.sentBytes + lengthWord length }

def fail (s : DeviceStats) (cause : IngestError) : DeviceStats :=
  { s with failed := s.failed + 1, flags := s.flags.union (.ofError cause) }

end DeviceStats

/-- What pools and budget hold at one time. -/
structure MemoryUsage where
  events : Nat
  eventsFree : Nat
  devices : Nat
  devicesFree : Nat
  subscriptions : Nat
  subscriptionsFree : Nat
  dataUsed : UInt64
  dataLimit : UInt64
  dataPeak : UInt64

structure Snapshot where
  counters : Counters
  memory : MemoryUsage

end HomeGateway
