import HomeGateway.Device.Endpoint
import HomeGateway.Device.Room
import HomeGateway.Event.Store
import HomeGateway.Statistics

/-! Registered devices. -/

namespace HomeGateway

/-- An endpoint of a device and the data event it keeps, if any. -/
structure Endpoint where
  config : EndpointConfig
  retained : Option EventRef

structure Device where
  session : SessionId
  addr : DeviceAddr
  registeredAt : UInt32
  select : Payload → Option Nat
  endpoints : List Endpoint
  room : Option RoomId
  stats : DeviceStats

namespace Device

/-- A device has at most this many endpoints. -/
def maxEndpoints : Nat := 2

def config? (d : Device) (index : Nat) : Option EndpointConfig :=
  d.endpoints[index]?.map Endpoint.config

def indexOf? (d : Device) (id : EndpointId) : Option Nat :=
  d.endpoints.findIdx? fun e => e.config.id = id

def retained? (d : Device) (index : Nat) : Option EventRef :=
  d.endpoints[index]?.bind Endpoint.retained

/-- The event kept by the first endpoint that keeps one. -/
def firstRetained? (d : Device) : Option EventRef :=
  d.endpoints.findSome? Endpoint.retained

def hasDataType (d : Device) (t : DataType) : Bool :=
  d.endpoints.any fun e => DataDescr.hasType e.config.dataDescrs t

def supportsData (d : Device) (index : Nat) : Bool :=
  (d.config? index).any EndpointConfig.supportsData

def supportsCommands (d : Device) (index : Nat) : Bool :=
  (d.config? index).any EndpointConfig.supportsCommands

/-- The kept events of the endpoints whose bit is set. -/
def pins (d : Device) (mask : UInt32) : List (Option EventRef) :=
  d.endpoints.mapIdx fun i e => if mask.toNat.testBit i then e.retained else none

def retain (d : Device) (index : Nat) (ref : EventRef) : Device :=
  { d with endpoints := d.endpoints.modify index fun e => { e with retained := some ref } }

/-- The endpoint that takes a payload. -/
def route (d : Device) (payload : Payload) : Except IngestError (Nat × EndpointConfig) :=
  match d.select payload with
  | none => .error .noEndpoint
  | some index =>
    match d.config? index with
    | none => .error (.invalidEndpoint index)
    | some config =>
      if config.payloadSize ≠ 0 ∧ payload.bytes.length ≠ config.payloadSize then
        .error (.payloadSizeMismatch config.payloadSize payload.bytes.length)
      else .ok (index, config)

/-- The frame of a command, and what the command drives. -/
def encode (d : Device) (index : Nat) (value : DataValue) :
    Except IngestError (List UInt8 × Assignment) :=
  match d.config? index with
  | none => .error (.invalidEndpoint index)
  | some config =>
    match config.command with
    | none => .error (.noCommandHandler config.id)
    | some command => (command value).map fun frame => (frame, config.commandAssignment value)

/-- The device at one of its endpoints, as the origin of an event. -/
def origin (d : Device) (endpoint : Nat) : Origin :=
  { session := d.session, addr := d.addr, endpoint }

end Device

end HomeGateway
