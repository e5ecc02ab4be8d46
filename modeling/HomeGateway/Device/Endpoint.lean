import HomeGateway.Catalog.Reading

/-!
Endpoints and capability tables. An endpoint is a channel of a device with its own payload
shape; the capability table of a device type declares the endpoints of each new device and
says which of them a payload is for.
-/

namespace HomeGateway

/-- Raw bytes from a transport. A zero timestamp stands for now. -/
structure Payload where
  bytes : List UInt8
  timestamp : UInt32

/-- A decoded payload, with a timestamp of its own if it carried one. -/
structure Decoded where
  reading : Reading
  timestamp : Option UInt32 := none

structure EndpointConfig where
  id : EndpointId
  /-- The size a payload must have, 0 for any. -/
  payloadSize : Nat
  /-- Bytes charged to the data budget for each event. -/
  dataSize : UInt64
  decode : Payload → Except IngestError Decoded
  command : Option (DataValue → Except IngestError (List UInt8))
  dataDescrs : List DataDescr
  commandDescrs : List DataDescr
  /-- Whether the device keeps the latest data event. -/
  retains : Bool

namespace EndpointConfig

def supportsData (config : EndpointConfig) : Bool :=
  config.dataSize ≠ 0 && !config.dataDescrs.isEmpty

def supportsCommands (config : EndpointConfig) : Bool :=
  config.command.isSome && !config.commandDescrs.isEmpty

/-- What the first command descriptor of the value's type drives. -/
def commandAssignment (config : EndpointConfig) (value : DataValue) : Assignment :=
  match config.commandDescrs.find? fun d => d.dataType = value.dataType with
  | some d => d.assignment
  | none => .unassigned

end EndpointConfig

/-- What comes of setting up a new device. -/
inductive Setup where
  | endpoints (configs : List EndpointConfig)
  | refused (reason : String)
  | abort

structure Capability where
  setup : DeviceAddr → Setup
  select : Payload → Option Nat := fun _ => some 0

end HomeGateway
