import HomeGateway.Device.Address

/-!
Field-bus frames. The 11-bit identifier packs the frame type (2 bits), the direction (1 bit),
the device id (6 bits) and the endpoint (2 bits), from the least significant bit up.
-/

namespace HomeGateway

/-- A frame as it is on the wire. -/
structure RawFrame where
  id : UInt16
  data : List UInt8
  deriving DecidableEq

inductive FrameType where
  | command
  | telemetry
  | writeAttribute
  | readAttribute
  deriving DecidableEq

instance : Enumeration FrameType where
  all := [.command, .telemetry, .writeAttribute, .readAttribute]
  tag
    | .command => "command"
    | .telemetry => "telemetry"
    | .writeAttribute => "write_attribute"
    | .readAttribute => "read_attribute"

inductive Direction where
  | query
  | response
  deriving DecidableEq

instance : Enumeration Direction where
  all := [.query, .response]
  tag
    | .query => "query"
    | .response => "response"

inductive BusEndpoint where
  | app0
  | app1
  | app2
  | boardControl
  deriving DecidableEq

instance : Enumeration BusEndpoint where
  all := [.app0, .app1, .app2, .boardControl]
  tag
    | .app0 => "app0"
    | .app1 => "app1"
    | .app2 => "app2"
    | .boardControl => "board_control"

namespace FrameType

def bits : FrameType → UInt16
  | .command => 0
  | .telemetry => 1
  | .writeAttribute => 2
  | .readAttribute => 3

def ofBits (n : UInt16) : FrameType :=
  if n &&& 3 = 0 then .command
  else if n &&& 3 = 1 then .telemetry
  else if n &&& 3 = 2 then .writeAttribute
  else .readAttribute

end FrameType

namespace Direction

def bits : Direction → UInt16
  | .query => 0
  | .response => 1

def ofBits (n : UInt16) : Direction := if n &&& 1 = 0 then .query else .response

end Direction

namespace BusEndpoint

def bits : BusEndpoint → UInt16
  | .app0 => 0
  | .app1 => 1
  | .app2 => 2
  | .boardControl => 3

def ofBits (n : UInt16) : BusEndpoint :=
  if n &&& 3 = 0 then .app0
  else if n &&& 3 = 1 then .app1
  else if n &&& 3 = 2 then .app2
  else .boardControl

end BusEndpoint

structure BusFrame where
  frameType : FrameType
  direction : Direction
  did : BusDeviceId
  endpoint : BusEndpoint
  payload : List UInt8
  deriving DecidableEq

namespace BusFrame

def maxPayload : Nat := 8

def telemetryQuery (did : BusDeviceId) (endpoint : BusEndpoint) : BusFrame :=
  { frameType := .telemetry, direction := .query, did, endpoint, payload := [] }

def command (did : BusDeviceId) (endpoint : BusEndpoint) (payload : List UInt8) : BusFrame :=
  { frameType := .command, direction := .query, did, endpoint, payload }

def isResponse (f : BusFrame) : Bool := f.direction = .response

/-- Errors come as responses of the two writing types. -/
def isError (f : BusFrame) : Bool :=
  f.isResponse && (f.frameType = .command || f.frameType = .writeAttribute)

/-- The types of the responses to a query: commands and telemetry are answered by telemetry
or a command error, attributes by a read or a write error. -/
def answerTypes : FrameType → List FrameType
  | .command => [.telemetry, .command]
  | .telemetry => [.telemetry, .command]
  | .writeAttribute => [.readAttribute, .writeAttribute]
  | .readAttribute => [.readAttribute, .writeAttribute]

def answers (f query : BusFrame) : Bool :=
  f.isResponse && f.did = query.did && f.endpoint = query.endpoint &&
    (answerTypes query.frameType).contains f.frameType

/-- The telemetry that hubs take in. -/
def isBoardTelemetry (f : BusFrame) : Bool :=
  f.isResponse && f.frameType = .telemetry && f.endpoint = .boardControl

def canId (f : BusFrame) : UInt16 :=
  f.frameType.bits ||| f.direction.bits <<< 2 ||| f.did.raw.toUInt16 <<< 3 |||
    f.endpoint.bits <<< 9

/-- Cuts the payload to what a frame can hold. -/
def toRaw (f : BusFrame) : RawFrame :=
  { id := f.canId, data := f.payload.take maxPayload }

def ofRaw? (raw : RawFrame) : Option BusFrame :=
  if raw.id ≤ 0x7FF ∧ raw.data.length ≤ maxPayload then
    some
      { frameType := .ofBits raw.id
        direction := .ofBits (raw.id >>> 2)
        did := .ofRaw ((raw.id >>> 3) &&& 0x3F).toUInt8
        endpoint := .ofBits (raw.id >>> 9)
        payload := raw.data }
  else none

def text (f : BusFrame) : String :=
  Enumeration.label f.frameType ++ " " ++ Enumeration.label f.direction ++ " " ++ f.did.text ++
    " ep " ++ Enumeration.label f.endpoint ++ " [" ++
    " ".intercalate (f.payload.map fun b => Hex.padded 2 b.toNat) ++ "]"

end BusFrame

end HomeGateway
