import HomeGateway.Device.Endpoint

/-!
Capability tables made to measure, for trying out a gateway: up to any number of endpoints
from a small stock, and a choice of how payloads find theirs.
-/

namespace HomeGateway.Bench

/-- The endpoints in stock. -/
inductive Kind where
  | dummy
  | flex
  | keep
  | mute

instance : Enumeration Kind where
  all := [.dummy, .flex, .keep, .mute]
  tag
    | .dummy => "dummy"
    | .flex => "flex"
    | .keep => "keep"
    | .mute => "mute"

inductive Routing where
  | first
  | none
  | byte0

instance : Enumeration Routing where
  all := [.first, .none, .byte0]
  tag
    | .first => "first"
    | .none => "none"
    | .byte0 => "byte0"

def dataDescrs : List DataDescr :=
  [.named "rssi" .rssi .unassigned, .unnamed .temperature .externalTemperature]

def commandDescrs : List DataDescr :=
  [.unnamed .digitalOut .relay, .unnamed .rssi .openCollector, .unnamed .rssi .digitalPin]

/-- Reads the length of the payload; its first byte, if not zero, is the timestamp. -/
def measure (payload : Payload) : Except IngestError Decoded :=
  .ok
    { reading := .die ⟨⟨Int16.ofInt (min payload.bytes.length 32767 : Nat), .none⟩⟩
      timestamp :=
        match payload.bytes with
        | [] => Option.none
        | b :: _ => if b = 0 then Option.none else some b.toUInt32 }

/-- As many bytes as the index of the value's type, each of that value. -/
def echo : DataValue → Except IngestError (List UInt8)
  | .analog _ => .error (.command "analog refused")
  | value => .ok (List.replicate value.dataType.index value.dataType.index.toUInt8)

def endpoint : Kind → EndpointConfig
  | .dummy =>
    { id := .none, payloadSize := 0, dataSize := 0, decode := fun _ => .error (.decode "dummy"),
      command := Option.none, dataDescrs := [], commandDescrs := [], retains := false }
  | .flex =>
    { id := .boardControl 6, payloadSize := 0, dataSize := 10, decode := measure,
      command := some echo, dataDescrs, commandDescrs, retains := false }
  | .keep =>
    { id := .boardControl 7, payloadSize := 0, dataSize := 100, decode := measure,
      command := Option.none, dataDescrs, commandDescrs, retains := true }
  | .mute =>
    { id := .nucleoF429zi, payloadSize := 3, dataSize := 0, decode := measure,
      command := some echo, dataDescrs, commandDescrs := [], retains := true }

def route : Routing → Payload → Option Nat
  | .first, _ => some 0
  | .none, _ => Option.none
  | .byte0, payload => payload.bytes.head?.map UInt8.toNat

/-- A table that declares these endpoints, or fails with a reason. -/
def capability (failure : Option String) (kinds : List Kind) (routing : Routing) : Capability where
  setup _ :=
    match failure with
    | some reason => .refused reason
    | Option.none => .endpoints (kinds.map endpoint)
  select := route routing

end HomeGateway.Bench
