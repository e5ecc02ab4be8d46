import HomeGateway.Bytes
import HomeGateway.Data.Table
import HomeGateway.Error

/-!
Field-bus boards. A telemetry frame holds the pin levels, the pulse states of the outputs and
four 10-bit temperatures; a command frame holds one 3-bit action per output.
-/

namespace HomeGateway

namespace Ten

/-! Ten-bit temperatures count tenths of a degree from -28 °C. -/

/-- Stands for a probe that is not there. -/
def absent : Nat := 0x3FF

def toCenti? (raw : UInt16) : Option Int16 :=
  if raw.toNat < absent then some (Int16.ofInt ((raw.toNat : Int) * 10 - 2800)) else none

/-- The nearest code toward -28 °C, within the codes that are not `absent`. -/
def ofCenti (centi : Int16) : UInt16 :=
  (min (max ((centi.toInt + 2800).tdiv 10) 0) 0x3FE).toNat.toUInt16

end Ten

structure BoardTelemetry where
  /-- The on-board sensor, then the external probes. -/
  temperatures : Vector (Option Temperature) 4
  dio : UInt8
  pdio : UInt8
  deriving DecidableEq

namespace BoardTelemetry

def size : Nat := 8

def sensorAt : Nat → SensorType
  | 0 => .embedded
  | 1 => .external1
  | 2 => .external2
  | _ => .external3

def code : Option Temperature → Nat
  | none => Ten.absent
  | some t => (Ten.ofCenti t.value).toNat

def probe (index raw : Nat) : Option Temperature :=
  (Ten.toCenti? raw.toUInt16).map fun value => { value, sensor := sensorAt index }

def toBytes (b : BoardTelemetry) : List UInt8 :=
  let t := b.temperatures
  let packed := code t[0] + 1024 * (code t[1] + 1024 * (code t[2] + 1024 * code t[3]))
  b.dio :: b.pdio :: Bytes.ofNat 6 packed

/-- The last byte of a frame is not used. -/
def ofBytes? : List UInt8 → Option BoardTelemetry
  | [dio, pdio, b0, b1, b2, b3, b4, b5] =>
    let packed := Bytes.toNat [b0, b1, b2, b3, b4, b5]
    some
      { temperatures := #v[probe 0 (packed % 1024), probe 1 (packed / 1024 % 1024),
          probe 2 (packed / 1024 / 1024 % 1024), probe 3 (packed / 1024 / 1024 / 1024 % 1024)]
        dio, pdio }
  | _ => none

def descrs : List DataDescr :=
  [.named "int" .temperature .boardTemperature,
   .named "ext1" .temperature .externalTemperature,
   .named "ext2" .temperature .externalTemperature,
   .named "ext3" .temperature .externalTemperature,
   .named "dio" .digitalInOut .digitalPin,
   .named "pdio" .digitalOut .digitalPin]

def table (b : BoardTelemetry) : DataTable where
  descrs := descrs
  value i :=
    if h : i < 4 then b.temperatures[i].map .temperature
    else if i = 4 then some (.digital .digitalInOut ⟨b.dio.toUInt32, 0xFF⟩)
    else if i = 5 then some (.digital .digitalOut ⟨b.pdio.toUInt32, 0x0F⟩)
    else none

end BoardTelemetry

/-- What a command does to one output. -/
inductive OutputAction where
  | none
  | setOn
  | setOff
  | pulseOn
  | pulseOff
  | toggle
  | reset
  deriving DecidableEq

instance : Enumeration OutputAction where
  all := [.none, .setOn, .setOff, .pulseOn, .pulseOff, .toggle, .reset]
  tag
    | .none => "none"
    | .setOn => "set_on"
    | .setOff => "set_off"
    | .pulseOn => "pulse_on"
    | .pulseOff => "pulse_off"
    | .toggle => "toggle"
    | .reset => "reset"

namespace OutputAction

def code : OutputAction → Nat
  | .none => 0
  | .setOn => 1
  | .setOff => 2
  | .pulseOn => 3
  | .pulseOff => 4
  | .toggle => 5
  | .reset => 6

/-- Actions for the two open collectors and the two relays, three bits each, in a frame of
eight bytes. -/
def frame (actions : Vector OutputAction 4) : List UInt8 :=
  Bytes.ofNat 8 (actions[0].code + 8 * (actions[1].code + 8 * (actions[2].code +
    8 * actions[3].code)))

/-- Outputs that are masked out stay as they are. -/
def ofPin (d : Digital) (pin : UInt8) : OutputAction :=
  match d.pin pin with
  | some true => .setOn
  | some false => .setOff
  | Option.none => .none

end OutputAction

namespace BoardCommand

def descrs : List DataDescr :=
  [.named "oc" .digitalOut .openCollector,
   .named "rl" .digitalOut .relay]

/-- Boards take digital outputs and nothing else. -/
def encode : DataValue → Except IngestError (List UInt8)
  | .digital .digitalOut d =>
    .ok (OutputAction.frame #v[.ofPin d 0, .ofPin d 1, .ofPin d 2, .ofPin d 3])
  | value => .error (.command ("unsupported command type " ++ Enumeration.label value.dataType))

end BoardCommand

end HomeGateway
