import HomeGateway.Enumeration

/-! What a decoded value is, what it measures, and where its sensor sits. -/

namespace HomeGateway

inductive DataType where
  | temperature
  | humidity
  | batteryLevel
  | rssi
  | digitalInOut
  | digitalIn
  | digitalOut
  | analog
  deriving DecidableEq

instance : Enumeration DataType where
  all := [.temperature, .humidity, .batteryLevel, .rssi, .digitalInOut, .digitalIn, .digitalOut,
    .analog]
  tag
    | .temperature => "temperature"
    | .humidity => "humidity"
    | .batteryLevel => "battery_level"
    | .rssi => "rssi"
    | .digitalInOut => "digital_in_out"
    | .digitalIn => "digital_in"
    | .digitalOut => "digital_out"
    | .analog => "analog"

/-- Position in the declaration order. -/
def DataType.index : DataType → Nat
  | .temperature => 0
  | .humidity => 1
  | .batteryLevel => 2
  | .rssi => 3
  | .digitalInOut => 4
  | .digitalIn => 5
  | .digitalOut => 6
  | .analog => 7

/-- A bit that no other type has, for masks of types. -/
def DataType.bit (t : DataType) : UInt32 := 1 <<< t.index.toUInt32

inductive Assignment where
  | unassigned
  | socTemperature
  | boardTemperature
  | externalTemperature
  | boardHumidity
  | externalHumidity
  | openCollector
  | relay
  | digitalPin
  deriving DecidableEq

instance : Enumeration Assignment where
  all := [.unassigned, .socTemperature, .boardTemperature, .externalTemperature, .boardHumidity,
    .externalHumidity, .openCollector, .relay, .digitalPin]
  tag
    | .unassigned => "unassigned"
    | .socTemperature => "soc_temperature"
    | .boardTemperature => "board_temperature"
    | .externalTemperature => "external_temperature"
    | .boardHumidity => "board_humidity"
    | .externalHumidity => "external_humidity"
    | .openCollector => "open_collector"
    | .relay => "relay"
    | .digitalPin => "digital_io"

inductive SensorType where
  | none
  | embedded
  | external1
  | external2
  | external3
  deriving DecidableEq

instance : Enumeration SensorType where
  all := [.none, .embedded, .external1, .external2, .external3]
  tag
    | .none => "none"
    | .embedded => "embedded"
    | .external1 => "external1"
    | .external2 => "external2"
    | .external3 => "external3"

end HomeGateway
