import HomeGateway.Binary32
import HomeGateway.Data.Kind

/-! Decoded values. -/

namespace HomeGateway

/-- In hundredths of a degree Celsius. -/
structure Temperature where
  value : Int16
  sensor : SensorType
  deriving DecidableEq

/-- The single precision bits of the temperature in degrees. -/
def Temperature.celsiusBits (t : Temperature) : UInt32 :=
  Binary32.hundredths t.value.toInt

/-- In hundredths of a percent. -/
structure Humidity where
  value : UInt16
  sensor : SensorType
  deriving DecidableEq

/-- Charge in percent, zero if not measured, and voltage in millivolts. -/
structure BatteryLevel where
  level : UInt8
  voltageMv : UInt16
  deriving DecidableEq

/-- Received signal strength in dBm. -/
structure Rssi where
  value : Int8
  deriving DecidableEq

/-- Pin levels, and the pins whose level means something. -/
structure Digital where
  value : UInt32
  mask : UInt32
  deriving DecidableEq

/-- The level of a pin, or `none` if the pin is masked out or past the last one. -/
def Digital.pin (d : Digital) (pin : UInt8) : Option Bool :=
  if pin < 32 ∧ d.mask.toNat.testBit pin.toNat then some (d.value.toNat.testBit pin.toNat) else none

/-- In microvolts. -/
structure Analog where
  valueUv : UInt32
  deriving DecidableEq

inductive DataValue where
  | temperature (value : Temperature)
  | humidity (value : Humidity)
  | batteryLevel (value : BatteryLevel)
  | rssi (value : Rssi)
  | digital (kind : DataType) (value : Digital)
  | analog (value : Analog)
  deriving DecidableEq

/-- Pins carry their own type, which tells inputs from outputs. -/
def DataValue.dataType : DataValue → DataType
  | .temperature _ => .temperature
  | .humidity _ => .humidity
  | .batteryLevel _ => .batteryLevel
  | .rssi _ => .rssi
  | .digital kind _ => kind
  | .analog _ => .analog

/-- A value that goes with an event besides its reading. -/
structure AuxData where
  assignment : Assignment
  value : DataValue
  deriving DecidableEq

end HomeGateway
