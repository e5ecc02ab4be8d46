import HomeGateway.Bytes
import HomeGateway.Data.Table

/-! Radio thermometers: the record that their scanner produces, and what is read from it. -/

namespace HomeGateway

/-- A measurement. `time` is 0 if unknown and `batteryLevel` is 0 if not measured. -/
structure ThermometerRecord where
  time : UInt32
  rssi : Int8
  temperature : Int16
  humidity : UInt16
  batteryMv : UInt16
  batteryLevel : UInt8
  deriving DecidableEq

namespace ThermometerRecord

def size : Nat := 12

/-- The fields in declaration order, each with its least significant byte first. -/
def toBytes (r : ThermometerRecord) : List UInt8 :=
  Bytes.ofNat 4 r.time.toNat ++ [r.rssi.toUInt8] ++ Bytes.ofNat 2 r.temperature.toUInt16.toNat ++
    Bytes.ofNat 2 r.humidity.toNat ++ Bytes.ofNat 2 r.batteryMv.toNat ++ [r.batteryLevel]

def ofBytes? : List UInt8 → Option ThermometerRecord
  | [t0, t1, t2, t3, rssi, c0, c1, h0, h1, v0, v1, level] =>
    some
      { time := (Bytes.toNat [t0, t1, t2, t3]).toUInt32
        rssi := rssi.toInt8
        temperature := (Bytes.toNat [c0, c1]).toUInt16.toInt16
        humidity := (Bytes.toNat [h0, h1]).toUInt16
        batteryMv := (Bytes.toNat [v0, v1]).toUInt16
        batteryLevel := level }
  | _ => none

end ThermometerRecord

structure ThermometerReading where
  rssi : Rssi
  humidity : Humidity
  temperature : Temperature
  battery : BatteryLevel
  deriving DecidableEq

namespace ThermometerReading

def descrs : List DataDescr :=
  [.unnamed .rssi .unassigned,
   .unnamed .humidity .boardHumidity,
   .unnamed .temperature .boardTemperature,
   .unnamed .batteryLevel .unassigned]

/-- The battery row is measured iff the level is not zero. -/
def table (r : ThermometerReading) : DataTable where
  descrs := descrs
  value
    | 0 => some (.rssi r.rssi)
    | 1 => some (.humidity r.humidity)
    | 2 => some (.temperature r.temperature)
    | 3 => if r.battery.level = 0 then none else some (.batteryLevel r.battery)
    | _ => none

def ofRecord (r : ThermometerRecord) : ThermometerReading where
  rssi := ⟨r.rssi⟩
  humidity := ⟨r.humidity, .embedded⟩
  temperature := ⟨r.temperature, .embedded⟩
  battery := ⟨r.batteryLevel, r.batteryMv⟩

end ThermometerReading

end HomeGateway
