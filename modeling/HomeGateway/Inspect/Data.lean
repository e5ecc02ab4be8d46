import HomeGateway.Catalog.Reading
import HomeGateway.Event.Store
import HomeGateway.Inspect

/-! Inspection texts of values, readings and what memory they take. -/

namespace HomeGateway

open Inspect

instance : Inspect DataType := ofEnumeration
instance : Inspect Assignment := ofEnumeration
instance : Inspect SensorType := ofEnumeration
instance : Inspect EventKind := ofEnumeration

instance : Inspect Temperature where
  inspect t := record "Temperature" [("value", inspect t.value), ("sensor", inspect t.sensor)]

instance : Inspect Humidity where
  inspect h := record "Humidity" [("value", inspect h.value), ("sensor", inspect h.sensor)]

instance : Inspect BatteryLevel where
  inspect b :=
    record "BatteryLevel" [("level", inspect b.level), ("voltage_mv", inspect b.voltageMv)]

instance : Inspect Rssi where
  inspect r := record "Rssi" [("value", inspect r.value)]

instance : Inspect Digital where
  inspect d := record "Digital" [("value", inspect d.value), ("mask", inspect d.mask)]

instance : Inspect Analog where
  inspect a := record "Analog" [("value_uv", inspect a.valueUv)]

instance : Inspect DataValue where
  inspect
    | .temperature t => applied "Temperature" [inspect t]
    | .humidity h => applied "Humidity" [inspect h]
    | .batteryLevel b => applied "BatteryLevel" [inspect b]
    | .rssi r => applied "Rssi" [inspect r]
    | .digital kind d => applied "Digital" [inspect kind, inspect d]
    | .analog a => applied "Analog" [inspect a]

instance : Inspect AuxData where
  inspect a :=
    record "AuxData" [("assignment", inspect a.assignment), ("value", inspect a.value)]

instance : Inspect ThermometerReading where
  inspect r :=
    record "XiaomiDataset"
      [("rssi", inspect r.rssi), ("humidity", inspect r.humidity),
       ("temperature", inspect r.temperature), ("battery", inspect r.battery)]

instance : Inspect BoardTelemetry where
  inspect b :=
    record "BoardTelemetry"
      [("temperatures", inspect b.temperatures.toList), ("dio", inspect b.dio),
       ("pdio", inspect b.pdio)]

instance : Inspect DieTemperature where
  inspect d := record "DieTemperature" [("temperature", inspect d.temperature)]

instance : Inspect Reading where
  inspect
    | .thermometer r => inspect r
    | .board b => inspect b
    | .die d => inspect d

instance : Inspect SessionId where
  inspect id := applied "SessionDeviceId" [inspect id.value]

instance : Inspect Pool where
  inspect p :=
    record "Pool"
      [("name", quoted p.name), ("capacity", inspect p.capacity),
       ("available", inspect p.available)]

/-- A slot shows the name of its pool. -/
def Pool.inspectSlot (p : Pool) (slot : Nat) : String :=
  applied "PoolSlot" [p.name ++ "#" ++ toString slot]

instance : Inspect Budget where
  inspect b := record "DataBudget" [("limit", inspect b.limit), ("used", inspect b.used)]

/-- A reservation shows the limit of its budget. -/
def Budget.inspectLease (b : Budget) (size : UInt64) : String :=
  record "DataLease"
    [("budget", record "BudgetInner" [("limit", inspect b.limit)] true), ("size", inspect size)]

instance : Inspect EventStore where
  inspect s := record "EventAlloc" [("pool", inspect s.slots), ("budget", inspect s.budget)]

instance : Inspect StoredEvent where
  inspect e :=
    record "Event"
      [("kind", inspect e.event.kind), ("timestamp", inspect e.event.timestamp),
       ("sdevuid", inspect e.event.session), ("endpoint", inspect e.event.endpoint),
       ("refs", inspect e.holders)] true

end HomeGateway
