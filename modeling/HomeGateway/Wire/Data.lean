import HomeGateway.Data.Value
import HomeGateway.Json.Form

/-! The JSON forms of decoded values. -/

namespace HomeGateway

open JsonForm

instance : JsonForm DataType := ofEnumeration
instance : JsonForm Assignment := ofEnumeration
instance : JsonForm SensorType := ofEnumeration

instance : JsonForm Temperature where
  write t := ofFields [("value", write t.value), ("sensor", write t.sensor)]
  read? json := do
    match ← fields? ["value", "sensor"] json with
    | [value, sensor] => return { value := ← required? value, sensor := ← required? sensor }
    | _ => none

instance : JsonForm Humidity where
  write h := ofFields [("value", write h.value), ("sensor", write h.sensor)]
  read? json := do
    match ← fields? ["value", "sensor"] json with
    | [value, sensor] => return { value := ← required? value, sensor := ← required? sensor }
    | _ => none

instance : JsonForm BatteryLevel where
  write b := ofFields [("level", write b.level), ("voltage_mv", write b.voltageMv)]
  read? json := do
    match ← fields? ["level", "voltage_mv"] json with
    | [level, voltage] => return { level := ← required? level, voltageMv := ← required? voltage }
    | _ => none

instance : JsonForm Rssi where
  write r := ofFields [("value", write r.value)]
  read? json := do
    match ← fields? ["value"] json with
    | [value] => return { value := ← required? value }
    | _ => none

instance : JsonForm Digital where
  write d := ofFields [("value", write d.value), ("mask", write d.mask)]
  read? json := do
    match ← fields? ["value", "mask"] json with
    | [value, mask] => return { value := ← required? value, mask := ← required? mask }
    | _ => none

instance : JsonForm Analog where
  write a := ofFields [("value_uv", write a.valueUv)]
  read? json := do
    match ← fields? ["value_uv"] json with
    | [value] => return { valueUv := ← required? value }
    | _ => none

/-- Pins are written behind their type. -/
def writePins (kind : DataType) (d : Digital) : Json := ofList [write kind, write d]

def readPins? : Json → Option (DataType × Digital)
  | .array [kind, d] => do return (← read? kind, ← read? d)
  | _ => none

def writeTagged (tag content : String) (variant : String) (value : Json) : Json :=
  ofFields [(tag, ofString variant), (content, value)]

instance : JsonForm DataValue where
  write
    | .temperature t => writeTagged "type" "value" "temperature" (write t)
    | .humidity h => writeTagged "type" "value" "humidity" (write h)
    | .batteryLevel b => writeTagged "type" "value" "battery_level" (write b)
    | .rssi r => writeTagged "type" "value" "rssi" (write r)
    | .digital kind d => writeTagged "type" "value" "digital" (writePins kind d)
    | .analog a => writeTagged "type" "value" "analog" (write a)
  read? json := do
    let (tag, content) ← tagged? "type" "value" json
    let content ← content
    match ← variantName? tag with
    | "temperature" => (read? content).map .temperature
    | "humidity" => (read? content).map .humidity
    | "battery_level" => (read? content).map .batteryLevel
    | "rssi" => (read? content).map .rssi
    | "digital" => (readPins? content).map fun (kind, d) => .digital kind d
    | "analog" => (read? content).map .analog
    | _ => none

instance : JsonForm AuxData where
  write a := ofFields [("assignment", write a.assignment), ("value", write a.value)]
  read? json := do
    match ← fields? ["assignment", "value"] json with
    | [assignment, value] =>
      return { assignment := ← required? assignment, value := ← required? value }
    | _ => none

end HomeGateway
