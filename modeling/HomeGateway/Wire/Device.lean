import HomeGateway.Device.Identity
import HomeGateway.Device.Room
import HomeGateway.Error
import HomeGateway.Wire.Data

/-! The JSON forms of addresses, identifiers and rooms. -/

namespace HomeGateway

open JsonForm

instance : JsonForm Medium := ofEnumeration
instance : JsonForm DeviceType := ofEnumeration
instance : JsonForm RoomId := ofEnumeration

instance : JsonForm BleAddr where
  write addr := write addr.bytes.toList
  read? json := do
    let bytes : List UInt8 ← read? json
    if h : bytes.length = 6 then return ⟨⟨bytes.toArray, h⟩⟩ else none

/-- Read as it is, with all its bits. -/
instance : JsonForm BusDeviceId where
  write did := write did.raw
  read? json := (read? json).map BusDeviceId.mk

instance : JsonForm CanId where
  write c := ofFields [("id", write c.id), ("extended", write c.extended), ("bus", write c.bus)]
  read? json := do
    match ← fields? ["id", "extended", "bus"] json with
    | [id, extended, bus] =>
      return { id := ← required? id, extended := ← required? extended, bus := ← required? bus }
    | _ => none

instance : JsonForm MacAddr where
  write
    | .none => ofFields [("kind", ofString "none")]
    | .ble addr => writeTagged "kind" "value" "ble" (write addr)
    | .bus did => writeTagged "kind" "value" "bus" (write did)
    | .can id => writeTagged "kind" "value" "can" (write id)
  read? json := do
    let (tag, content) ← tagged? "kind" "value" json
    match ← variantName? tag, content with
    | "none", none => some .none
    | "none", some .null => some .none
    | "ble", some content => (read? content).map .ble
    | "bus", some content => (read? content).map .bus
    | "can", some content => (read? content).map .can
    | _, _ => none

instance : JsonForm DeviceAddr where
  write addr := ofFields [("device_type", write addr.deviceType), ("mac", write addr.mac)]
  read? json := do
    match ← fields? ["device_type", "mac"] json with
    | [deviceType, mac] => return { deviceType := ← required? deviceType, mac := ← required? mac }
    | _ => none

instance : JsonForm RoomConfig where
  write r := ofFields [("id", write r.id), ("name", write r.name)]
  read? json := do
    match ← fields? ["id", "name"] json with
    | [id, name] => return { id := ← required? id, name := ← required? name }
    | _ => none

instance : JsonForm RoomAssoc where
  write a := ofFields [("room", write a.room), ("addr", write a.addr)]
  read? json := do
    match ← fields? ["room", "addr"] json with
    | [room, addr] => return { room := ← required? room, addr := ← required? addr }
    | _ => none

instance : JsonForm EndpointId where
  write
    | .none => ofString "none"
    | .xiaomiMijia => ofString "xiaomi_mijia"
    | .nucleoF429zi => ofString "nucleo_f429zi"
    | .boardControl cls => ofFields [("caniot_blc", write cls)]
  read? json :=
    match variantName? json with
    | some "none" => some .none
    | some "xiaomi_mijia" => some .xiaomiMijia
    | some "nucleo_f429zi" => some .nucleoF429zi
    | _ =>
      match json.members? with
      | some [("caniot_blc", cls)] => (read? cls).map .boardControl
      | _ => none

instance : JsonForm SessionId where
  write id := write id.value
  read? json := (read? json).map SessionId.mk

end HomeGateway
