import HomeGateway.Proofs.Json.Form
import HomeGateway.Wire.Config
import HomeGateway.Wire.Report

/-!
What the gateway writes it reads back: decoded values, addresses, identifiers, rooms and
configurations, each as a document and as a text. A configuration is read from its text exactly
if it makes sense.
-/

namespace HomeGateway

open Json JsonForm

/-! Vocabularies -/

instance : LawfulEnumeration DataType := ⟨by intro a; cases a <;> decide, by decide⟩
instance : LawfulEnumeration Assignment := ⟨by intro a; cases a <;> decide, by decide⟩
instance : LawfulEnumeration SensorType := ⟨by intro a; cases a <;> decide, by decide⟩
instance : LawfulEnumeration Medium := ⟨by intro a; cases a <;> decide, by decide⟩
instance : LawfulEnumeration DeviceType := ⟨by intro a; cases a <;> decide, by decide⟩
instance : LawfulEnumeration RoomId := ⟨by intro a; cases a <;> decide, by decide⟩
instance : LawfulEnumeration EventKind := ⟨by intro a; cases a <;> decide, by decide⟩
instance : LawfulEnumeration FrameType := ⟨by intro a; cases a <;> decide, by decide⟩
instance : LawfulEnumeration Direction := ⟨by intro a; cases a <;> decide, by decide⟩
instance : LawfulEnumeration BusEndpoint := ⟨by intro a; cases a <;> decide, by decide⟩

instance : LawfulForm DataType 0 := ofEnumeration_lawful
instance : LawfulForm Assignment 0 := ofEnumeration_lawful
instance : LawfulForm SensorType 0 := ofEnumeration_lawful
instance : LawfulForm Medium 0 := ofEnumeration_lawful
instance : LawfulForm DeviceType 0 := ofEnumeration_lawful
instance : LawfulForm RoomId 0 := ofEnumeration_lawful
instance : LawfulForm EventKind 0 := ofEnumeration_lawful
instance : LawfulForm FrameType 0 := ofEnumeration_lawful
instance : LawfulForm Direction 0 := ofEnumeration_lawful
instance : LawfulForm BusEndpoint 0 := ofEnumeration_lawful

/-! Decoded values -/

instance : LawfulForm Temperature 1 where
  read?_write t := by
    change read? (ofFields [("value", write t.value), ("sensor", write t.sensor)]) = some t
    simp [read?, fields?_ofFields, required?_write]
  written t := .fields (by simp [LawfulForm.written])

instance : LawfulForm Humidity 1 where
  read?_write h := by
    change read? (ofFields [("value", write h.value), ("sensor", write h.sensor)]) = some h
    simp [read?, fields?_ofFields, required?_write]
  written h := .fields (by simp [LawfulForm.written])

instance : LawfulForm BatteryLevel 1 where
  read?_write b := by
    change read? (ofFields [("level", write b.level), ("voltage_mv", write b.voltageMv)]) = some b
    simp [read?, fields?_ofFields, required?_write]
  written b := .fields (by simp [LawfulForm.written])

instance : LawfulForm Rssi 1 where
  read?_write r := by
    change read? (ofFields [("value", write r.value)]) = some r
    simp [read?, fields?_ofFields, required?_write]
  written r := .fields (by simp [LawfulForm.written])

instance : LawfulForm Digital 1 where
  read?_write d := by
    change read? (ofFields [("value", write d.value), ("mask", write d.mask)]) = some d
    simp [read?, fields?_ofFields, required?_write]
  written d := .fields (by simp [LawfulForm.written])

instance : LawfulForm Analog 1 where
  read?_write a := by
    change read? (ofFields [("value_uv", write a.valueUv)]) = some a
    simp [read?, fields?_ofFields, required?_write]
  written a := .fields (by simp [LawfulForm.written])

theorem readPins?_writePins (kind : DataType) (d : Digital) :
    readPins? (writePins kind d) = some (kind, d) := by
  simp [readPins?, writePins, ofList, LawfulForm.read?_write]

theorem written_writePins (kind : DataType) (d : Digital) : Written 2 (writePins kind d) :=
  .list (by simp [LawfulForm.written_le])

theorem tagged?_writeTagged (tag content variant : String) (value : Json) :
    tagged? tag content (writeTagged tag content variant value) =
      some (ofString variant, some value) :=
  tagged?_ofFields tag content (ofString variant) value

theorem written_writeTagged {depth : Nat} (tag content variant : String) {value : Json}
    (h : Written depth value) : Written (depth + 1) (writeTagged tag content variant value) :=
  .fields (by simp [h, Written.text])

instance : LawfulForm DataValue 3 where
  read?_write v := by
    cases v with
    | temperature t =>
      have hread := congrArg (Option.map DataValue.temperature) (LawfulForm.read?_write t)
      change read? (writeTagged "type" "value" "temperature" (write t)) = _
      simp only [read?, tagged?_writeTagged, variantName?_ofString, Option.bind_eq_bind,
        Option.bind_some]
      exact hread
    | humidity h =>
      have hread := congrArg (Option.map DataValue.humidity) (LawfulForm.read?_write h)
      change read? (writeTagged "type" "value" "humidity" (write h)) = _
      simp only [read?, tagged?_writeTagged, variantName?_ofString, Option.bind_eq_bind,
        Option.bind_some]
      exact hread
    | batteryLevel b =>
      have hread := congrArg (Option.map DataValue.batteryLevel) (LawfulForm.read?_write b)
      change read? (writeTagged "type" "value" "battery_level" (write b)) = _
      simp only [read?, tagged?_writeTagged, variantName?_ofString, Option.bind_eq_bind,
        Option.bind_some]
      exact hread
    | rssi r =>
      have hread := congrArg (Option.map DataValue.rssi) (LawfulForm.read?_write r)
      change read? (writeTagged "type" "value" "rssi" (write r)) = _
      simp only [read?, tagged?_writeTagged, variantName?_ofString, Option.bind_eq_bind,
        Option.bind_some]
      exact hread
    | digital kind d =>
      change read? (writeTagged "type" "value" "digital" (writePins kind d)) = _
      simp only [read?, tagged?_writeTagged, variantName?_ofString, readPins?_writePins,
        Option.bind_eq_bind, Option.bind_some, Option.map_some]
    | analog a =>
      have hread := congrArg (Option.map DataValue.analog) (LawfulForm.read?_write a)
      change read? (writeTagged "type" "value" "analog" (write a)) = _
      simp only [read?, tagged?_writeTagged, variantName?_ofString, Option.bind_eq_bind,
        Option.bind_some]
      exact hread
  written v := by
    cases v with
    | digital kind d => exact written_writeTagged _ _ _ (written_writePins kind d)
    | temperature | humidity | batteryLevel | rssi | analog =>
      exact written_writeTagged _ _ _ (LawfulForm.written_le _ (by decide))

instance : LawfulForm AuxData 4 where
  read?_write a := by
    change read? (ofFields [("assignment", write a.assignment), ("value", write a.value)]) = some a
    simp [read?, fields?_ofFields, required?_write]
  written a := .fields (by simp [LawfulForm.written_le])

/-! Addresses and identifiers -/

instance : LawfulForm BleAddr 1 where
  read?_write addr := by
    obtain ⟨⟨bytes, hsize⟩⟩ := addr
    have hread := LawfulForm.read?_write bytes.toList
    change (do
      let bytes : List UInt8 ← read? (write bytes.toList)
      if h : bytes.length = 6 then return (⟨⟨bytes.toArray, h⟩⟩ : BleAddr) else none) = _
    simp [hread, hsize]
  written addr := LawfulForm.written addr.bytes.toList

instance : LawfulForm BusDeviceId 0 where
  read?_write did := by
    change (read? (write did.raw)).map BusDeviceId.mk = some did
    rw [LawfulForm.read?_write]
    rfl
  written did := LawfulForm.written did.raw

instance : LawfulForm SessionId 0 where
  read?_write id := by
    change (read? (write id.value)).map SessionId.mk = some id
    rw [LawfulForm.read?_write]
    rfl
  written id := LawfulForm.written id.value

instance : LawfulForm CanId 1 where
  read?_write c := by
    change read? (ofFields [("id", write c.id), ("extended", write c.extended),
      ("bus", write c.bus)]) = some c
    simp [read?, fields?_ofFields, required?_write]
  written c := .fields (by simp [LawfulForm.written])

instance : LawfulForm MacAddr 2 where
  read?_write mac := by
    cases mac with
    | none =>
      change read? (ofFields [("kind", ofString "none")]) = _
      simp [read?, tagged?_singleton, variantName?_ofString]
    | ble addr =>
      have hread := congrArg (Option.map MacAddr.ble) (LawfulForm.read?_write addr)
      change read? (writeTagged "kind" "value" "ble" (write addr)) = _
      simp only [read?, tagged?_writeTagged, variantName?_ofString, Option.bind_eq_bind,
        Option.bind_some]
      exact hread
    | bus did =>
      have hread := congrArg (Option.map MacAddr.bus) (LawfulForm.read?_write did)
      change read? (writeTagged "kind" "value" "bus" (write did)) = _
      simp only [read?, tagged?_writeTagged, variantName?_ofString, Option.bind_eq_bind,
        Option.bind_some]
      exact hread
    | can id =>
      have hread := congrArg (Option.map MacAddr.can) (LawfulForm.read?_write id)
      change read? (writeTagged "kind" "value" "can" (write id)) = _
      simp only [read?, tagged?_writeTagged, variantName?_ofString, Option.bind_eq_bind,
        Option.bind_some]
      exact hread
  written mac := by
    cases mac with
    | none => exact .fields (by simp [Written.text])
    | ble | bus | can => exact written_writeTagged _ _ _ (LawfulForm.written_le _ (by decide))

instance : LawfulForm DeviceAddr 3 where
  read?_write addr := by
    change read? (ofFields [("device_type", write addr.deviceType), ("mac", write addr.mac)]) =
      some addr
    simp [read?, fields?_ofFields, required?_write]
  written addr := .fields (by simp [LawfulForm.written_le])

instance : LawfulForm EndpointId 1 where
  read?_write id := by
    cases id with
    | none =>
      change read? (ofString "none") = _
      simp [read?, variantName?_ofString]
    | xiaomiMijia =>
      change read? (ofString "xiaomi_mijia") = _
      simp [read?, variantName?_ofString]
    | nucleoF429zi =>
      change read? (ofString "nucleo_f429zi") = _
      simp [read?, variantName?_ofString]
    | boardControl cls =>
      have hread := congrArg (Option.map EndpointId.boardControl) (LawfulForm.read?_write cls)
      have hname : variantName? (ofFields [("caniot_blc", write cls)]) = none := rfl
      change read? (ofFields [("caniot_blc", write cls)]) = _
      simpa [read?, hname, members?_ofFields] using hread
  written id := by
    cases id with
    | boardControl cls => exact .fields (by simp [LawfulForm.written])
    | none | xiaomiMijia | nucleoF429zi => exact .text _

/-! Rooms and configurations -/

instance : LawfulForm RoomConfig 1 where
  read?_write r := by
    change read? (ofFields [("id", write r.id), ("name", write r.name)]) = some r
    simp [read?, fields?_ofFields, required?_write]
  written r := .fields (by simp [LawfulForm.written])

instance : LawfulForm RoomAssoc 4 where
  read?_write a := by
    change read? (ofFields [("room", write a.room), ("addr", write a.addr)]) = some a
    simp [read?, fields?_ofFields, required?_write]
  written a := .fields (by simp [LawfulForm.written_le])

instance : LawfulForm HubConfig 6 where
  read?_write c := by
    change read? (ofFields
      [("max_devices", write c.maxDevices), ("max_events", write c.maxEvents),
       ("max_subscriptions", write c.maxSubscriptions), ("data_heap_limit", write c.dataHeapLimit),
       ("rooms", write c.rooms), ("room_assocs", write c.roomAssocs)]) = some c
    simp [read?, fields?_ofFields, optional?_write]
  written c := .fields (by simp [LawfulForm.written_le])

instance : LawfulForm BusConfig 1 where
  read?_write c := by
    change read? (ofFields
      [("max_pending_queries", write c.maxPendingQueries), ("tolerance_ms", write c.toleranceMs),
       ("max_query_timeout_ms", write c.maxQueryTimeoutMs),
       ("submission_depth", write c.submissionDepth), ("frame_depth", write c.frameDepth)]) = some c
    simp [read?, fields?_ofFields, optional?_write]
  written c := .fields (by simp [LawfulForm.written])

/-- What comes of reading the text of a configuration is decided by its check. -/
theorem readConfig_render {α : Type} [JsonForm α] {depth : Nat} [LawfulForm α depth]
    (h : depth ≤ Machine.readableDepth) (check : α → Except ConfigError Unit) (c : α) :
    readConfig check (parse? (write c).render) = (check c).map fun () => c := by
  obtain ⟨hread, hparse⟩ := LawfulForm.lossless h c
  unfold readConfig
  rw [hparse, Option.bind_some, hread]
  dsimp only
  cases check c <;> rfl

/-- A check that finds nothing, or blames a field. -/
def Blames (verdict : Except ConfigError Unit) : Prop :=
  verdict = .ok () ∨ ∃ field reason, verdict = .error (.invalid field reason)

theorem Blames.andThen {first next : Except ConfigError Unit} (hfirst : Blames first)
    (hnext : Blames next) : Blames (do first; next) := by
  rcases hfirst with rfl | ⟨field, reason, rfl⟩
  · exact hnext
  · exact .inr ⟨field, reason, rfl⟩

theorem checkPositive_blames (field : String) (value : UInt64) :
    Blames (checkPositive field value) := by
  unfold checkPositive
  split
  · exact .inr ⟨_, _, rfl⟩
  · exact .inl rfl

theorem HubConfig.check_blames (c : HubConfig) : Blames c.check := by
  refine .andThen (checkPositive_blames _ _) (.andThen (checkPositive_blames _ _)
    (.andThen (checkPositive_blames _ _) ?_))
  split
  · exact .inr ⟨_, _, rfl⟩
  · exact .inl rfl

theorem BusConfig.check_blames (c : BusConfig) : Blames c.check := by
  refine .andThen (checkPositive_blames _ _) (.andThen (checkPositive_blames _ _)
    (.andThen (checkPositive_blames _ _) ?_))
  split
  · exact .inr ⟨_, _, rfl⟩
  · exact checkPositive_blames _ _

/-- The text of a configuration gives the configuration back if it makes sense, and else the field
that is to blame. -/
def Restores {α : Type} [JsonForm α] (check : α → Except ConfigError Unit)
    (ofText : String → Except ConfigError α) : Prop :=
  ∀ c : α, (check c = .ok () ∧ ofText (write c).render = .ok c) ∨
    ∃ field reason, check c = .error (.invalid field reason) ∧
      ofText (write c).render = .error (.invalid field reason)

theorem readConfig_restores {α : Type} [JsonForm α] {depth : Nat} [LawfulForm α depth]
    (h : depth ≤ Machine.readableDepth) {check : α → Except ConfigError Unit}
    (hblames : ∀ c, Blames (check c)) :
    Restores check fun text => readConfig check (parse? text) := by
  intro c
  have hread := readConfig_render h check c
  rcases hblames c with hok | ⟨field, reason, herror⟩
  · rw [hok] at hread
    exact .inl ⟨hok, hread⟩
  · rw [herror] at hread
    exact .inr ⟨field, reason, herror, hread⟩

/-- Every form is lossless, from single words to configurations with all that stands in them, and
configurations are restored from their texts as far as they make sense. -/
theorem forms_lossless :
    (Lossless UInt8 ∧ Lossless UInt16 ∧ Lossless UInt32 ∧ Lossless UInt64 ∧ Lossless Int8 ∧
      Lossless Int16) ∧
    (Lossless DataType ∧ Lossless Assignment ∧ Lossless SensorType ∧ Lossless Medium ∧
      Lossless DeviceType ∧ Lossless RoomId ∧ Lossless EventKind ∧ Lossless FrameType ∧
      Lossless Direction ∧ Lossless BusEndpoint) ∧
    (Lossless BleAddr ∧ Lossless BusDeviceId ∧ Lossless CanId ∧ Lossless MacAddr ∧
      Lossless DeviceAddr ∧ Lossless SessionId ∧ Lossless EndpointId) ∧
    (Lossless Temperature ∧ Lossless Humidity ∧ Lossless BatteryLevel ∧ Lossless Rssi ∧
      Lossless Digital ∧ Lossless Analog ∧ Lossless DataValue ∧ Lossless AuxData) ∧
    (Lossless RoomConfig ∧ Lossless RoomAssoc ∧ Lossless HubConfig ∧ Lossless BusConfig) ∧
    Restores HubConfig.check HubConfig.ofText ∧ Restores BusConfig.check BusConfig.ofText := by
  refine ⟨?words, ?vocabularies, ?addresses, ?values, ?configurations, ?hub, ?bus⟩
  case hub => exact readConfig_restores (by decide) HubConfig.check_blames
  case bus => exact readConfig_restores (by decide) BusConfig.check_blames
  all_goals
    repeat' apply And.intro
    all_goals exact LawfulForm.lossless (by decide)

end HomeGateway
