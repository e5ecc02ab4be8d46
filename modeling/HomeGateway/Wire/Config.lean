import HomeGateway.Config
import HomeGateway.Json.Parser
import HomeGateway.Wire.Device

/-! Configurations as JSON documents. A field that is missing has its default. -/

namespace HomeGateway

open JsonForm

instance : JsonForm HubConfig where
  write c := ofFields
    [("max_devices", write c.maxDevices), ("max_events", write c.maxEvents),
     ("max_subscriptions", write c.maxSubscriptions), ("data_heap_limit", write c.dataHeapLimit),
     ("rooms", write c.rooms), ("room_assocs", write c.roomAssocs)]
  read? json := do
    let fallback : HubConfig := {}
    match ← fields? ["max_devices", "max_events", "max_subscriptions", "data_heap_limit", "rooms",
        "room_assocs"] json with
    | [devices, events, subscriptions, heap, rooms, assocs] =>
      return {
        maxDevices := ← optional? fallback.maxDevices devices
        maxEvents := ← optional? fallback.maxEvents events
        maxSubscriptions := ← optional? fallback.maxSubscriptions subscriptions
        dataHeapLimit := ← optional? fallback.dataHeapLimit heap
        rooms := ← optional? fallback.rooms rooms
        roomAssocs := ← optional? fallback.roomAssocs assocs }
    | _ => none

instance : JsonForm BusConfig where
  write c := ofFields
    [("max_pending_queries", write c.maxPendingQueries), ("tolerance_ms", write c.toleranceMs),
     ("max_query_timeout_ms", write c.maxQueryTimeoutMs),
     ("submission_depth", write c.submissionDepth), ("frame_depth", write c.frameDepth)]
  read? json := do
    let fallback : BusConfig := {}
    match ← fields? ["max_pending_queries", "tolerance_ms", "max_query_timeout_ms",
        "submission_depth", "frame_depth"] json with
    | [pending, tolerance, timeout, submissions, frames] =>
      return {
        maxPendingQueries := ← optional? fallback.maxPendingQueries pending
        toleranceMs := ← optional? fallback.toleranceMs tolerance
        maxQueryTimeoutMs := ← optional? fallback.maxQueryTimeoutMs timeout
        submissionDepth := ← optional? fallback.submissionDepth submissions
        frameDepth := ← optional? fallback.frameDepth frames }
    | _ => none

/-- The configuration in a document, if it can be read and makes sense. -/
def readConfig {α : Type} [JsonForm α] (check : α → Except ConfigError Unit) (json : Option Json) :
    Except ConfigError α :=
  match json.bind read? with
  | none => .error .unreadable
  | some config =>
    match check config with
    | .error e => .error e
    | .ok () => .ok config

def HubConfig.ofText (text : String) : Except ConfigError HubConfig :=
  readConfig HubConfig.check (Json.parse? text)

def BusConfig.ofText (text : String) : Except ConfigError BusConfig :=
  readConfig BusConfig.check (Json.parse? text)

end HomeGateway
