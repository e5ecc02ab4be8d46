import HomeGateway.Device.Room
import HomeGateway.Error

/-! Capacities and timings of a gateway. -/

namespace HomeGateway

/-- Capacities, rooms and who stands in them. -/
structure HubConfig where
  maxDevices : UInt64 := 32
  maxEvents : UInt64 := 64
  maxSubscriptions : UInt64 := 8
  dataHeapLimit : UInt64 := 4096
  rooms : List RoomConfig := []
  roomAssocs : List RoomAssoc := []
  deriving DecidableEq

/-- Settings of the query multiplexer, in milliseconds where they are times. -/
structure BusConfig where
  maxPendingQueries : UInt64 := 4
  toleranceMs : UInt64 := 1000
  maxQueryTimeoutMs : UInt64 := 60000
  submissionDepth : UInt64 := 8
  frameDepth : UInt64 := 16
  deriving DecidableEq

def checkPositive (field : String) (value : UInt64) : Except ConfigError Unit :=
  if value = 0 then .error (.invalid field "must be greater than zero") else .ok ()

def HubConfig.check (c : HubConfig) : Except ConfigError Unit := do
  checkPositive "max_devices" c.maxDevices
  checkPositive "max_events" c.maxEvents
  checkPositive "max_subscriptions" c.maxSubscriptions
  match c.roomAssocs.find? fun a => !c.rooms.any fun r => r.id = a.room with
  | some a =>
    .error (.invalid "room_assocs"
      (a.addr.text ++ " is placed in undeclared room " ++ Enumeration.label a.room))
  | none => .ok ()

def BusConfig.check (c : BusConfig) : Except ConfigError Unit := do
  checkPositive "max_pending_queries" c.maxPendingQueries
  checkPositive "submission_depth" c.submissionDepth
  checkPositive "frame_depth" c.frameDepth
  if c.submissionDepth < c.maxPendingQueries then
    .error (.invalid "submission_depth"
      (toString c.submissionDepth.toNat ++ " is below max_pending_queries (" ++
        toString c.maxPendingQueries.toNat ++ ")"))
  checkPositive "max_query_timeout_ms" c.maxQueryTimeoutMs

/-- A stretch of time in nanoseconds. -/
abbrev Duration := Nat

namespace Duration

def ofMillis (ms : Nat) : Duration := ms * 1000000

def ofMicros (us : Nat) : Duration := us * 1000

def ofSeconds (seconds nanos : Nat) : Duration := seconds * 1000000000 + nanos

def millis (d : Duration) : Nat := d / 1000000

def micros (d : Duration) : Nat := d / 1000

/-- Whole milliseconds, the largest word if they are more. -/
def milliWord (d : Duration) : UInt64 := (min d.millis 0xFFFFFFFFFFFFFFFF).toUInt64

end Duration

def BusConfig.tolerance (c : BusConfig) : Duration := .ofMillis c.toleranceMs.toNat

end HomeGateway
