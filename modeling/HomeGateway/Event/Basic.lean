import HomeGateway.Catalog.Reading
import HomeGateway.Device.Identity
import HomeGateway.Text.CivilDate

/-! Events: facts about a device, which do not change once made. -/

namespace HomeGateway

inductive EventKind where
  | data
  | command
  | error
  deriving DecidableEq

instance : Enumeration EventKind where
  all := [.data, .command, .error]
  tag
    | .data => "data"
    | .command => "command"
    | .error => "error"

/-- The endpoint an event belongs to. -/
structure Origin where
  session : SessionId
  addr : DeviceAddr
  endpoint : Nat
  deriving DecidableEq

structure Event where
  kind : EventKind
  timestamp : UInt32 := 0
  origin : Option Origin := none
  reading : Option Reading := none
  aux : List AuxData := []
  /-- The failure that an error event reports. -/
  failure : Option IngestError := none
  deriving DecidableEq

namespace Event

def session (e : Event) : SessionId :=
  match e.origin with
  | some origin => origin.session
  | none => ⟨0⟩

def addr (e : Event) : DeviceAddr :=
  match e.origin with
  | some origin => origin.addr
  | none => .unknown

def endpoint (e : Event) : Nat :=
  match e.origin with
  | some origin => origin.endpoint
  | none => 0

/-- The moment of an event, if it has a time. -/
def datetime? (e : Event) : Option String :=
  if e.timestamp = 0 then none else some (CivilDate.rfc3339 e.timestamp.toNat)

end Event

end HomeGateway
