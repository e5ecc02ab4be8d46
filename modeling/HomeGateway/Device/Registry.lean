import HomeGateway.Device.Record

/-!
The list of known devices. Devices are added at its end when their address is first seen and
stay; the capability table of the device type decides whether they can be added at all.
-/

namespace HomeGateway

structure Registry where
  devices : List Device
  capacity : Nat
  nextSession : SessionId
  capability? : DeviceType → Option Capability
  rooms : RoomTable

namespace Registry

def new (capacity : Nat) (capability? : DeviceType → Option Capability) (rooms : RoomTable) :
    Registry :=
  { devices := [], capacity, nextSession := .first, capability?, rooms }

/-- Whether a known device answers to an address. One that cannot be compared goes to the
first device of its type. -/
def answers (addr : DeviceAddr) (d : Device) : Bool :=
  if addr.isValid then d.addr.sameDevice addr else d.addr.deviceType = addr.deviceType

/-- The position of the device at an address. -/
def locate? (r : Registry) (addr : DeviceAddr) : Option Nat :=
  r.devices.findIdx? (answers addr)

/-- The device at an address and its position. -/
def lookup? (r : Registry) (addr : DeviceAddr) : Option (Nat × Device) := do
  let index ← r.locate? addr
  let device ← r.devices[index]?
  return (index, device)

def find? (r : Registry) (addr : DeviceAddr) : Option Device := (r.lookup? addr).map Prod.snd

def findSession? (r : Registry) (id : SessionId) : Option Device :=
  r.devices.find? fun d => d.session = id

def update (r : Registry) (index : Nat) (f : Device → Device) : Registry :=
  { r with devices := r.devices.modify index f }

/-- The endpoints of a new device at an address. -/
def declare (r : Registry) (addr : DeviceAddr) :
    Except (Halt RegistryError) (Capability × List EndpointConfig) :=
  if r.capacity ≤ r.devices.length then .error (.error (.outOfCapacity r.capacity))
  else
    match r.capability? addr.deviceType with
    | none => .error (.error (.unsupportedType addr.deviceType))
    | some capability =>
      match capability.setup addr with
      | .abort => .error .abort
      | .refused reason => .error (.error (.endpointInit reason))
      | .endpoints configs =>
        if configs.isEmpty then .error (.error .noEndpoints)
        else if Device.maxEndpoints < configs.length then
          .error (.error (.tooManyEndpoints configs.length Device.maxEndpoints))
        else .ok (capability, configs)

/-- The position of the device at an address, which is added if it is not known. -/
def register (r : Registry) (addr : DeviceAddr) (now : UInt32) :
    Except (Halt RegistryError) Nat × Registry :=
  match r.locate? addr with
  | some index => (.ok index, r)
  | none =>
    match r.declare addr with
    | .error halt => (.error halt, r)
    | .ok (capability, configs) =>
      let (room, rooms) := r.rooms.assign addr
      let device : Device :=
        { session := r.nextSession
          addr
          registeredAt := now
          select := capability.select
          endpoints := configs.map fun config => { config, retained := none }
          room
          stats := {} }
      (.ok r.devices.length,
        { r with
          devices := r.devices ++ [device]
          nextSession := r.nextSession.next
          rooms })

/-- Counts descriptors over all endpoints of all devices. -/
def countDescrs (r : Registry) (table : EndpointConfig → List DataDescr) (t : DataType)
    (assignment : Option Assignment) : Nat :=
  (r.devices.flatMap fun d => d.endpoints.flatMap fun e => table e.config).countP fun descr =>
    descr.dataType = t && (assignment.isNone || assignment = some descr.assignment)

end Registry

end HomeGateway
