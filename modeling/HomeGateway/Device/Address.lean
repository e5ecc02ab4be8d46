import HomeGateway.Enumeration
import HomeGateway.Text.Hex

/-!
Device addresses. The medium follows from the transport address, so an address cannot claim
a medium that it has no place on. Two addresses are compared by the rule of the device type,
if it has one, else by the rule of the medium; without either, by device type alone.
-/

namespace HomeGateway

inductive Medium where
  | none
  | ble
  | can
  deriving DecidableEq

instance : Enumeration Medium where
  all := [.none, .ble, .can]
  tag
    | .none => "none"
    | .ble => "ble"
    | .can => "can"

def Medium.text : Medium → String
  | .none => "none"
  | .ble => "BLE"
  | .can => "CAN"

inductive DeviceType where
  | none
  | xiaomiMijia
  | caniot
  | nucleoF429zi
  deriving DecidableEq

instance : Enumeration DeviceType where
  all := [.none, .xiaomiMijia, .caniot, .nucleoF429zi]
  tag
    | .none => "none"
    | .xiaomiMijia => "xiaomi_mijia"
    | .caniot => "caniot"
    | .nucleoF429zi => "nucleo_f429zi"

def DeviceType.text (t : DeviceType) : String := Enumeration.tag t

/-- A radio address, most significant byte first. -/
structure BleAddr where
  bytes : Vector UInt8 6
  deriving DecidableEq

def BleAddr.text (addr : BleAddr) : String :=
  ":".intercalate (addr.bytes.toList.map fun b => Hex.upper 2 b.toNat)

/-- A field-bus device id: three bits of class above three bits of sub-id. Ids that come
from outside may have more bits set. -/
structure BusDeviceId where
  raw : UInt8
  deriving DecidableEq

namespace BusDeviceId

/-- Addresses every device on the bus. -/
def broadcast : BusDeviceId := ⟨0x3F⟩

def ofParts? (cls subId : UInt8) : Option BusDeviceId :=
  if cls ≤ 7 ∧ subId ≤ 7 then some ⟨cls <<< 3 ||| subId⟩ else none

/-- Drops the two upper bits. -/
def ofRaw (raw : UInt8) : BusDeviceId := ⟨raw &&& 0x3F⟩

def cls (did : BusDeviceId) : UInt8 := did.raw >>> 3

def subId (did : BusDeviceId) : UInt8 := did.raw &&& 7

def isBroadcast (did : BusDeviceId) : Bool := did = broadcast

def text (did : BusDeviceId) : String := "0x" ++ Hex.padded 2 did.raw.toNat

end BusDeviceId

/-- A raw identifier on one of the gateway's buses. -/
structure CanId where
  id : UInt32
  extended : Bool
  bus : UInt8
  deriving DecidableEq

namespace CanId

/-- The bits that count: 11 in a standard identifier, 29 in an extended one. -/
def masked (c : CanId) : UInt32 :=
  if c.extended then c.id &&& 0x1FFFFFFF else c.id &&& 0x7FF

def text (c : CanId) : String :=
  "0x" ++ Hex.padded (if c.extended then 8 else 3) c.masked.toNat

end CanId

inductive MacAddr where
  | none
  | ble (addr : BleAddr)
  | bus (did : BusDeviceId)
  | can (id : CanId)
  deriving DecidableEq

def MacAddr.medium : MacAddr → Medium
  | .none => .none
  | .ble _ => .ble
  | .bus _ => .can
  | .can _ => .can

/-- A rule that tells whether two transport addresses designate one device. -/
inductive Comparator where
  | ble
  | bus
  | can
  deriving DecidableEq

def Comparator.designateSame : Comparator → MacAddr → MacAddr → Bool
  | .ble, .ble a, .ble b => a = b
  | .bus, .bus a, .bus b => a = b
  | .can, .can a, .can b => a.masked = b.masked
  | _, _, _ => false

def DeviceType.comparator? : DeviceType → Option Comparator
  | .caniot => some .bus
  | _ => .none

def Medium.comparator? : Medium → Option Comparator
  | .none => .none
  | .ble => some .ble
  | .can => some .can

structure DeviceAddr where
  deviceType : DeviceType
  mac : MacAddr
  deriving DecidableEq

namespace DeviceAddr

/-- The address of nothing in particular. -/
def unknown : DeviceAddr := ⟨.none, .none⟩

def ble (deviceType : DeviceType) (addr : BleAddr) : DeviceAddr := ⟨deviceType, .ble addr⟩

/-- A board on the field bus. -/
def bus (did : BusDeviceId) : DeviceAddr := ⟨.caniot, .bus did⟩

/-- A device without transport, known by its type alone. -/
def onBoard (deviceType : DeviceType) : DeviceAddr := ⟨deviceType, .none⟩

def medium (addr : DeviceAddr) : Medium := addr.mac.medium

def comparator? (addr : DeviceAddr) : Option Comparator :=
  addr.deviceType.comparator?.or addr.medium.comparator?

/-- An address that cannot be compared is looked up by device type only. -/
def isValid (addr : DeviceAddr) : Bool :=
  addr.deviceType ≠ .none && addr.comparator?.isSome

/-- Whether two addresses designate one device. The rule of the first one decides. -/
def sameDevice (a b : DeviceAddr) : Bool :=
  if a.medium ≠ b.medium then false
  else
    match a.comparator? with
    | some rule =>
      if a.isValid && b.isValid then rule.designateSame a.mac b.mac
      else a.deviceType = b.deviceType
    | none => a.deviceType = b.deviceType

def text (addr : DeviceAddr) : String :=
  match addr.mac with
  | .none => addr.deviceType.text
  | .ble a => a.text
  | .bus did => did.text
  | .can id => id.text

end DeviceAddr

end HomeGateway
