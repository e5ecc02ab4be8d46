import HomeGateway.Text.Hex

/-! Identifiers that a device gets when it is registered. -/

namespace HomeGateway

/-- Given out in registration order, from 1. -/
structure SessionId where
  value : UInt32
  deriving DecidableEq

namespace SessionId

def first : SessionId := ⟨1⟩

def next (id : SessionId) : SessionId := ⟨id.value + 1⟩

def text (id : SessionId) : String := toString id.value.toNat

end SessionId

/-- A universal identifier, sixteen bytes. -/
structure DeviceUuid where
  bytes : List UInt8

namespace DeviceUuid

/-- Groups of 8, 4, 4, 4 and 12 digits. -/
def text (uuid : DeviceUuid) : String :=
  let part (start count : Nat) := Hex.ofBytes ((uuid.bytes.drop start).take count)
  "-".intercalate [part 0 4, part 4 2, part 6 2, part 8 2, part 10 6]

def shortText (uuid : DeviceUuid) : String :=
  "DeviceUuid(" ++ Hex.ofBytes (uuid.bytes.take 4) ++ "..)"

end DeviceUuid

end HomeGateway
