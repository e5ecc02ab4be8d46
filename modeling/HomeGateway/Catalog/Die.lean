import HomeGateway.Bytes
import HomeGateway.Data.Table
import HomeGateway.Error

/-! The gateway's own microcontroller, which reports the temperature of its die. -/

namespace HomeGateway

structure DieTemperature where
  temperature : Temperature
  deriving DecidableEq

namespace DieTemperature

def descrs : List DataDescr := [.unnamed .temperature .socTemperature]

def table (d : DieTemperature) : DataTable where
  descrs := descrs
  value
    | 0 => some (.temperature d.temperature)
    | _ => none

/-- Degrees in single precision, in four bytes. -/
def ofBytes (bytes : List UInt8) : Except IngestError DieTemperature :=
  if bytes.length ≠ 4 then .error (.decode "die temperature is 4 bytes")
  else
    match Binary32.classify (Bytes.toNat bytes).toUInt32 with
    | .finite negative mantissa exponent =>
      .ok ⟨Binary32.centiCut negative mantissa exponent, .embedded⟩
    | special =>
      .error (.decode ("invalid die temperature " ++ special.specialText.getD ""))

end DieTemperature

end HomeGateway
