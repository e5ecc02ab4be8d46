import HomeGateway.Device.Endpoint

/-! The capability tables that every gateway has. -/

namespace HomeGateway.Builtin

def thermometer : EndpointConfig where
  id := .xiaomiMijia
  payloadSize := ThermometerRecord.size
  dataSize := 14
  decode payload :=
    match ThermometerRecord.ofBytes? payload.bytes with
    | some record =>
      .ok { reading := .thermometer (.ofRecord record)
            timestamp := if record.time = 0 then none else some record.time }
    | none => .error (.decode "truncated xiaomi record")
  command := none
  dataDescrs := ThermometerReading.descrs
  commandDescrs := []
  retains := true

def board (cls : UInt8) : EndpointConfig where
  id := .boardControl cls
  payloadSize := BoardTelemetry.size
  dataSize := 18
  decode payload :=
    match BoardTelemetry.ofBytes? payload.bytes with
    | some telemetry => .ok { reading := .board telemetry }
    | none => .error (.decode "truncated board telemetry")
  command := some BoardCommand.encode
  dataDescrs := BoardTelemetry.descrs
  commandDescrs := BoardCommand.descrs
  retains := true

def die : EndpointConfig where
  id := .nucleoF429zi
  payloadSize := 4
  dataSize := 4
  decode payload := (DieTemperature.ofBytes payload.bytes).map fun d => { reading := .die d }
  command := none
  dataDescrs := DieTemperature.descrs
  commandDescrs := []
  retains := true

/-- One endpoint for each board class. -/
def boards : List EndpointConfig := [0, 1, 2, 3, 4, 5, 6, 7].map board

/-- A board is set up by the row of its class; an id with upper bits set has no row. -/
def boardSetup (addr : DeviceAddr) : Setup :=
  match addr.mac with
  | .bus did =>
    if did.isBroadcast then .refused "broadcast id cannot be registered"
    else
      match boards[did.cls.toNat]? with
      | some config => .endpoints [config]
      | none => .abort
  | _ => .refused ("not a field-bus address: " ++ addr.text)

def capability? : DeviceType → Option Capability
  | .none => none
  | .xiaomiMijia => some { setup := fun _ => .endpoints [thermometer] }
  | .caniot => some { setup := boardSetup }
  | .nucleoF429zi => some { setup := fun _ => .endpoints [die] }

end HomeGateway.Builtin
