import HomeGateway.Hub

/-! Payloads of the devices that every gateway knows, fed to the hub in their own form. -/

namespace HomeGateway.Hub

variable {σ : Type}

/-- A thermometer record, which brings its own time. -/
def receiveRecord (hub : Hub σ) (addr : BleAddr) (record : ThermometerRecord) (client : σ) :
    Except (Halt Error) Nat × Hub σ × σ :=
  hub.receive (.ble .xiaomiMijia addr) record.toBytes record.time client

/-- A telemetry frame of a board. -/
def receiveTelemetry (hub : Hub σ) (did : BusDeviceId) (frame : List UInt8) (timestamp : UInt32)
    (client : σ) : Except (Halt Error) Nat × Hub σ × σ :=
  hub.receive (.bus did) frame timestamp client

/-- The die temperature, by the bits of a single precision number. -/
def receiveDie (hub : Hub σ) (bits timestamp : UInt32) (client : σ) :
    Except (Halt Error) Nat × Hub σ × σ :=
  hub.receive (.onBoard .nucleoF429zi) (Bytes.ofNat 4 bits.toNat) timestamp client

end HomeGateway.Hub
