import HomeGateway.Bus.Frame
import HomeGateway.Event.Basic
import HomeGateway.Statistics
import HomeGateway.Wire.Device

/-! The JSON forms of events, frames, readings and counters. -/

namespace HomeGateway

open JsonForm

instance : JsonForm EventKind := ofEnumeration
instance : JsonForm FrameType := ofEnumeration
instance : JsonForm Direction := ofEnumeration
instance : JsonForm BusEndpoint := ofEnumeration

def Counters.toFields (c : Counters) : List (String × Json) :=
  [("ev", write c.events), ("dev_dropped", write c.registrationsDropped),
   ("dev_no_mem", write c.deviceListFull), ("dev_no_api", write c.unsupportedType),
   ("dev_ep_init", write c.setupRefused), ("dev_no_ep", write c.noEndpointDeclared),
   ("dev_toomuch_ep", write c.tooManyEndpoints), ("ev_dropped", write c.eventsDropped),
   ("ev_data_dropped", write c.dataDropped), ("ev_cmd_dropped", write c.commandsDropped),
   ("ev_no_mem", write c.noEventSlot), ("ev_no_ep", write c.noEndpointSelected),
   ("ev_ep", write c.badEndpoint), ("ev_payload_size", write c.badPayloadSize),
   ("ev_no_data_mem", write c.noDataMemory), ("ev_ingest", write c.notDecoded),
   ("ev_never_ref", write c.neverReferenced), ("sub_no_mem", write c.subscriptionsRefused)]

def MemoryUsage.toJson (m : MemoryUsage) : Json :=
  ofFields
    [("ev_count", ofNat m.events), ("ev_remaining", ofNat m.eventsFree),
     ("device_count", ofNat m.devices), ("device_remaining", ofNat m.devicesFree),
     ("sub_count", ofNat m.subscriptions), ("sub_remaining", ofNat m.subscriptionsFree),
     ("heap_alloc", write m.dataUsed), ("heap_total", write m.dataLimit),
     ("heap_peak", write m.dataPeak)]

/-- The counters stand beside the memory usage. -/
def Snapshot.toJson (s : Snapshot) : Json :=
  ofFields (s.counters.toFields ++ [("memory", s.memory.toJson)])

def ErrorFlags.toJson (f : ErrorFlags) : Json := write f.bits

def DeviceStats.toJson (s : DeviceStats) : Json :=
  ofFields
    [("rx", write s.received), ("rx_bytes", write s.receivedBytes), ("tx", write s.sent),
     ("tx_bytes", write s.sentBytes), ("err_ev", write s.failed), ("err_flags", s.flags.toJson)]

def ThermometerReading.toJson (r : ThermometerReading) : Json :=
  ofFields
    [("rssi", write r.rssi), ("humidity", write r.humidity), ("temperature", write r.temperature),
     ("battery", write r.battery)]

def BoardTelemetry.toJson (b : BoardTelemetry) : Json :=
  ofFields
    [("temperatures", ofList (b.temperatures.toList.map (writeOption write))),
     ("dio", write b.dio), ("pdio", write b.pdio)]

def DieTemperature.toJson (d : DieTemperature) : Json := write d.temperature

end HomeGateway
