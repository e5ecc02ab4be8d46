import HomeGateway.Bus.Arbiter
import HomeGateway.Bus.Controller
import HomeGateway.Hub
import HomeGateway.Inspect.Data
import HomeGateway.Subscription.ExtendedFilter

/-! Inspection texts of addresses, subscriptions, the hub and the bus. -/

namespace HomeGateway

open Inspect

instance : Inspect Medium := ofEnumeration
instance : Inspect DeviceType := ofEnumeration
instance : Inspect RoomId := ofEnumeration
instance : Inspect FrameType := ofEnumeration
instance : Inspect Direction := ofEnumeration
instance : Inspect BusEndpoint := ofEnumeration

instance : Inspect BleAddr where
  inspect addr := applied "BleAddr" [inspect addr.bytes.toList]

instance : Inspect BusDeviceId where
  inspect did := applied "BusDeviceId" [inspect did.raw]

instance : Inspect CanId where
  inspect c :=
    record "CanId" [("id", inspect c.id), ("extended", inspect c.extended), ("bus", inspect c.bus)]

instance : Inspect MacAddr where
  inspect
    | .none => "None"
    | .ble addr => applied "Ble" [inspect addr]
    | .bus did => applied "Bus" [inspect did]
    | .can id => applied "Can" [inspect id]

instance : Inspect DeviceAddr where
  inspect addr :=
    record "DeviceAddr" [("device_type", inspect addr.deviceType), ("mac", inspect addr.mac)]

instance : Inspect RoomAssoc where
  inspect a := record "RoomAssoc" [("room", inspect a.room), ("addr", inspect a.addr)]

instance : Inspect EndpointId where
  inspect
    | .none => "None"
    | .xiaomiMijia => "XiaomiMijia"
    | .nucleoF429zi => "NucleoF429zi"
    | .boardControl cls => applied "CaniotBlc" [inspect cls]

variable {σ : Type}

instance : Inspect (SubscriptionConf σ) where
  inspect c :=
    record "SubscriptionConf"
      [("device_type", inspect c.criteria.deviceType), ("device_addr", inspect c.criteria.mac),
       ("event_kind", inspect c.criteria.kind), ("filter", inspect c.filter.isSome),
       ("on_queued", inspect c.hook.isSome)]

instance : Inspect (Subscription σ) where
  inspect s :=
    record "Subscription"
      [("id", inspect s.id), ("subscribed", inspect s.isOpen), ("pending", inspect s.queue.length),
       ("conf", inspect s.conf)]

instance : Inspect (Dispatcher σ) where
  inspect d :=
    record "Dispatcher" [("subscriptions", inspect d.listed.length), ("pool", inspect d.slots)] true

instance : Inspect Registry where
  inspect r :=
    record "Registry" [("devices", inspect r.devices.length), ("capacity", inspect r.capacity)] true

instance : Inspect (Hub σ) where
  inspect h :=
    record "Hub"
      [("registry", inspect h.registry), ("events", inspect h.events),
       ("dispatcher", inspect h.exchange.dispatcher)] true

def LookupKind.label : LookupKind → String
  | .any => "Any"
  | .session => "SessionDeviceId"
  | .sessionEndpoint => "SessionDeviceIdEndpoint"
  | .addr => "DeviceAddr"
  | .addrEndpoint => "DeviceAddrEndpoint"
  | .endpoint => "EndpointId"

instance : Inspect FilterMode where
  inspect
    | .none => "None"
    | .duplicate => "Duplicate"
    | .count n => applied "Count" [inspect n]
    | .interval n => applied "Interval" [inspect n]
    | .intervalMs n => applied "IntervalMs" [inspect n]
    | .subsampling n => applied "Subsampling" [inspect n]

instance : Inspect ExtendedFilter where
  inspect f :=
    record "ExtendedFilter"
      [("lookup", f.lookup.label), ("mode", inspect f.mode), ("entries", inspect f.entries.length)]

instance : Inspect BusConfig where
  inspect c :=
    record "BusConfig"
      [("max_pending_queries", inspect c.maxPendingQueries),
       ("tolerance_ms", inspect c.toleranceMs),
       ("max_query_timeout_ms", inspect c.maxQueryTimeoutMs),
       ("submission_depth", inspect c.submissionDepth), ("frame_depth", inspect c.frameDepth)]

instance : Inspect Arbiter where
  inspect a :=
    record "CaniotProtocol"
      [("outstanding", inspect a.outstanding.length), ("next_handle", inspect a.nextHandle)] true

instance {π : Type} : Inspect (Controller π) where
  inspect c :=
    record "BusController" [("config", inspect c.config), ("pending", inspect c.pending)] true

end HomeGateway
