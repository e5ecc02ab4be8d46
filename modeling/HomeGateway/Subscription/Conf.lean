import HomeGateway.Event.Basic

/-!
What a subscriber asks for: criteria on the device and kind of an event, a filter of its own
and a hook that runs after each delivery. Filter and hook work on a client state `σ` and may
ask for subscriptions to be made or closed.
-/

namespace HomeGateway

/-- Each part that is given has to fit. -/
structure Criteria where
  deviceType : Option DeviceType := none
  mac : Option MacAddr := none
  kind : Option EventKind := none
  deriving DecidableEq

namespace Criteria

/-- An address without a device type cannot be compared. -/
def check (c : Criteria) : Except SubscriptionError Unit :=
  if c.mac.isSome && (c.deviceType.isNone || c.deviceType = some .none) then
    .error (.invalidConfig "device address filter requires a device type")
  else .ok ()

def fitsType (c : Criteria) (addr : DeviceAddr) : Bool :=
  match c.deviceType with
  | some t => addr.deviceType = t
  | none => true

def fitsAddr (c : Criteria) (addr : DeviceAddr) : Bool :=
  match c.mac, c.deviceType with
  | some mac, some t => (DeviceAddr.mk t mac).sameDevice addr
  | _, _ => true

def fitsKind (c : Criteria) (kind : EventKind) : Bool :=
  match c.kind with
  | some k => kind = k
  | none => true

def fit (c : Criteria) (event : Event) : Bool :=
  c.fitsType event.addr && c.fitsAddr event.addr && c.fitsKind event.kind

end Criteria

/-- What filters and hooks see of an event. -/
structure Seen where
  event : Event
  holders : Nat

mutual

/-- The filter answers whether to queue the event. Filter and hook name their requests in
the order in which these are to be carried out. -/
structure SubscriptionConf (σ : Type) where
  criteria : Criteria := {}
  filter : Option (Seen → σ → Bool × List (SubscriptionRequest σ) × σ) := none
  hook : Option (Seen → σ → List (SubscriptionRequest σ) × σ) := none

/-- `told` learns the id of the subscription, or why there is none. -/
inductive SubscriptionRequest (σ : Type) where
  | subscribe (conf : SubscriptionConf σ) (told : Except SubscriptionError Nat → σ → σ)
  | unsubscribe (id : Nat)

end

end HomeGateway
