import HomeGateway.Hub

/-!
Surveys of the known devices: the selected ones are visited in registration order, and the
visitor may change the hub, so that devices it adds are visited too.
-/

namespace HomeGateway

/-- Every criterion is optional. -/
structure Selection where
  medium : Option Medium := none
  deviceType : Option DeviceType := none
  /-- Devices that keep an event, on one endpoint or, with `some none`, on any. -/
  data : Option (Option EndpointId) := none
  /-- Of these, no device whose event is older. -/
  since : Option UInt32 := none
  /-- No device of another room; one without a room stays. -/
  room : Option RoomId := none
  fromIndex : Option Nat := none
  toIndex : Option Nat := none
  maxCount : Option Nat := none

namespace Selection

/-- The event that the data criterion looks at. -/
def eventOf (endpoint : Option EndpointId) (device : Device) : Option EventRef :=
  match endpoint with
  | none => device.firstRetained?
  | some id => (device.indexOf? id).bind device.retained?

def fitsData (s : Selection) (events : EventStore) (device : Device) : Bool :=
  match s.data with
  | none => true
  | some endpoint =>
    match (eventOf endpoint device).bind events.find? with
    | none => false
    | some stored => s.since.all fun since => since ≤ stored.event.timestamp

def fits (s : Selection) (events : EventStore) (device : Device) : Bool :=
  s.medium.all (fun m => device.addr.medium = m) &&
  s.deviceType.all (fun t => device.addr.deviceType = t) &&
  s.fitsData events device &&
  (match s.room, device.room with
    | some wanted, some room => room = wanted
    | _, _ => true)

/-- Where a survey of `count` devices ends. -/
def stop (s : Selection) (count : Nat) : Nat :=
  match s.toIndex with
  | some limit => min limit count
  | none => count

end Selection

/-- What a visitor is shown: a position, and the kept events that are held for it. -/
structure Visit where
  index : Nat
  pinned : List (Option EventRef)

namespace Hub

variable {σ τ : Type}

def holdAll (hub : Hub σ) (refs : List EventRef) : Hub σ :=
  hub.withEvents (refs.foldl EventStore.hold hub.events)

def releaseAll (hub : Hub σ) (refs : List EventRef) : Hub σ :=
  hub.withEvents (hub.events.releaseAll refs)

/-- Visits from position `index` on; `left` counts the positions up to the capacity of the
registry, past which there is no device. `memo` is the visitor's own state. -/
def surveyFrom (s : Selection) (pinMask : UInt32)
    (visit : Visit → Hub σ → τ → Bool × Hub σ × τ) :
    Nat → Nat → Nat → Hub σ → τ → Nat × Hub σ × τ
  | 0, _, count, hub, memo => (count, hub, memo)
  | left + 1, index, count, hub, memo =>
    if s.maxCount.any fun max => max ≤ count then (count, hub, memo)
    else if s.stop hub.registry.devices.length ≤ index then (count, hub, memo)
    else
      match hub.registry.devices[index]? with
      | none => (count, hub, memo)
      | some device =>
        if !s.fits hub.events device then
          surveyFrom s pinMask visit left (index + 1) count hub memo
        else
          let pinned := device.pins pinMask
          let held := pinned.filterMap id
          let (broke, hub, memo) := visit { index, pinned } (hub.holdAll held) memo
          let hub := hub.releaseAll held
          if broke then (count + 1, hub, memo)
          else surveyFrom s pinMask visit left (index + 1) (count + 1) hub memo

/-- Visits the selected devices until the visitor breaks off or enough were visited. The
answer is the number of visits. Bit `i` of the mask pins what endpoint `i` keeps. -/
def survey (hub : Hub σ) (s : Selection) (pinMask : UInt32)
    (visit : Visit → Hub σ → τ → Bool × Hub σ × τ) (memo : τ) :
    Except Error Nat × Hub σ × τ :=
  let start := s.fromIndex.getD 0
  if s.stop hub.registry.devices.length ≤ start then
    (.error (.registry .noDevices), hub, memo)
  else
    let (count, hub, memo) :=
      surveyFrom s pinMask visit (hub.registry.capacity - start) start 0 hub memo
    (.ok count, hub, memo)

end Hub

end HomeGateway
