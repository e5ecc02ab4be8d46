import HomeGateway.Device.Address

/-! Rooms, and the addresses of the devices that stand in them. -/

namespace HomeGateway

inductive RoomId where
  | none
  | entrance
  | livingRoom
  | kitchen
  | diningRoom
  | stairs
  | bathroom
  | toilet
  | storeRoom
  | garageLeft
  | garageRight
  | garageBack
  | workshop
  | boilerRoom
  | laundry
  | floorCorridor
  | floorBathroom
  | floorToilet
  | office
  | gamesRoom
  | bedroom1
  | bedroom1Dressing
  | bedroom2
  | bedroom3
  | floorStairs
  | loftOffice
  | loftKitchen
  | loftBedroom
  | loftDressing
  | atticSouth
  | atticNorth
  deriving DecidableEq

instance : Enumeration RoomId where
  all := [.none, .entrance, .livingRoom, .kitchen, .diningRoom, .stairs, .bathroom, .toilet,
    .storeRoom, .garageLeft, .garageRight, .garageBack, .workshop, .boilerRoom, .laundry,
    .floorCorridor, .floorBathroom, .floorToilet, .office, .gamesRoom, .bedroom1,
    .bedroom1Dressing, .bedroom2, .bedroom3, .floorStairs, .loftOffice, .loftKitchen,
    .loftBedroom, .loftDressing, .atticSouth, .atticNorth]
  tag
    | .none => "none"
    | .entrance => "entrance"
    | .livingRoom => "living_room"
    | .kitchen => "kitchen"
    | .diningRoom => "dining_room"
    | .stairs => "stairs"
    | .bathroom => "bathroom"
    | .toilet => "toilet"
    | .storeRoom => "store_room"
    | .garageLeft => "garage_left"
    | .garageRight => "garage_right"
    | .garageBack => "garage_back"
    | .workshop => "workshop"
    | .boilerRoom => "boiler_room"
    | .laundry => "laundry"
    | .floorCorridor => "floor_corridor"
    | .floorBathroom => "floor_bathroom"
    | .floorToilet => "floor_toilet"
    | .office => "office"
    | .gamesRoom => "games_room"
    | .bedroom1 => "bedroom1"
    | .bedroom1Dressing => "bedroom1_dressing"
    | .bedroom2 => "bedroom2"
    | .bedroom3 => "bedroom3"
    | .floorStairs => "floor_stairs"
    | .loftOffice => "loft_office"
    | .loftKitchen => "loft_kitchen"
    | .loftBedroom => "loft_bedroom"
    | .loftDressing => "loft_dressing"
    | .atticSouth => "attic_south"
    | .atticNorth => "attic_north"

/-- A room as declared in a configuration. -/
structure RoomConfig where
  id : RoomId
  name : String
  deriving DecidableEq

/-- Puts the device of an address into a room. -/
structure RoomAssoc where
  room : RoomId
  addr : DeviceAddr
  deriving DecidableEq

structure Room where
  id : RoomId
  name : String
  /-- How many devices were placed in it. -/
  devices : Nat

structure RoomTable where
  rooms : List Room
  assocs : List RoomAssoc

namespace RoomTable

def ofConfig (rooms : List RoomConfig) (assocs : List RoomAssoc) : RoomTable :=
  { rooms := rooms.map fun r => { id := r.id, name := r.name, devices := 0 }, assocs }

/-- The first room declared under an id. -/
def find? (table : RoomTable) (id : RoomId) : Option Room :=
  table.rooms.find? fun r => r.id = id

/-- The room of the first association that designates an address, if it is declared. -/
def placeOf? (table : RoomTable) (addr : DeviceAddr) : Option RoomId := do
  let assoc ← table.assocs.find? fun a => a.addr.sameDevice addr
  let room ← table.find? assoc.room
  return room.id

/-- Counts a device in the first room declared under an id. -/
def countIn (id : RoomId) : List Room → List Room
  | [] => []
  | r :: rest =>
    if r.id = id then { r with devices := r.devices + 1 } :: rest else r :: countIn id rest

/-- Places a new device. -/
def assign (table : RoomTable) (addr : DeviceAddr) : Option RoomId × RoomTable :=
  match table.placeOf? addr with
  | some id => (some id, { table with rooms := countIn id table.rooms })
  | none => (none, table)

end RoomTable

end HomeGateway
