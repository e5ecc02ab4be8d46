import Mathlib
import HomeGateway.Proofs.Hub.Accounting
import HomeGateway.Proofs.Hub.Enrolment

/-!
Rooms over whole runs. A device is placed when it joins, in the room of the first association that
designates its address, and counted there; nothing else moves a count. A configuration that makes
sense declares every room that it associates, so each room counts the devices that stand in it.
-/

namespace HomeGateway

variable {κ σ : Type}

namespace HubConfig

/-- The first room declared under an id, by its position. -/
def position? (config : HubConfig) (id : RoomId) : Option Nat :=
  config.rooms.findIdx? fun r => r.id = id

/-- The room of a device, by its position among those declared. -/
def seat? (config : HubConfig) (d : Device) : Option Nat := d.room.bind config.position?

/-- The first association that designates an address. -/
def assoc? (config : HubConfig) (addr : DeviceAddr) : Option RoomAssoc :=
  config.roomAssocs.find? fun a => a.addr.sameDevice addr

/-- Every association is with a declared room. -/
theorem check_declares {config : HubConfig} (h : config.check = .ok ()) :
    ∀ a ∈ config.roomAssocs, ∃ r ∈ config.rooms, r.id = a.room := by
  intro a ha
  unfold HubConfig.check at h
  cases hundeclared : config.roomAssocs.find? fun a => !config.rooms.any fun r => r.id = a.room with
  | some other =>
    simp only [hundeclared, checkPositive, bind, Except.bind] at h
    split at h
    · cases h
    split at h
    · cases h
    split at h
    · cases h
    · cases h
  | none =>
    have hdeclared := List.find?_eq_none.mp hundeclared a ha
    simpa using hdeclared

/-- Whoever is placed by a declared association has a seat. -/
theorem seat?_isSome {config : HubConfig} {d : Device}
    (hplaced : d.room = (config.assoc? d.addr).map RoomAssoc.room)
    (hdeclares : ∀ a ∈ config.roomAssocs, ∃ r ∈ config.rooms, r.id = a.room) :
    (config.seat? d).isSome = d.room.isSome := by
  unfold seat?
  rw [hplaced]
  cases hassoc : config.assoc? d.addr with
  | none => rfl
  | some a =>
    obtain ⟨r, hr, hid⟩ := hdeclares a (List.mem_of_find?_eq_some hassoc)
    rw [Option.map_some, Option.bind_some, Option.isSome_some, position?, List.findIdx?_isSome,
      List.any_eq_true]
    exact ⟨r, hr, decide_eq_true hid⟩

end HubConfig

namespace RoomTable

/-- Counting a device in changes the room that stands first under its id, if there is one. -/
theorem countIn_getElem? (id : RoomId) (rooms : List Room) (i : Nat) :
    (countIn id rooms)[i]? = rooms[i]?.map fun r =>
      if rooms.findIdx? (fun r => r.id = id) = some i then { r with devices := r.devices + 1 }
      else r := by
  induction rooms generalizing i with
  | nil => rfl
  | cons first rest ih =>
    unfold countIn
    rw [List.findIdx?_cons]
    by_cases hid : first.id = id
    · rw [if_pos hid]
      cases i <;> simp [hid]
    · rw [if_neg hid]
      cases i with
      | zero => simp [hid]
      | succ i => simp [hid, ih]

/-- Rooms stay what they are declared as. -/
def configs (table : RoomTable) : List RoomConfig :=
  table.rooms.map fun r => { id := r.id, name := r.name }

theorem configs_ofConfig (rooms : List RoomConfig) (assocs : List RoomAssoc) :
    (ofConfig rooms assocs).configs = rooms := by
  unfold configs ofConfig
  rw [List.map_map]
  exact List.map_id rooms

/-- The table and the configuration agree about which room stands first under an id. -/
theorem findIdx?_of_configs {config : HubConfig} {table : RoomTable}
    (h : table.configs = config.rooms) (id : RoomId) :
    table.rooms.findIdx? (fun r => r.id = id) = config.position? id := by
  unfold HubConfig.position?
  rw [← h, configs, List.findIdx?_map]
  rfl

theorem configs_countIn (id : RoomId) (table : RoomTable) :
    { table with rooms := countIn id table.rooms }.configs = table.configs := by
  apply List.ext_getElem?
  intro i
  simp only [configs, List.getElem?_map, countIn_getElem?, Option.map_map]
  congr 1
  funext r
  simp only [Function.comp_apply]
  split <;> rfl

/-- Where every association is with a declared room, the first that designates an address tells
its room. -/
theorem placeOf?_eq {config : HubConfig} {table : RoomTable} (hrooms : table.configs = config.rooms)
    (hassocs : table.assocs = config.roomAssocs)
    (hdeclares : ∀ a ∈ config.roomAssocs, ∃ r ∈ config.rooms, r.id = a.room) (addr : DeviceAddr) :
    table.placeOf? addr = (config.assoc? addr).map RoomAssoc.room := by
  unfold placeOf? HubConfig.assoc?
  rw [hassocs]
  cases hassoc : config.roomAssocs.find? fun a => a.addr.sameDevice addr with
  | none => rfl
  | some a =>
    obtain ⟨r, hr, hid⟩ := hdeclares a (List.mem_of_find?_eq_some hassoc)
    rw [← hrooms] at hr
    obtain ⟨room, hroom, rfl⟩ := List.mem_map.mp hr
    cases hfind : table.find? a.room with
    | none =>
      have hnone := List.find?_eq_none.mp hfind room hroom
      exact absurd (decide_eq_true hid) hnone
    | some found =>
      have hsame : found.id = a.room := by simpa using List.find?_some hfind
      simp [hfind, hsame]

end RoomTable

namespace Registry

variable {r next : Registry} {config : HubConfig} {d : Device}

/-- The rooms are those of the configuration, every device stands where its address puts it, and
every room counts the devices that stand in it. -/
structure Housed (r : Registry) (config : HubConfig) : Prop where
  rooms : r.rooms.configs = config.rooms
  assocs : r.rooms.assocs = config.roomAssocs
  placed : ∀ d ∈ r.devices, d.room = (config.assoc? d.addr).map RoomAssoc.room
  counted : ∀ i room, r.rooms.rooms[i]? = some room →
    room.devices = r.devices.countP fun d => config.seat? d = some i

/-- A device that joins is placed by its address. -/
theorem room_of_register {addr : DeviceAddr} {now : UInt32} (hjoins : r.Joins addr d)
    (h : r.register addr now = (.ok r.devices.length, r.enrol d)) :
    d.room = r.rooms.placeOf? addr := by
  unfold register at h
  rw [hjoins.unknown] at h
  dsimp only at h
  split at h
  · cases h
  · have hdevices := congrArg (fun answer => answer.2.devices) h
    simp only [enrol, List.append_cancel_left_eq, List.cons.injEq, and_true] at hdevices
    rw [← hdevices]
    unfold RoomTable.assign
    split <;> simp_all

theorem Housed.enrol (h : r.Housed config)
    (hdeclares : ∀ a ∈ config.roomAssocs, ∃ r ∈ config.rooms, r.id = a.room)
    (hroom : d.room = r.rooms.placeOf? d.addr) : (r.enrol d).Housed config := by
  have hplace := RoomTable.placeOf?_eq h.rooms h.assocs hdeclares d.addr
  have hplaced : ∀ other ∈ r.devices ++ [d],
      other.room = (config.assoc? other.addr).map RoomAssoc.room := by
    intro other hother
    rcases List.mem_append.mp hother with hold | hnew
    · exact h.placed other hold
    · rw [List.mem_singleton.mp hnew, hroom, hplace]
  unfold Registry.enrol RoomTable.assign
  cases hid : r.rooms.placeOf? d.addr with
  | none =>
    refine ⟨h.rooms, h.assocs, hplaced, ?_⟩
    intro i room hget
    rw [List.countP_append, ← h.counted i room hget, List.countP_singleton]
    simp [HubConfig.seat?, hroom, hid]
  | some id =>
    refine ⟨?_, h.assocs, hplaced, ?_⟩
    · exact (r.rooms.configs_countIn id).trans h.rooms
    · intro i room hget
      dsimp only at hget
      rw [RoomTable.countIn_getElem?, RoomTable.findIdx?_of_configs h.rooms] at hget
      obtain ⟨before, hbefore, rfl⟩ := Option.map_eq_some_iff.mp hget
      rw [List.countP_append, ← h.counted i before hbefore, List.countP_singleton]
      simp only [HubConfig.seat?, hroom, hid, Option.bind_some]
      by_cases hseat : config.position? id = some i <;> simp [hseat]

theorem new_housed {config : HubConfig} (capacity : Nat)
    (capability? : DeviceType → Option Capability) :
    (Registry.new capacity capability? (.ofConfig config.rooms config.roomAssocs)).Housed
      config where
  rooms := RoomTable.configs_ofConfig config.rooms config.roomAssocs
  assocs := rfl
  placed := by simp [Registry.new]
  counted i room hget := by
    simp only [Registry.new, RoomTable.ofConfig, List.getElem?_map] at hget
    obtain ⟨declared, -, rfl⟩ := Option.map_eq_some_iff.mp hget
    rfl

/-- Rooms are of what devices were when they joined. -/
theorem Housed.update (h : r.Housed config) (index : Nat) {f : Device → Device}
    (hsame : ∀ d, (f d).asRegistered = d.asRegistered) : (r.update index f).Housed config := by
  have hdevices := r.update_asRegistered index hsame
  refine ⟨h.rooms, h.assocs, ?_, ?_⟩
  · intro d hd
    have hmapped : d.asRegistered ∈ (r.update index f).devices.map Device.asRegistered :=
      List.mem_map_of_mem hd
    rw [hdevices] at hmapped
    obtain ⟨earlier, hearlier, heq⟩ := List.mem_map.mp hmapped
    rw [← Device.room_of_same heq, ← Device.addr_of_same heq]
    exact h.placed earlier hearlier
  · intro i room hget
    have hcount (devices : List Device) :
        devices.countP (fun d => config.seat? d = some i) =
          (devices.map Device.asRegistered).countP fun d => config.seat? d = some i := by
      rw [List.countP_map]
      rfl
    rw [hcount, hdevices, ← hcount]
    exact h.counted i room hget

theorem Becomes.housed (h : r.Becomes next)
    (hdeclares : ∀ a ∈ config.roomAssocs, ∃ r ∈ config.rooms, r.id = a.room)
    (hfirst : r.Housed config) : next.Housed config := by
  induction h with
  | refl => exact hfirst
  | @register mid addr now _ ih =>
    rcases mid.register_cases addr now with
      ⟨index, -, hcase⟩ | ⟨halt, -, -, hcase⟩ | ⟨d, hjoins, hcase⟩
    · rw [hcase]
      exact ih
    · rw [hcase]
      exact ih
    · have hroom := room_of_register hjoins hcase
      rw [← hjoins.address] at hroom
      rw [hcase]
      exact ih.enrol hdeclares hroom
  | update index f hsame _ ih => exact ih.update index hsame

/-- Who is seated is counted at one seat. -/
theorem sum_countP_seats {α : Type} {seat? : α → Option Nat} {n : Nat} {l : List α}
    (h : ∀ a ∈ l, ∀ i, seat? a = some i → i < n) :
    (∑ i : Fin n, l.countP fun a => seat? a = some i.val) =
      l.countP fun a => (seat? a).isSome := by
  induction l with
  | nil => simp
  | cons a rest ih =>
    have hrest := ih fun b hb => h b (List.mem_cons_of_mem a hb)
    simp only [List.countP_cons, Finset.sum_add_distrib, hrest]
    congr 1
    cases hseat : seat? a with
    | none => simp
    | some j =>
      have hj := h a List.mem_cons_self j hseat
      have hhere (i : Fin n) : some j = some i.val ↔ ⟨j, hj⟩ = i := by simp [Fin.ext_iff]
      simp only [decide_eq_true_eq, hhere, Finset.sum_ite_eq, Finset.mem_univ, if_true,
        Option.isSome_some]

/-- The counts of all rooms together are of the devices that have one. -/
theorem Housed.total (h : r.Housed config)
    (hdeclares : ∀ a ∈ config.roomAssocs, ∃ r ∈ config.rooms, r.id = a.room) :
    (r.rooms.rooms.map Room.devices).sum = r.devices.countP fun d => d.room.isSome := by
  have hlength : r.rooms.rooms.length = config.rooms.length := by
    rw [← h.rooms, RoomTable.configs, List.length_map]
  have hseats : ∀ d ∈ r.devices, ∀ i, config.seat? d = some i → i < r.rooms.rooms.length := by
    intro d _ i hseat
    obtain ⟨id, -, hposition⟩ := Option.bind_eq_some_iff.mp hseat
    rw [hlength]
    exact (List.findIdx?_eq_some_iff_getElem.mp hposition).1
  calc (r.rooms.rooms.map Room.devices).sum
      = ∑ i : Fin r.rooms.rooms.length, r.rooms.rooms[i].devices :=
        (Fin.sum_univ_fun_getElem _ _).symm
    _ = ∑ i : Fin r.rooms.rooms.length, r.devices.countP fun d => config.seat? d = some i.val :=
        Finset.sum_congr rfl fun i _ => h.counted i _ (List.getElem?_eq_getElem i.isLt)
    _ = r.devices.countP fun d => (config.seat? d).isSome := sum_countP_seats hseats
    _ = r.devices.countP fun d => d.room.isSome := by
        refine List.countP_congr fun d hd => ?_
        rw [HubConfig.seat?_isSome (h.placed d hd) hdeclares]

end Registry

namespace Hub

variable {hub : Hub σ} {addr : DeviceAddr}

/-- A hub is made of a configuration that makes sense. -/
theorem check_of_new {config : HubConfig} {capability? : DeviceType → Option Capability}
    {now : UInt32} (h : Hub.new config capability? now = .ok hub) : config.check = .ok () := by
  unfold Hub.new at h
  split at h
  · cases h
  · assumption

/-- Where nobody joins, no count moves. -/
theorem register_rooms (h : (hub.registry.locate? addr).isSome ∨
      ∃ halt, (hub.register addr).1 = .error halt) :
    (hub.register addr).2.registry.rooms = hub.registry.rooms := by
  rw [register_result] at h
  rw [register_registry]
  rcases hub.registry.register_cases addr hub.now with
    ⟨index, -, hcase⟩ | ⟨halt, -, -, hcase⟩ | ⟨d, hjoins, hcase⟩
  · rw [hcase]
  · rw [hcase]
  · rw [hcase, hjoins.unknown] at h
    rcases h with hknown | ⟨halt, herror⟩
    · cases hknown
    · cases herror

theorem absorb_rooms (hub : Hub σ) (index : Nat) (device : Device) (payload : Payload) :
    (hub.absorb index device payload).2.registry.rooms = hub.registry.rooms := by
  unfold Hub.absorb
  split
  · rfl
  · dsimp only
    split
    · unfold Hub.retain
      dsimp only
      split <;> rfl
    · rfl

/-- Whatever becomes of a payload, the rooms are as its device left them when it joined. -/
theorem receive_rooms (hub : Hub σ) (addr : DeviceAddr) (bytes : List UInt8) (timestamp : UInt32)
    (client : σ) :
    (hub.receive addr bytes timestamp client).2.1.registry.rooms =
      (hub.register addr).2.registry.rooms := by
  rw [receive_registry]
  rcases hub.intake_cases addr { bytes, timestamp } with
    ⟨cause, -, hcase⟩ | ⟨-, hcase⟩ | ⟨index, device, -, -, result, next, habsorb, hcase⟩
  · rw [hcase]
  · rw [hcase]
  · have habsorbed := (hub.register addr).2.absorb_rooms index device { bytes, timestamp }
    rw [habsorb] at habsorbed
    rw [hcase]
    exact habsorbed

theorem command_rooms (hub : Hub σ) (addr : DeviceAddr) (endpoint : Nat) (value : DataValue)
    (client : σ) :
    (hub.command addr endpoint value client).2.1.registry.rooms = hub.registry.rooms := by
  rw [command_registry]
  unfold Hub.order
  split
  · rfl
  · split
    · rw [report_registry]
      rfl
    · rw [report_registry]
      rfl

end Hub

namespace HubInUse

/-- Only devices that join are counted in. -/
theorem operate_rooms (confOf : Nat → κ → SubscriptionConf σ) (e : HubInUse κ σ)
    (operation : HubOperation κ) :
    (e.operate confOf operation).hub.registry.rooms =
      match operation with
      | .register addr | .receive addr _ => (e.hub.register addr).2.registry.rooms
      | _ => e.hub.registry.rooms := by
  rw [operate_registry]
  cases operation with
  | receive addr payload => exact e.hub.receive_rooms addr payload.bytes payload.timestamp e.client
  | command addr endpoint value => exact e.hub.command_rooms addr endpoint value e.client
  | _ => rfl

/-- How the devices stand in the rooms, and what would move the counts. -/
structure Placed (confOf : Nat → κ → SubscriptionConf σ) (config : HubConfig) (e : HubInUse κ σ) :
    Prop where
  /-- The rooms are those declared, in order. -/
  rooms : e.hub.registry.rooms.configs = config.rooms
  roomed : ∀ d ∈ e.hub.registry.devices,
    d.room.isSome ↔ ∃ a ∈ config.roomAssocs, a.addr.sameDevice d.addr
  /-- The first association that designates a device names its room, which is declared. -/
  named : ∀ d ∈ e.hub.registry.devices, ∀ a,
    config.roomAssocs.find? (fun a => a.addr.sameDevice d.addr) = some a → d.room = some a.room ∧
      config.seat? d = config.position? a.room ∧
      ∃ i room, config.position? a.room = some i ∧ e.hub.registry.rooms.rooms[i]? = some room ∧
        e.hub.registry.rooms.find? a.room = some room
  counted : ∀ i room, e.hub.registry.rooms.rooms[i]? = some room →
    room.devices = e.hub.registry.devices.countP fun d => config.seat? d = some i
  total : (e.hub.registry.rooms.rooms.map Room.devices).sum =
    e.hub.registry.devices.countP fun d => d.room.isSome
  /-- Only a device that joins is counted in, whatever becomes of the payload that it joins with. -/
  moved : ∀ operation, (e.operate confOf operation).hub.registry.rooms =
    match operation with
    | .register addr | .receive addr _ => (e.hub.register addr).2.registry.rooms
    | _ => e.hub.registry.rooms
  unmoved : ∀ addr, (e.hub.registry.locate? addr).isSome ∨
      (∃ halt, (e.hub.register addr).1 = .error halt) →
    (e.hub.register addr).2.registry.rooms = e.hub.registry.rooms

theorem placed_of_housed {confOf : Nat → κ → SubscriptionConf σ} {config : HubConfig}
    {e : HubInUse κ σ} (h : e.hub.registry.Housed config)
    (hdeclares : ∀ a ∈ config.roomAssocs, ∃ r ∈ config.rooms, r.id = a.room) :
    e.Placed confOf config where
  rooms := h.rooms
  roomed d hd := by
    rw [h.placed d hd, Option.isSome_map, HubConfig.assoc?, List.find?_isSome]
  named d hd a hassoc := by
    have hroom : d.room = some a.room := by
      rw [h.placed d hd, HubConfig.assoc?, hassoc, Option.map_some]
    have hseat : config.seat? d = config.position? a.room := by
      rw [HubConfig.seat?, hroom, Option.bind_some]
    have hdeclared := HubConfig.seat?_isSome (h.placed d hd) hdeclares
    rw [hseat, hroom] at hdeclared
    obtain ⟨i, hi⟩ := Option.isSome_iff_exists.mp hdeclared
    refine ⟨hroom, hseat, i, ?_⟩
    rw [← RoomTable.findIdx?_of_configs h.rooms] at hi ⊢
    obtain ⟨hlt, -⟩ := List.findIdx?_eq_some_iff_getElem.mp hi
    refine ⟨_, hi, List.getElem?_eq_getElem hlt, ?_⟩
    rw [RoomTable.find?, List.find?_eq_bind_findIdx?_getElem?, hi, Option.bind_some,
      List.getElem?_eq_getElem hlt]
  counted := h.counted
  total := h.total hdeclares
  moved := e.operate_rooms confOf
  unmoved _ hsettled := Hub.register_rooms hsettled

/-- Whatever clients do with a new hub, a device has a room if an association designates it, and
then it is the one that the first such association names. The counts are of the devices in the
rooms, and nothing moves them but a device that joins. -/
theorem states_placed {config : HubConfig} {capability? : DeviceType → Option Capability}
    {now : UInt32} {hub : Hub σ} (hnew : Hub.new config capability? now = .ok hub) (client : σ)
    (confOf : Nat → κ → SubscriptionConf σ) (actions : List (HubAction κ σ)) :
    ∀ e ∈ states confOf actions (HubInUse.start hub client), e.Placed confOf config := by
  intro e he
  have hdeclares := HubConfig.check_declares (Hub.check_of_new hnew)
  have hbecomes := states_reached (registry_moves confOf) actions _ e he
  refine placed_of_housed (hbecomes.housed hdeclares ?_) hdeclares
  rw [Hub.new_eq hnew]
  exact Registry.new_housed _ _

/-- Two rooms of one id, a board that registers twice, and the board of the gateway, which sends no
number when it joins. -/
theorem states_placed_twice :
    let config : HubConfig :=
      { rooms := [⟨.kitchen, "Kitchen"⟩, ⟨.kitchen, "Pantry"⟩, ⟨.office, "Office"⟩]
        roomAssocs := [⟨.office, .bus ⟨24⟩⟩, ⟨.kitchen, .onBoard .nucleoF429zi⟩] }
    ∃ hub : Hub Unit, Hub.new config Builtin.capability? 0 = .ok hub ∧
      let run := states (fun _ (conf : SubscriptionConf Unit) => conf)
        [.operate (.register (.bus ⟨24⟩)), .operate (.register (.bus ⟨24⟩)),
          .operate
            (.receive (.onBoard .nucleoF429zi) { bytes := [0, 0, 192, 127], timestamp := 5 })]
        (HubInUse.start hub ())
      ∃ e ∈ run, e.hub.registry.rooms.rooms.map Room.devices = [1, 0, 1] ∧
        e.Placed (fun _ conf => conf) config := by
  intro config
  refine ⟨_, rfl, ?_⟩
  intro run
  have hlast := List.mem_of_getElem? (l := run) (i := 3) rfl
  refine ⟨_, hlast, rfl, ?_⟩
  exact @states_placed _ _ config Builtin.capability? 0 _ rfl () _ _ _ hlast

end HubInUse

end HomeGateway
