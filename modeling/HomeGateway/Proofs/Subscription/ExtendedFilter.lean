import Mathlib
import HomeGateway.Event.Basic
import HomeGateway.Subscription.ExtendedFilter

/-!
# Filters with memory, key by key

The entries of a filter share one table, but none looks at another. A filter thus works as one
small machine for each key, that of `decideKey`, and what it decides about an event follows
from the timestamps of the earlier events of its key alone, back to the last `clear`.
-/

namespace HomeGateway

namespace FilterMode

/-- The modes that a filter can be made with. -/
def Supported : FilterMode → Prop
  | .intervalMs _ => False
  | .subsampling n => n ≠ 0
  | _ => True

/-- The states an entry goes through in each mode. Each has a branch of its own in
`ExtendedFilter.decideOn`. -/
inductive Keeps : FilterMode → EntryState → Prop where
  | none : Keeps .none .seen
  | duplicate : Keeps .duplicate .seen
  | count (limit n : UInt32) : Keeps (.count limit) (.count n)
  | interval (gap last : UInt32) : Keeps (.interval gap) (.lastAccepted last)
  | subsampling (ratio n : UInt32) : Keeps (.subsampling ratio) (.position n)

end FilterMode

/-- What is done to a filter. -/
inductive FilterUse where
  | present (event : Event)
  | clear

/-- The events since the last `clear`, `events` those before. -/
def FilterUse.since (events : List Event) : FilterUse → List Event
  | .present event => events ++ [event]
  | .clear => []

namespace ExtendedFilter

variable {f : ExtendedFilter} {mode : FilterMode} {lookup : LookupKind}

/-- The events a filter was shown since it was made or last cleared. -/
def shown (uses : List FilterUse) : List Event := uses.foldl FilterUse.since []

def decides (f : ExtendedFilter) (event : Event) : Bool :=
  (f.accept event.session event.timestamp).1

def take (f : ExtendedFilter) : FilterUse → ExtendedFilter
  | .present event => (f.accept event.session event.timestamp).2
  | .clear => f.clear

def run (f : ExtendedFilter) (uses : List FilterUse) : ExtendedFilter := uses.foldl take f

/-- The events of a key. -/
def ofKey (f : ExtendedFilter) (key : Option SessionId) (events : List Event) : List Event :=
  events.filter fun event => f.key event.session = key

/-- The events before `event` that have its key. -/
def earlier (f : ExtendedFilter) (event : Event) (events : List Event) : List Event :=
  f.ofKey (f.key event.session) events

theorem ofKey_snoc (f : ExtendedFilter) (key : Option SessionId) (events : List Event)
    (event : Event) :
    f.ofKey key (events ++ [event]) =
      f.ofKey key events ++ if f.key event.session = key then [event] else [] := by
  simp [ofKey, List.filter_cons]

theorem since_presented (before events : List Event) :
    (events.map FilterUse.present).foldl FilterUse.since before = before ++ events := by
  induction events generalizing before with
  | nil => simp
  | cons event events ih => simp [ih, FilterUse.since]

theorem new_supported (hlookup : lookup = .any ∨ lookup = .session) (hmode : mode.Supported) :
    ExtendedFilter.new lookup mode = .ok { lookup, mode, entries := [] } := by
  have hkind : ¬ (lookup ≠ .any ∧ lookup ≠ .session) := by
    rintro ⟨hany, hsession⟩
    exact hlookup.elim hany hsession
  unfold ExtendedFilter.new
  rw [if_neg hkind]
  cases mode with
  | none | duplicate | count | interval => rfl
  | intervalMs n => exact absurd hmode id
  | subsampling n =>
    have hn : n ≠ 0 := hmode
    -- The pattern is a literal; whether it fits is decided on the number within the word.
    obtain ⟨⟨⟨v, hv⟩⟩⟩ := n
    cases v with
    | zero => exact absurd rfl hn
    | succ v => rfl

/-! ## One key -/

/-- What an event does to the entry of its key, which it makes if there is none. -/
def decideKey (mode : FilterMode) (state : Option EntryState) (timestamp : UInt32) :
    Bool × EntryState :=
  match state with
  | none => decideOn mode true timestamp (initialState mode timestamp)
  | some state => decideOn mode false timestamp state

/-- The state of an entry after events of these timestamps. -/
def stateAfter (mode : FilterMode) (timestamps : List UInt32) : Option EntryState :=
  timestamps.foldl (fun state timestamp => some (decideKey mode state timestamp).2) none

@[simp]
theorem stateAfter_nil : stateAfter mode [] = none := rfl

@[simp]
theorem stateAfter_snoc (timestamps : List UInt32) (timestamp : UInt32) :
    stateAfter mode (timestamps ++ [timestamp]) =
      some (decideKey mode (stateAfter mode timestamps) timestamp).2 := by
  simp [stateAfter]

theorem initialState_kept (hmode : mode.Supported) (timestamp : UInt32) :
    mode.Keeps (initialState mode timestamp) := by
  cases mode with
  | intervalMs n => exact absurd hmode id
  | none => exact .none
  | duplicate => exact .duplicate
  | count limit => exact .count limit 0
  | interval gap => exact .interval gap timestamp
  | subsampling ratio => exact .subsampling ratio 0

theorem decideOn_kept {state : EntryState} (h : mode.Keeps state) (created : Bool)
    (timestamp : UInt32) : mode.Keeps (decideOn mode created timestamp state).2 := by
  cases h with
  | none => exact .none
  | duplicate => exact .duplicate
  | count limit n => exact .count limit _
  | interval gap last =>
    simp only [decideOn]
    split
    · exact .interval gap last
    · split <;> exact .interval gap _
  | subsampling ratio n => exact .subsampling ratio _

theorem stateAfter_kept (hmode : mode.Supported) (timestamps : List UInt32) :
    ∀ state ∈ stateAfter mode timestamps, mode.Keeps state := by
  induction timestamps using List.reverseRecOn with
  | nil => simp
  | append_singleton timestamps timestamp ih =>
    simp only [stateAfter_snoc, Option.mem_some_iff, forall_eq']
    cases h : stateAfter mode timestamps with
    | none => exact decideOn_kept (initialState_kept hmode timestamp) true timestamp
    | some state => exact decideOn_kept (ih state h) false timestamp

/-- A counter of 32 bits that stays at its greatest value. -/
def saturated (j : Nat) : UInt32 := .ofNat (min j 0xFFFFFFFF)

theorem toNat_saturated (j : Nat) : (saturated j).toNat = min j 0xFFFFFFFF := by
  have hlt : min j 0xFFFFFFFF < UInt32.size :=
    Nat.lt_of_le_of_lt (Nat.min_le_right j 0xFFFFFFFF) (by decide)
  exact UInt32.toNat_ofNat_of_lt' hlt

theorem saturated_succ (j : Nat) :
    (if saturated j = 0xFFFFFFFF then saturated j else saturated j + 1) = saturated (j + 1) := by
  have hword : (0xFFFFFFFF : UInt32).toNat = 0xFFFFFFFF := rfl
  split <;> rename_i h <;> rw [← UInt32.toNat_inj, toNat_saturated, hword] at h <;>
    rw [← UInt32.toNat_inj, toNat_saturated]
  · rw [toNat_saturated]
    omega
  · rw [UInt32.toNat_add, toNat_saturated, UInt32.toNat_one]
    omega

theorem decideKey_none (timestamps : List UInt32) (timestamp : UInt32) :
    decideKey .none (stateAfter .none timestamps) timestamp = (true, .seen) := by
  induction timestamps using List.reverseRecOn generalizing timestamp with
  | nil => rfl
  | append_singleton timestamps last ih =>
    rw [stateAfter_snoc, ih]
    rfl

theorem decideKey_duplicate (timestamps : List UInt32) (timestamp : UInt32) :
    decideKey .duplicate (stateAfter .duplicate timestamps) timestamp =
      (decide (timestamps.length = 0), .seen) := by
  induction timestamps using List.reverseRecOn generalizing timestamp with
  | nil => rfl
  | append_singleton timestamps last ih =>
    rw [stateAfter_snoc, ih]
    simp [decideKey, decideOn]

theorem decideKey_count (limit : UInt32) (timestamps : List UInt32) (timestamp : UInt32) :
    decideKey (.count limit) (stateAfter (.count limit) timestamps) timestamp =
      (decide (saturated (timestamps.length + 1) ≤ limit),
        .count (saturated (timestamps.length + 1))) := by
  induction timestamps using List.reverseRecOn generalizing timestamp with
  | nil => rfl
  | append_singleton timestamps last ih =>
    rw [stateAfter_snoc, ih]
    simp only [decideKey, decideOn, saturated_succ, List.length_append, List.length_singleton]

/-- The place that event `j` of a key has in its cycle of `ratio` events. -/
def place (ratio : UInt32) (j : Nat) : UInt32 := .ofNat (j % ratio.toNat)

theorem toNat_place_lt {ratio : UInt32} (hratio : ratio ≠ 0) (j : Nat) :
    (place ratio j).toNat = j % ratio.toNat ∧ j % ratio.toNat < ratio.toNat := by
  have hpos : ratio.toNat ≠ 0 := fun h => hratio (UInt32.toNat_inj.mp h)
  have hlt : j % ratio.toNat < ratio.toNat := Nat.mod_lt j (by omega)
  have hsize := ratio.toNat_lt
  exact ⟨UInt32.toNat_ofNat_of_lt' (by simp only [UInt32.size]; omega), hlt⟩

theorem toNat_place_succ {ratio : UInt32} (hratio : ratio ≠ 0) (j : Nat) :
    (place ratio j + 1).toNat = j % ratio.toNat + 1 := by
  obtain ⟨hplace, hlt⟩ := toNat_place_lt hratio j
  have hsize := ratio.toNat_lt
  rw [UInt32.toNat_add, hplace, UInt32.toNat_one, Nat.mod_eq_of_lt (by omega)]

theorem place_eq_zero_iff {ratio : UInt32} (hratio : ratio ≠ 0) (j : Nat) :
    place ratio j = 0 ↔ ratio.toNat ∣ j := by
  rw [← UInt32.toNat_inj, (toNat_place_lt hratio j).1, Nat.dvd_iff_mod_eq_zero, UInt32.toNat_zero]

/-- A full cycle of `ratio` events starts again at its first place. -/
theorem place_succ {ratio : UInt32} (hratio : ratio ≠ 0) (j : Nat) :
    (if place ratio j + 1 = ratio then 0 else place ratio j + 1) = place ratio (j + 1) := by
  obtain ⟨hplace, hlt⟩ := toNat_place_lt hratio j
  have hnext := (toNat_place_lt hratio (j + 1)).1
  rw [← Nat.mod_add_mod] at hnext
  split <;> rename_i h <;>
    rw [← UInt32.toNat_inj, toNat_place_succ hratio] at h <;>
    rw [← UInt32.toNat_inj, hnext]
  · simp [h]
  · rw [toNat_place_succ hratio]
    exact (Nat.mod_eq_of_lt (by omega)).symm

/-- The place in its cycle of `ratio` events that an entry holds after `j + 1` events. -/
theorem decideKey_subsampling {ratio : UInt32} (hratio : ratio ≠ 0) (timestamps : List UInt32)
    (timestamp : UInt32) :
    decideKey (.subsampling ratio) (stateAfter (.subsampling ratio) timestamps) timestamp =
      (decide (ratio.toNat ∣ timestamps.length),
        .position (place ratio timestamps.length + 1)) := by
  induction timestamps using List.reverseRecOn generalizing timestamp with
  | nil => simp [decideKey, decideOn, initialState, place]
  | append_singleton timestamps last ih =>
    rw [stateAfter_snoc, ih]
    simp only [decideKey, decideOn, place_succ hratio, place_eq_zero_iff hratio,
      List.length_append, List.length_singleton]

theorem stateAfter_position {ratio : UInt32} (hratio : ratio ≠ 0) (timestamps : List UInt32)
    {n : UInt32} (h : stateAfter (.subsampling ratio) timestamps = some (.position n)) :
    n.toNat ≤ ratio.toNat := by
  cases timestamps using List.reverseRecOn with
  | nil => cases h
  | append_singleton timestamps last =>
    rw [stateAfter_snoc, decideKey_subsampling hratio] at h
    cases h
    rw [toNat_place_succ hratio]
    exact (toNat_place_lt hratio timestamps.length).2

/-! ## The table -/

def stateOf? (entries : List LookupEntry) (key : Option SessionId) : Option EntryState :=
  (entries.find? fun entry => entry.key = key).map (·.state)

theorem stateOf?_cons (entry : LookupEntry) (rest : List LookupEntry) (key : Option SessionId) :
    stateOf? (entry :: rest) key =
      if entry.key = key then some entry.state else stateOf? rest key := by
  by_cases h : entry.key = key <;> simp [stateOf?, h]

/-- Where the event finds its entry, or makes it, only that entry moves on. -/
theorem decideIn_moves (mode : FilterMode) (key : Option SessionId) (timestamp : UInt32)
    (entries : List LookupEntry) :
    (decideIn mode key timestamp entries).1 =
        (decideKey mode (stateOf? entries key) timestamp).1 ∧
      ∀ other, stateOf? (decideIn mode key timestamp entries).2 other =
        if key = other then some (decideKey mode (stateOf? entries key) timestamp).2
        else stateOf? entries other := by
  induction entries with
  | nil => exact ⟨rfl, fun other => by simp [decideIn, stateOf?, decideKey]⟩
  | cons entry rest ih =>
    by_cases h : entry.key = key
    · subst h
      simp only [decideIn, if_true, stateOf?_cons, decideKey, true_and]
      intro other
      split <;> rfl
    · simp only [decideIn, h, if_false, stateOf?_cons]
      refine ⟨ih.1, fun other => ?_⟩
      rw [ih.2 other]
      by_cases hkey : key = other
      · subst hkey
        simp [h]
      · simp [hkey]

theorem stateOf?_of_mem {entries : List LookupEntry} (hkeys : (entries.map (·.key)).Nodup) :
    ∀ entry ∈ entries, stateOf? entries entry.key = some entry.state := by
  induction entries with
  | nil => simp
  | cons first rest ih =>
    obtain ⟨hfirst, hrest⟩ := List.nodup_cons.mp hkeys
    intro entry hentry
    rcases List.mem_cons.mp hentry with rfl | hentry
    · simp [stateOf?_cons]
    · have hne : first.key ≠ entry.key := fun h =>
        hfirst (List.mem_map.mpr ⟨entry, hentry, h.symm⟩)
      rw [stateOf?_cons, if_neg hne]
      exact ih hrest entry hentry

theorem eraseDups_snoc {α : Type} [BEq α] [LawfulBEq α] [DecidableEq α] (l : List α) (a : α) :
    (l ++ [a]).eraseDups = l.eraseDups ++ if a ∈ l then [] else [a] := by
  rw [List.eraseDups_append]
  by_cases h : a ∈ l <;> simp [List.removeAll, List.eraseDups_cons, h]

theorem nodup_eraseDups {α : Type} [BEq α] [LawfulBEq α] [DecidableEq α] (l : List α) :
    l.eraseDups.Nodup := by
  induction l using List.reverseRecOn with
  | nil => simp
  | append_singleton l a ih =>
    rw [eraseDups_snoc]
    split <;> rename_i h
    · simpa using ih
    · rw [← List.concat_eq_append]
      exact List.Nodup.concat (h ∘ List.mem_eraseDups.mp) ih

/-- An event leaves the entries in their places and may add one at the end, for its own key. -/
theorem keys_decideIn (mode : FilterMode) (key : Option SessionId) (timestamp : UInt32)
    (entries : List LookupEntry) :
    (decideIn mode key timestamp entries).2.map (·.key) =
      entries.map (·.key) ++ if key ∈ entries.map (·.key) then [] else [key] := by
  induction entries with
  | nil => rfl
  | cons entry rest ih =>
    by_cases h : entry.key = key
    · simp [decideIn, h]
    · simp only [decideIn, h, if_false, List.map_cons, ih, List.mem_cons, List.cons_append,
        Ne.symm h, false_or]

/-- The state in which an event finds the entry of its key, or makes it. -/
def met (f : ExtendedFilter) (event : Event) : EntryState :=
  (stateOf? f.entries (f.key event.session)).getD (initialState f.mode event.timestamp)

/-- A filter that was made as `start` holds what the events shown to it left. -/
structure Tracks (start f : ExtendedFilter) (events : List Event) : Prop where
  lookup : f.lookup = start.lookup
  mode : f.mode = start.mode
  keys : f.entries.map (·.key) = (events.map fun event => start.key event.session).eraseDups
  states : ∀ key, stateOf? f.entries key =
    stateAfter start.mode ((start.ofKey key events).map (·.timestamp))

namespace Tracks

variable {start : ExtendedFilter} {events : List Event}

theorem key (h : Tracks start f events) (session : SessionId) :
    f.key session = start.key session := by
  simp only [ExtendedFilter.key, h.lookup]

theorem cleared (h : Tracks start f events) : Tracks start f.clear [] where
  lookup := h.lookup
  mode := h.mode
  keys := rfl
  states _ := rfl

theorem decides (h : Tracks start f events) (event : Event) :
    f.decides event =
      (decideKey start.mode (stateAfter start.mode
        ((start.ofKey (start.key event.session) events).map (·.timestamp))) event.timestamp).1 := by
  rw [← h.states, ← h.mode, ← h.key]
  exact (decideIn_moves f.mode (f.key event.session) event.timestamp f.entries).1

theorem presented (h : Tracks start f events) (event : Event) :
    Tracks start (f.take (.present event)) (events ++ [event]) where
  lookup := h.lookup
  mode := h.mode
  keys := by
    simp only [take, accept, keys_decideIn, h.keys, h.key, List.mem_eraseDups, List.map_append,
      List.map_singleton, eraseDups_snoc]
  states key := by
    have hmoves := (decideIn_moves start.mode (start.key event.session) event.timestamp
      f.entries).2 key
    simp only [take, accept, h.key, h.mode, hmoves, h.states]
    split <;> rename_i hkey <;> simp [ofKey_snoc, hkey]

theorem taken (h : Tracks start f events) (use : FilterUse) :
    Tracks start (f.take use) (use.since events) := by
  cases use with
  | present event => exact h.presented event
  | clear => exact h.cleared

theorem ran (h : Tracks start f events) (uses : List FilterUse) :
    Tracks start (f.run uses) (uses.foldl FilterUse.since events) := by
  induction uses generalizing f events with
  | nil => exact h
  | cons use uses ih => exact ih (h.taken use)

end Tracks

/-- What a filter made as `start` decides and keeps once it was shown `events`. -/
structure Selects (start f : ExtendedFilter) (events : List Event) : Prop where
  /-- One entry for each key, in the order the keys were first seen. -/
  table : f.entries.map (·.key) = (events.map fun event => start.key event.session).eraseDups
  kept : ∀ entry ∈ f.entries, start.mode.Keeps entry.state
  met : ∀ event, start.mode.Keeps (f.met event)
  /-- Events of other keys change nothing about the decision. -/
  apart : ∀ event, f.decides event =
    (start.run ((start.earlier event events).map .present)).decides event
  none : start.mode = .none → ∀ event, f.decides event = true
  duplicate : start.mode = .duplicate → ∀ event,
    (f.decides event = true ↔ (start.earlier event events).length = 0)
  /-- The counter stays at `2 ^ 32 - 1`, within which every count is. -/
  count : ∀ limit, start.mode = .count limit → ∀ event,
    (f.decides event = true ↔
      (start.earlier event events).length < limit.toNat ∨ limit.toNat = 2 ^ 32 - 1)
  subsampling : ∀ ratio, start.mode = .subsampling ratio → ∀ event,
    (f.decides event = true ↔ ratio.toNat ∣ (start.earlier event events).length)
  /-- The position that an event moves on to, from the one it finds, has not wrapped. -/
  position : ∀ ratio, start.mode = .subsampling ratio → ∀ event n, f.met event = .position n →
    n.toNat ≤ ratio.toNat ∧ (if n = ratio then 0 else n).toNat + 1 ≤ ratio.toNat

namespace Tracks

variable {start : ExtendedFilter} {events : List Event}

theorem met_kept (h : Tracks start f events) (hmode : start.mode.Supported) (event : Event) :
    start.mode.Keeps (f.met event) := by
  rw [met, h.mode, h.states]
  cases hstate : stateAfter start.mode
      ((start.ofKey (f.key event.session) events).map (·.timestamp)) with
  | none => exact initialState_kept hmode event.timestamp
  | some state => exact stateAfter_kept hmode _ state hstate

theorem met_position (h : Tracks start f events) {ratio n : UInt32}
    (hmode : start.mode = .subsampling ratio) (hratio : ratio ≠ 0) {event : Event}
    (hn : f.met event = .position n) : n.toNat ≤ ratio.toNat := by
  rw [met, h.mode, h.states, hmode] at hn
  cases hstate : stateAfter (.subsampling ratio)
      ((start.ofKey (f.key event.session) events).map (·.timestamp)) with
  | none =>
    rw [hstate] at hn
    cases hn
    exact Nat.zero_le _
  | some state =>
    rw [hstate] at hn
    cases hn
    exact stateAfter_position hratio _ hstate

theorem decides_presented (hstart : Tracks start start []) (events : List Event) (event : Event) :
    (start.run (events.map .present)).decides event =
      (decideKey start.mode (stateAfter start.mode
        ((start.ofKey (start.key event.session) events).map (·.timestamp))) event.timestamp).1 := by
  have h := hstart.ran (events.map .present)
  rw [since_presented, List.nil_append] at h
  exact h.decides event

/-- A filter that is shown only the earlier events of the key decides alike. -/
theorem decides_apart (hstart : Tracks start start []) (h : Tracks start f events)
    (event : Event) :
    f.decides event = (start.run ((start.earlier event events).map .present)).decides event := by
  rw [h.decides, hstart.decides_presented]
  simp only [earlier, ofKey, List.filter_filter, Bool.and_self]

theorem selects (hstart : Tracks start start []) (h : Tracks start f events)
    (hmode : start.mode.Supported) : Selects start f events where
  table := h.keys
  kept entry hentry := by
    have hstate := stateOf?_of_mem (h.keys ▸ nodup_eraseDups _) entry hentry
    exact stateAfter_kept hmode _ entry.state (h.states entry.key ▸ hstate)
  met := h.met_kept hmode
  apart := hstart.decides_apart h
  none hnone event := by
    rw [h.decides, hnone, decideKey_none]
  duplicate hduplicate event := by
    rw [h.decides, hduplicate, decideKey_duplicate]
    simp [earlier]
  count limit hlimit event := by
    rw [h.decides, hlimit, decideKey_count, decide_eq_true_iff, UInt32.le_iff_toNat_le,
      toNat_saturated, List.length_map, ← earlier]
    have hsize := limit.toNat_lt
    omega
  subsampling ratio hratio event := by
    have hne : ratio ≠ 0 := (hratio ▸ hmode : (FilterMode.subsampling ratio).Supported)
    rw [h.decides, hratio, decideKey_subsampling hne, decide_eq_true_iff, List.length_map,
      ← earlier]
  position ratio hratio event n hn := by
    have hne : ratio ≠ 0 := (hratio ▸ hmode : (FilterMode.subsampling ratio).Supported)
    have hpos : ratio.toNat ≠ 0 := fun h => hne (UInt32.toNat_inj.mp h)
    have hle := h.met_position hratio hne hn
    refine ⟨hle, ?_⟩
    split <;> rename_i hfull
    · rw [UInt32.toNat_zero]
      omega
    · rw [← UInt32.toNat_inj] at hfull
      omega

end Tracks

/-- That `gap` seconds lie between two events, on a clock that may run over between them: an
event with a lower timestamp counts as one from its next round. -/
def Elapsed (gap : UInt32) (last next : Event) : Prop :=
  last.timestamp.toNat + gap.toNat ≤ next.timestamp.toNat ∨
    (next.timestamp < last.timestamp ∧
      last.timestamp.toNat + gap.toNat ≤ next.timestamp.toNat + 2 ^ 32)

theorem elapsed_iff (gap : UInt32) (last next : Event) :
    next.timestamp - last.timestamp ≥ gap ↔ Elapsed gap last next := by
  have hlast := last.timestamp.toNat_lt
  have hnext := next.timestamp.toNat_lt
  have hgap := gap.toNat_lt
  rw [Elapsed, ge_iff_le, UInt32.le_iff_toNat_le, UInt32.lt_iff_toNat_lt, UInt32.toNat_sub]
  omega

/-- The events that a filter accepts. -/
def accepted (f : ExtendedFilter) : List Event → List Event
  | [] => []
  | event :: rest =>
    let taken := (f.take (.present event)).accepted rest
    if f.decides event then event :: taken else taken

theorem accepted_snoc (f : ExtendedFilter) (events : List Event) (event : Event) :
    f.accepted (events ++ [event]) = f.accepted events ++
      if (f.run (events.map .present)).decides event then [event] else [] := by
  induction events generalizing f with
  | nil => rfl
  | cons first rest ih =>
    simp only [List.cons_append, accepted, ih]
    split <;> rfl

/-- The last event of a key that was accepted. -/
def lastAccepted? (f : ExtendedFilter) (key : Option SessionId) (events : List Event) :
    Option Event :=
  (f.ofKey key (f.accepted events)).getLast?

theorem ofKey_accepted_snoc (f : ExtendedFilter) (key : Option SessionId) (events : List Event)
    (event : Event) :
    f.ofKey key (f.accepted (events ++ [event])) = f.ofKey key (f.accepted events) ++
      if f.key event.session = key ∧ (f.run (events.map .present)).decides event then [event]
      else [] := by
  rw [accepted_snoc]
  by_cases h : (f.run (events.map .present)).decides event = true
  · simp [h, ofKey_snoc]
  · simp [h]

theorem lastAccepted?_snoc (f : ExtendedFilter) (key : Option SessionId) (events : List Event)
    (event : Event) :
    f.lastAccepted? key (events ++ [event]) =
      if f.key event.session = key ∧ (f.run (events.map .present)).decides event then some event
      else f.lastAccepted? key events := by
  rw [lastAccepted?, ofKey_accepted_snoc]
  split
  · rw [List.getLast?_concat]
  · rw [List.append_nil, lastAccepted?]

/-- An entry that keeps the timestamp of the last accepted event, and goes on to do so. -/
theorem decideKey_interval (gap : UInt32) (last : Option Event) (event : Event) :
    let decision := decideKey (.interval gap)
      (last.map fun event => .lastAccepted event.timestamp) event.timestamp
    (decision.1 = true ↔ ∀ l ∈ last, Elapsed gap l event) ∧
      some decision.2 = (if decision.1 then some event else last).map fun event =>
        .lastAccepted event.timestamp := by
  cases last with
  | none => simp [decideKey, decideOn, initialState]
  | some last =>
    simp only [Option.map_some, decideKey, decideOn, Option.mem_some_iff, forall_eq',
      Bool.false_eq_true, if_false, ← elapsed_iff]
    split <;> simp [*]

/-- How a filter made as `start` spaces out the events of each key. -/
structure Paces (gap : UInt32) (start : ExtendedFilter) (events : List Event) : Prop where
  first : ∀ event, start.earlier event events = [] →
    (start.run (events.map .present)).decides event = true
  next : ∀ event last, start.lastAccepted? (start.key event.session) events = some last →
    ((start.run (events.map .present)).decides event = true ↔ Elapsed gap last event)
  spaced : ∀ key, (start.ofKey key (start.accepted events)).IsChain (Elapsed gap)

namespace Tracks

variable {start : ExtendedFilter} {gap : UInt32}

/-- The entry of a key keeps the timestamp of the last event of the key that was accepted. -/
theorem stateAfter_interval (hstart : Tracks start start []) (hmode : start.mode = .interval gap)
    (key : Option SessionId) (events : List Event) :
    stateAfter (.interval gap) ((start.ofKey key events).map (·.timestamp)) =
      (start.lastAccepted? key events).map fun event => .lastAccepted event.timestamp := by
  induction events using List.reverseRecOn with
  | nil => rfl
  | append_singleton events event ih =>
    rw [ofKey_snoc, lastAccepted?_snoc]
    by_cases hkey : start.key event.session = key
    · subst hkey
      have hdecides := hstart.decides_presented events event
      rw [hmode, ih] at hdecides
      rw [if_pos rfl, List.map_append, List.map_singleton, stateAfter_snoc, ih, hdecides]
      simpa using (decideKey_interval gap _ event).2
    · simpa [hkey] using ih

theorem decides_interval (hstart : Tracks start start []) (hmode : start.mode = .interval gap)
    (events : List Event) (event : Event) :
    (start.run (events.map .present)).decides event = true ↔
      ∀ last ∈ start.lastAccepted? (start.key event.session) events, Elapsed gap last event := by
  rw [hstart.decides_presented, hmode, hstart.stateAfter_interval hmode]
  exact (decideKey_interval gap _ event).1

theorem paces (hstart : Tracks start start []) (hmode : start.mode = .interval gap)
    (events : List Event) : Paces gap start events where
  first event hfirst := by
    rw [hstart.decides_presented, hmode, ← earlier, hfirst]
    rfl
  next event last hlast := by
    rw [hstart.decides_interval hmode, hlast]
    simp
  spaced key := by
    induction events using List.reverseRecOn with
    | nil => exact .nil
    | append_singleton events event ih =>
      rw [ofKey_accepted_snoc]
      split <;> rename_i h
      · obtain ⟨rfl, hdecides⟩ := h
        rw [hstart.decides_interval hmode] at hdecides
        refine List.isChain_append.mpr ⟨ih, .singleton event, fun last hlast next hnext => ?_⟩
        cases hnext
        exact hdecides last hlast
      · simpa using ih

end Tracks

/-- With an interval, the first event of each key is accepted, and from then on those that
come `gap` seconds or more after the last one accepted of their key. -/
theorem run_paces (hlookup : lookup = .any ∨ lookup = .session) (gap : UInt32) :
    ∃ f, ExtendedFilter.new lookup (.interval gap) = .ok f ∧ ∀ events, Paces gap f events := by
  have hnew : Tracks { lookup, mode := .interval gap, entries := [] }
      { lookup, mode := .interval gap, entries := [] } [] := ⟨rfl, rfl, rfl, fun _ => rfl⟩
  exact ⟨_, new_supported hlookup trivial, hnew.paces rfl⟩

theorem run_paces_device :
    ∃ f, ExtendedFilter.new .session (.interval 10) = .ok f ∧ ∀ events, Paces 10 f events :=
  run_paces (.inr rfl) 10

/-- An event one second before the last one accepted counts as late, not as early. -/
theorem accepts_backwards :
    ¬ ∀ f, ExtendedFilter.new .any (.interval 10) = .ok f → ∀ key events,
      (f.ofKey key (f.accepted events)).IsChain fun last next =>
        last.timestamp.toNat + 10 ≤ next.timestamp.toNat := by
  intro h
  have hchain := h { lookup := .any, mode := .interval 10, entries := [] } rfl none
    [{ kind := .data, timestamp := 100 }, { kind := .data, timestamp := 99 }]
  have haccepted : accepted { lookup := .any, mode := .interval 10, entries := [] }
      [{ kind := .data, timestamp := 100 }, { kind := .data, timestamp := 99 }] =
      [{ kind := .data, timestamp := 100 }, { kind := .data, timestamp := 99 }] := by decide
  rw [haccepted] at hchain
  revert hchain
  decide

end ExtendedFilter

end HomeGateway
