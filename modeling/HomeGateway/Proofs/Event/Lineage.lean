import Mathlib
import HomeGateway.Event.Store

/-!
Events do not change. What is live under a name is what was made under it: a store takes events
in under new names and lets them go, and in between they are counted and nothing else.
-/

namespace HomeGateway

/-- An event as it was made, with the bytes that are reserved for it. -/
def StoredEvent.made (s : StoredEvent) : Event × Option UInt64 := (s.event, s.lease)

/-- The name of an event with the bytes that are reserved for it. -/
def StoredEvent.charge (s : StoredEvent) : EventRef × Option UInt64 := (s.ref, s.lease)

namespace EventStore

/-- The event under a name, if it is live. -/
def event? (store : EventStore) (ref : EventRef) : Option Event :=
  (store.find? ref).map StoredEvent.event

/-- What was made under a name, if it is live. -/
def made? (store : EventStore) (ref : EventRef) : Option (Event × Option UInt64) :=
  (store.find? ref).map StoredEvent.made

/-- What is live later under a name that was given out before was live before, and the same. -/
structure Precedes (store later : EventStore) : Prop where
  names : store.nextRef ≤ later.nextRef
  made : ∀ ref < store.nextRef, ∀ made, later.made? ref = some made →
    store.made? ref = some made

variable {store mid later : EventStore}

theorem event?_eq (store : EventStore) (ref : EventRef) :
    store.event? ref = (store.made? ref).map Prod.fst := by
  rw [made?, Option.map_map]
  rfl

theorem Precedes.events (h : store.Precedes later) (ref : EventRef) (href : ref < store.nextRef)
    (event : Event) (hlater : later.event? ref = some event) : store.event? ref = some event := by
  rw [event?_eq] at hlater ⊢
  obtain ⟨made, hmade, rfl⟩ := Option.map_eq_some_iff.mp hlater
  rw [h.made ref href made hmade, Option.map_some]

theorem Precedes.trans (hfirst : store.Precedes mid) (hrest : mid.Precedes later) :
    store.Precedes later where
  names := hfirst.names.trans hrest.names
  made ref href made hlater :=
    hfirst.made ref href made (hrest.made ref (href.trans_le hfirst.names) made hlater)

/-- Slots and bytes may change hands. -/
theorem Precedes.of_live (hlive : later.live = store.live)
    (hnames : later.nextRef = store.nextRef) :
    store.Precedes later where
  names := hnames.ge
  made ref _ made hlater := by
    unfold made? find? at hlater ⊢
    rwa [hlive] at hlater

theorem Precedes.refl (store : EventStore) : store.Precedes store := .of_live rfl rfl

/-- Holders may change. -/
theorem Precedes.of_map {f : StoredEvent → StoredEvent} (hlive : later.live = store.live.map f)
    (hnames : later.nextRef = store.nextRef)
    (hsame : ∀ s, (f s).ref = s.ref ∧ (f s).made = s.made) : store.Precedes later where
  names := hnames.ge
  made ref _ made hlater := by
    have hfind (live : List StoredEvent) :
        ((live.map f).find? fun s => s.ref = ref).map StoredEvent.made =
          (live.find? fun s => s.ref = ref).map StoredEvent.made := by
      rw [List.find?_map, Option.map_map]
      simp only [Function.comp_def, hsame]
    unfold made? find? at hlater ⊢
    rw [hlive, hfind] at hlater
    exact hlater

theorem takeSlot_precedes {slot : Nat} (h : store.takeSlot = .ok (slot, later)) :
    store.Precedes later := by
  unfold takeSlot at h
  split at h
  · cases h
    exact .of_live rfl rfl
  · cases h

theorem reserve_precedes {size : UInt64} (h : store.reserve size = .ok later) :
    store.Precedes later := by
  unfold reserve at h
  split at h
  · cases h
    exact .of_live rfl rfl
  · cases h

theorem hold_precedes (store : EventStore) (ref : EventRef) : store.Precedes (store.hold ref) := by
  refine .of_map rfl rfl fun s => ?_
  split <;> exact ⟨rfl, rfl⟩

theorem foldl_hold_precedes (store : EventStore) (refs : List EventRef) :
    store.Precedes (refs.foldl hold store) := by
  induction refs generalizing store with
  | nil => exact .refl store
  | cons ref rest ih => exact (store.hold_precedes ref).trans (ih (store.hold ref))

/-- Whoever goes is gone, and whoever stays is the same. -/
theorem release_precedes (store : EventStore) (ref : EventRef) :
    store.Precedes (store.release ref) := by
  unfold release
  split
  · exact .refl store
  · rename_i s hfind
    split
    · refine ⟨le_rfl, ?_⟩
      intro other _ made hlater
      obtain ⟨found, hfound, rfl⟩ := Option.map_eq_some_iff.mp hlater
      unfold find? reclaim at hfound
      dsimp only at hfound
      rw [List.find?_filter] at hfound
      -- what is found is not of the name that is gone
      have hstays : found.ref ≠ ref ∧ found.ref = other := by simpa using List.find?_some hfound
      have hsame : (fun s : StoredEvent => decide (decide (s.ref ≠ ref) = true ∧
          decide (s.ref = other) = true)) = fun s => decide (s.ref = other) := by
        funext s
        by_cases hs : s.ref = other
        · simp [hs, ← hstays.2, hstays.1]
        · simp [hs]
      rw [hsame] at hfound
      exact Option.map_eq_some_iff.mpr ⟨found, hfound, rfl⟩
    · refine .of_map rfl rfl fun s => ?_
      split <;> exact ⟨rfl, rfl⟩

theorem releaseAll_precedes (store : EventStore) (refs : List EventRef) :
    store.Precedes (store.releaseAll refs) := by
  unfold releaseAll
  induction refs generalizing store with
  | nil => exact .refl store
  | cons ref rest ih => exact (store.release_precedes ref).trans (ih (store.release ref))

/-- An event that is made gets a name that was not given out before. -/
theorem freeze_precedes (store : EventStore) (slot : Nat) (lease : Option UInt64) (event : Event) :
    store.Precedes (store.freeze slot lease event).2 where
  names := Nat.le_succ _
  made ref href found hlater := by
    have hother : store.nextRef ≠ ref := Nat.ne_of_gt href
    unfold made? find? freeze at hlater
    simpa [List.find?_append, hother, made?, find?] using hlater

/-! Where events only go. -/

/-- Nothing was made or reserved, and these went. -/
structure Sheds (store next : EventStore) (gone : List (EventRef × Option UInt64)) : Prop where
  live : (store.live.map StoredEvent.charge).Perm (next.live.map StoredEvent.charge ++ gone)
  names : next.nextRef = store.nextRef
  limit : next.budget.limit = store.budget.limit
  peak : next.budget.peak = store.budget.peak

variable {gone more : List (EventRef × Option UInt64)}

theorem Sheds.refl (store : EventStore) : store.Sheds store [] where
  live := by rw [List.append_nil]
  names := rfl
  limit := rfl
  peak := rfl

theorem Sheds.trans (hfirst : store.Sheds mid gone) (hmore : mid.Sheds later more) :
    store.Sheds later (more ++ gone) where
  live := by
    rw [← List.append_assoc]
    exact hfirst.live.trans (hmore.live.append_right gone)
  names := hmore.names.trans hfirst.names
  limit := hmore.limit.trans hfirst.limit
  peak := hmore.peak.trans hfirst.peak

/-- Holders may change. -/
theorem Sheds.of_map {f : StoredEvent → StoredEvent} (hsame : ∀ s, (f s).charge = s.charge) :
    store.Sheds { store with live := store.live.map f } [] where
  live := by
    rw [List.append_nil, List.map_map]
    exact .of_eq (List.map_congr_left fun s _ => (hsame s).symm)
  names := rfl
  limit := rfl
  peak := rfl

theorem hold_sheds (store : EventStore) (ref : EventRef) : store.Sheds (store.hold ref) [] := by
  refine .of_map fun s => ?_
  split <;> rfl

theorem release_sheds (store : EventStore) (ref : EventRef) :
    ∃ gone, store.Sheds (store.release ref) gone := by
  unfold release
  split
  · exact ⟨[], .refl store⟩
  · rename_i s hfind
    split
    · refine ⟨(store.live.filter fun s => !decide (s.ref ≠ ref)).map StoredEvent.charge,
        ?_, rfl, ?_, ?_⟩
      · rw [reclaim, ← List.map_append]
        exact (List.filter_append_perm _ store.live).symm.map StoredEvent.charge
      · unfold reclaim
        cases s.lease <;> rfl
      · unfold reclaim
        cases s.lease <;> rfl
    · refine ⟨[], .of_map fun s => ?_⟩
      split <;> rfl

theorem releaseAll_sheds (store : EventStore) (refs : List EventRef) :
    ∃ gone, store.Sheds (store.releaseAll refs) gone := by
  unfold releaseAll
  induction refs generalizing store with
  | nil => exact ⟨[], .refl store⟩
  | cons ref rest ih =>
    obtain ⟨gone, hfirst⟩ := store.release_sheds ref
    obtain ⟨more, hmore⟩ := ih (store.release ref)
    exact ⟨more ++ gone, hfirst.trans hmore⟩

end EventStore

end HomeGateway
