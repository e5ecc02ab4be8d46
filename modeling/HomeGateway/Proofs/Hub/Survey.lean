import Mathlib
import HomeGateway.Proofs.Hub.Enrolment
import HomeGateway.Proofs.Hub.Lifecycle

/-!
Surveys, call by call. A survey goes through the list of devices as it is at each moment, and the
visitor may make the list longer as it goes; the positions up to the capacity of the registry are
enough for it to come to its end.
-/

namespace HomeGateway

variable {κ σ τ : Type}

namespace EventStore

/-- The store with one more holder of an event for each time that it stands in the list. -/
def heldFor (store : EventStore) (refs : List EventRef) : EventStore :=
  { store with live := store.live.map fun s => { s with holders := s.holders + refs.count s.ref } }

theorem heldFor_nil (store : EventStore) : store.heldFor [] = store := by
  simp [heldFor]

theorem heldFor_hold (store : EventStore) (ref : EventRef) (refs : List EventRef) :
    (store.hold ref).heldFor refs = store.heldFor (ref :: refs) := by
  unfold heldFor hold
  congr 1
  rw [List.map_map]
  apply List.map_congr_left
  intro s _
  by_cases h : s.ref = ref
  · simp [h]
    omega
  · simp [h, Ne.symm h]

theorem foldl_hold (store : EventStore) (refs : List EventRef) :
    refs.foldl hold store = store.heldFor refs := by
  induction refs generalizing store with
  | nil => exact store.heldFor_nil.symm
  | cons ref refs ih => exact (ih (store.hold ref)).trans (store.heldFor_hold ref refs)

theorem release_heldFor {store : EventStore} (hlive : ∀ s ∈ store.live, 0 < s.holders)
    (ref : EventRef) (refs : List EventRef) :
    (store.heldFor (ref :: refs)).release ref = store.heldFor refs := by
  have hfind : (store.heldFor (ref :: refs)).find? ref = (store.find? ref).map fun s =>
      { s with holders := s.holders + (ref :: refs).count s.ref } := by
    simp only [find?, heldFor, List.find?_map]
    rfl
  unfold release
  rw [hfind]
  cases hstored : store.find? ref with
  | none =>
    simp only [Option.map_none, heldFor]
    congr 1
    apply List.map_congr_left
    intro s hs
    have hne : s.ref ≠ ref := fun h => by
      have hnone := List.find?_eq_none.mp hstored s hs
      simp [h] at hnone
    simp [Ne.symm hne]
  | some stored =>
    obtain ⟨hs, rfl⟩ := mem_of_find? hstored
    have hpos := hlive stored hs
    have hmore : ¬ stored.holders + (stored.ref :: refs).count stored.ref ≤ 1 := by
      rw [List.count_cons_self]
      omega
    simp only [Option.map_some, if_neg hmore, heldFor, List.map_map]
    congr 1
    apply List.map_congr_left
    intro s _
    by_cases h : s.ref = stored.ref
    · simp [h]
    · simp [h, Ne.symm h]

/-- What is live has a holder. -/
theorem Accounts.holders_pos {store : EventStore} {bounds : Bounds} {holders : List EventRef}
    {slots : List Nat} {loans : List UInt64} (h : store.Accounts bounds holders slots loans) :
    ∀ s ∈ store.live, 0 < s.holders := by
  intro s hs
  rw [h.counted s hs, List.count_pos_iff]
  exact (h.held s.ref).mpr (List.mem_map_of_mem hs)

/-- Letting go of all that was held, in any order, changes nothing. -/
theorem releaseAll_hold {store : EventStore} (hlive : ∀ s ∈ store.live, 0 < s.holders)
    (refs : List EventRef) : (refs.foldl hold store).releaseAll refs = store := by
  rw [foldl_hold]
  induction refs with
  | nil => exact store.heldFor_nil
  | cons ref refs ih =>
    rw [releaseAll, List.foldl_cons, release_heldFor hlive]
    exact ih

end EventStore

theorem Device.pins_join (d : Device) (pinMask : UInt32) (i : Nat) :
    ((d.pins pinMask)[i]?).join = if pinMask.toNat.testBit i then d.retained? i else none := by
  unfold Device.pins Device.retained?
  rw [List.getElem?_mapIdx]
  cases d.endpoints[i]? with
  | none => simp
  | some e => simp

namespace Selection

theorem stop_le (s : Selection) (count : Nat) : s.stop count ≤ count := by
  unfold stop
  split
  · exact Nat.min_le_right _ _
  · exact Nat.le_refl _

/-- That the device at a position fits, as things stand. -/
def selects (s : Selection) (hub : Hub σ) (index : Nat) : Bool :=
  (hub.registry.devices[index]?).any (s.fits hub.events)

/-- The positions from one on, up to the end of the range, whose devices fit. -/
def choices (s : Selection) (hub : Hub σ) (position : Nat) : List Nat :=
  (List.range' position (s.stop hub.registry.devices.length - position)).filter (s.selects hub)

/-- As many of them as are still wanted after `count` calls. -/
def wanted (s : Selection) (count : Nat) (choices : List Nat) : List Nat :=
  match s.maxCount with
  | some max => choices.take (max - count)
  | none => choices

theorem wanted_enough {s : Selection} {count : Nat} (h : s.maxCount.any (· ≤ count) = true)
    (choices : List Nat) : s.wanted count choices = [] := by
  cases hmax : s.maxCount with
  | none => simp [hmax] at h
  | some max =>
    have hle : max ≤ count := by simpa [hmax] using h
    simp [wanted, hmax, Nat.sub_eq_zero_of_le hle]

theorem wanted_cons {s : Selection} {count : Nat} (h : s.maxCount.any (· ≤ count) = false)
    (index : Nat) (choices : List Nat) :
    s.wanted count (index :: choices) = index :: s.wanted (count + 1) choices := by
  cases hmax : s.maxCount with
  | none => simp [wanted, hmax]
  | some max =>
    have hlt : count < max := by simpa [hmax] using h
    simp only [wanted, hmax]
    rw [List.take_cons (by omega), Nat.sub_sub]

theorem choices_none {s : Selection} {hub : Hub σ} {position : Nat}
    (h : ∀ i, position ≤ i → i < s.stop hub.registry.devices.length → s.selects hub i = false) :
    s.choices hub position = [] := by
  refine List.filter_eq_nil_iff.mpr fun i hi => ?_
  obtain ⟨hle, hlt⟩ := List.mem_range'_1.mp hi
  simp [h i hle (by omega)]

theorem choices_next {s : Selection} {hub : Hub σ} {position index : Nat}
    (hstart : position ≤ index) (hstop : index < s.stop hub.registry.devices.length)
    (hselected : s.selects hub index = true)
    (hskipped : ∀ i, position ≤ i → i < index → s.selects hub i = false) :
    s.choices hub position = index :: s.choices hub (index + 1) := by
  have hsplit : List.range' position (s.stop hub.registry.devices.length - position) =
      List.range' position (index - position) ++
        index :: List.range' (index + 1) (s.stop hub.registry.devices.length - (index + 1)) := by
    have hlength : s.stop hub.registry.devices.length - position =
        (index - position) + ((s.stop hub.registry.devices.length - (index + 1)) + 1) := by
      omega
    rw [hlength, ← List.range'_append_1, List.range'_succ, Nat.add_sub_cancel' hstart]
  have hbefore : (List.range' position (index - position)).filter (s.selects hub) = [] := by
    refine List.filter_eq_nil_iff.mpr fun i hi => ?_
    obtain ⟨hle, hlt⟩ := List.mem_range'_1.mp hi
    simp [hskipped i hle (by omega)]
  rw [choices, hsplit, List.filter_append, hbefore, List.nil_append,
    List.filter_cons_of_pos hselected, choices]

end Selection

/-- The beginning of a list up to the first element of a kind, which is the last. -/
def cutAfter {α : Type} (stops : α → Bool) : List α → List α
  | [] => []
  | a :: rest => if stops a then [a] else a :: cutAfter stops rest

/-- A call of the visitor: what it is shown, the hub that it finds, and the hub that it leaves. -/
structure Call (σ : Type) where
  shown : Visit
  found : Hub σ
  left : Hub σ
  broke : Bool

namespace Call

def index (call : Call σ) : Nat := call.shown.index

/-- The events that are held for a call. -/
def held (call : Call σ) : List EventRef := call.shown.pinned.filterMap id

/-- The hub after a call, when what was held for it is let go. -/
def after (call : Call σ) : Hub σ := call.left.releaseAll call.held

end Call

/-- What a survey does next that is at a position: it calls at the first device from there on that
fits, if that is in range. -/
structure Selection.Next (s : Selection) (pinMask : UInt32) (position : Nat) (hub : Hub σ)
    (call : Call σ) : Prop where
  start : position ≤ call.index
  stop : call.index < s.stop hub.registry.devices.length
  selected : s.selects hub call.index = true
  skipped : ∀ i, position ≤ i → i < call.index → s.selects hub i = false
  /-- What endpoint `i` keeps is shown if bit `i` is set. -/
  pinned : ∀ d, hub.registry.devices[call.index]? = some d → ∀ i,
    (call.shown.pinned[i]?).join = if pinMask.toNat.testBit i then d.retained? i else none
  found : call.found = hub.holdAll call.held

/-- The way of a survey from a position on, after `count` calls: the calls that it makes, each in
the hub that the one before left, and the hub in the end. -/
inductive Itinerary (s : Selection) (pinMask : UInt32) :
    Nat → Nat → Hub σ → List (Call σ) → Hub σ → Prop where
  /-- There were as many calls as are wanted. -/
  | enough {position count : Nat} {hub : Hub σ} (h : s.maxCount.any (· ≤ count) = true) :
    Itinerary s pinMask position count hub [] hub
  /-- No device in range fits that was not passed. -/
  | exhausted {position count : Nat} {hub : Hub σ}
    (h : ∀ i, position ≤ i → i < s.stop hub.registry.devices.length → s.selects hub i = false) :
    Itinerary s pinMask position count hub [] hub
  | breaks {position count : Nat} {hub : Hub σ} {call : Call σ}
    (hcount : s.maxCount.any (· ≤ count) = false) (hnext : s.Next pinMask position hub call)
    (hbroke : call.broke = true) :
    Itinerary s pinMask position count hub [call] call.after
  | goesOn {position count : Nat} {hub last : Hub σ} {call : Call σ} {calls : List (Call σ)}
    (hcount : s.maxCount.any (· ≤ count) = false) (hnext : s.Next pinMask position hub call)
    (hbroke : call.broke = false)
    (rest : Itinerary s pinMask (call.index + 1) (count + 1) call.after calls last) :
    Itinerary s pinMask position count hub (call :: calls) last

namespace Itinerary

variable {s : Selection} {pinMask : UInt32} {position count : Nat} {hub last : Hub σ}
  {calls : List (Call σ)}

/-- A position that is passed. -/
theorem skip (hskip : s.selects hub position = false)
    (h : Itinerary s pinMask (position + 1) count hub calls last) :
    Itinerary s pinMask position count hub calls last := by
  have hpass {call : Call σ} (hnext : s.Next pinMask (position + 1) hub call) :
      s.Next pinMask position hub call :=
    { hnext with
      start := Nat.le_of_succ_le hnext.start
      skipped := fun i hi hlt => by
        rcases Nat.eq_or_lt_of_le hi with rfl | hpast
        · exact hskip
        · exact hnext.skipped i hpast hlt }
  cases h with
  | enough h => exact .enough h
  | exhausted h =>
    refine .exhausted fun i hi hstop => ?_
    rcases Nat.eq_or_lt_of_le hi with rfl | hpast
    · exact hskip
    · exact h i hpast hstop
  | breaks hcount hnext hbroke => exact .breaks hcount (hpass hnext) hbroke
  | goesOn hcount hnext hbroke rest => exact .goesOn hcount (hpass hnext) hbroke rest

theorem increasing (h : Itinerary s pinMask position count hub calls last) :
    (calls.map Call.index).Pairwise (· < ·) ∧ ∀ call ∈ calls, position ≤ call.index := by
  induction h with
  | enough | exhausted => simp
  | breaks _ hnext _ => simpa using hnext.start
  | goesOn _ hnext _ _ ih =>
    obtain ⟨hpairwise, hpast⟩ := ih
    constructor
    · simp only [List.map_cons, List.pairwise_cons, List.forall_mem_map]
      exact ⟨fun call hcall => hpast call hcall, hpairwise⟩
    · intro call hcall
      rcases List.mem_cons.mp hcall with rfl | hcall
      · exact hnext.start
      · have hstart := hnext.start
        have hlt := hpast call hcall
        omega

theorem length_le (h : Itinerary s pinMask position count hub calls last) {max : Nat}
    (hmax : s.maxCount = some max) (hcount : count ≤ max) : count + calls.length ≤ max := by
  induction h with
  | enough | exhausted => exact hcount
  | breaks hroom =>
    simp [hmax] at hroom
    simpa using hroom
  | goesOn hroom _ _ _ ih =>
    simp [hmax] at hroom
    have hrest := ih hroom
    simp only [List.length_cons]
    omega

theorem unbroken (h : Itinerary s pinMask position count hub calls last) :
    ∀ call ∈ calls.dropLast, call.broke = false := by
  induction h with
  | enough | exhausted | breaks => simp
  | @goesOn _ _ _ _ call calls _ _ hbroke _ ih =>
    cases calls with
    | nil => simp
    | cons next calls =>
      intro earlier hearlier
      rw [List.dropLast_cons_cons, List.mem_cons] at hearlier
      rcases hearlier with rfl | hearlier
      · exact hbroke
      · exact ih earlier hearlier

/-- Where the calls change nothing, they go by the devices that fit, in order. -/
theorem steady (h : Itinerary s pinMask position count hub calls last) {stops : Nat → Bool}
    (hsteady : ∀ call ∈ calls, call.after = hub)
    (hstops : ∀ call ∈ calls, call.broke = stops call.index) :
    calls.map Call.index = cutAfter stops (s.wanted count (s.choices hub position)) := by
  induction h with
  | enough h =>
    rw [Selection.wanted_enough h]
    rfl
  | exhausted h =>
    rw [Selection.choices_none h]
    unfold Selection.wanted
    split <;> simp [cutAfter]
  | breaks hcount hnext hbroke =>
    rw [Selection.choices_next hnext.start hnext.stop hnext.selected hnext.skipped,
      Selection.wanted_cons hcount, cutAfter, ← hstops _ List.mem_cons_self, hbroke]
    rfl
  | goesOn hcount hnext hbroke _ ih =>
    have hhub := hsteady _ List.mem_cons_self
    have hrest := ih (fun call hcall => hhub ▸ hsteady call (List.mem_cons_of_mem _ hcall))
      fun call hcall => hstops call (List.mem_cons_of_mem _ hcall)
    rw [Selection.choices_next hnext.start hnext.stop hnext.selected hnext.skipped,
      Selection.wanted_cons hcount, cutAfter, ← hstops _ List.mem_cons_self, hbroke, List.map_cons,
      hrest, hhub]
    rfl

end Itinerary

namespace Hub

theorem releaseAll_holdAll {hub : Hub σ} (hlive : ∀ s ∈ hub.events.live, 0 < s.holders)
    (refs : List EventRef) : (hub.holdAll refs).releaseAll refs = hub := by
  have hevents := EventStore.releaseAll_hold hlive refs
  unfold releaseAll holdAll withEvents
  simp only [events] at hevents ⊢
  rw [hevents]

/-- A visitor that writes its calls down. -/
def journaled (visit : Visit → Hub σ → τ → Bool × Hub σ × τ) (shown : Visit) (found : Hub σ)
    (memo : τ × List (Call σ)) : Bool × Hub σ × (τ × List (Call σ)) :=
  let (broke, left, next) := visit shown found memo.1
  (broke, left, next, memo.2 ++ [{ shown, found, left, broke }])

section Walk

variable {s : Selection} {pinMask : UInt32} {visit : Visit → Hub σ → τ → Bool × Hub σ × τ}

/-- A call, as it comes about at a device that fits. -/
def callAt (pinMask : UInt32) (visit : Visit → Hub σ → τ → Bool × Hub σ × τ) (index : Nat)
    (d : Device) (hub : Hub σ) (memo : τ) : Call σ :=
  let shown : Visit := { index, pinned := d.pins pinMask }
  let found := hub.holdAll (shown.pinned.filterMap id)
  let (broke, left, _) := visit shown found memo
  { shown, found, left, broke }

/-- The state of the visitor after that call. -/
def memoAt (pinMask : UInt32) (visit : Visit → Hub σ → τ → Bool × Hub σ × τ) (index : Nat)
    (d : Device) (hub : Hub σ) (memo : τ) : τ :=
  (visit { index, pinned := d.pins pinMask } (hub.holdAll ((d.pins pinMask).filterMap id)) memo).2.2

/-- One position of a survey. -/
theorem surveyFrom_succ (left index count : Nat) (hub : Hub σ) (memo : τ) :
    surveyFrom s pinMask visit (left + 1) index count hub memo =
      if s.maxCount.any (· ≤ count) ∨ s.stop hub.registry.devices.length ≤ index then
        (count, hub, memo)
      else
        match hub.registry.devices[index]? with
        | none => (count, hub, memo)
        | some d =>
          let call := callAt pinMask visit index d hub memo
          let next := memoAt pinMask visit index d hub memo
          if !s.fits hub.events d then surveyFrom s pinMask visit left (index + 1) count hub memo
          else if call.broke then (count + 1, call.after, next)
          else surveyFrom s pinMask visit left (index + 1) (count + 1) call.after next := by
  rw [surveyFrom]
  by_cases hmax : s.maxCount.any (· ≤ count)
  · rw [if_pos hmax, if_pos (.inl hmax)]
  by_cases hstop : s.stop hub.registry.devices.length ≤ index
  · rw [if_neg hmax, if_pos hstop, if_pos (.inr hstop)]
  rw [if_neg hmax, if_neg hstop, if_neg (not_or.mpr ⟨hmax, hstop⟩)]
  rfl

theorem broke_journaled {index : Nat} {d : Device} {hub : Hub σ} {memo : τ}
    (calls : List (Call σ)) :
    (callAt pinMask visit index d hub memo).broke =
      (callAt pinMask (journaled visit) index d hub (memo, calls)).broke := rfl

/-- The journal changes nothing else. -/
theorem surveyFrom_journaled (left index count : Nat) (hub : Hub σ) (memo : τ)
    (calls : List (Call σ)) :
    let answer := surveyFrom s pinMask (journaled visit) left index count hub (memo, calls)
    surveyFrom s pinMask visit left index count hub memo =
      (answer.1, answer.2.1, answer.2.2.1) := by
  induction left generalizing index count hub memo calls with
  | zero => rfl
  | succ left ih =>
    rw [surveyFrom_succ, surveyFrom_succ]
    by_cases hend : s.maxCount.any (· ≤ count) ∨ s.stop hub.registry.devices.length ≤ index
    · simp only [if_pos hend]
    simp only [if_neg hend]
    cases hub.registry.devices[index]? with
    | none => rfl
    | some d =>
      dsimp only
      by_cases hfits : !s.fits hub.events d
      · simp only [if_pos hfits]
        exact ih (index + 1) count hub memo calls
      simp only [if_neg hfits]
      by_cases hbroke : (callAt pinMask visit index d hub memo).broke
      · simp only [if_pos hbroke, if_pos (broke_journaled calls ▸ hbroke)]
        rfl
      · simp only [if_neg hbroke, if_neg (broke_journaled calls ▸ hbroke)]
        exact ih (index + 1) (count + 1) _ _ _

theorem survey_journaled (hub : Hub σ) (memo : τ) :
    let answer := hub.survey s pinMask (journaled visit) (memo, [])
    hub.survey s pinMask visit memo = (answer.1, answer.2.1, answer.2.2.1) := by
  unfold survey
  dsimp only
  split
  · rfl
  · rw [surveyFrom_journaled _ _ _ hub memo []]

/-- What a visitor keeps, on a registry of bounded size, and what is noted of each of its calls. -/
structure Hosts (pinMask : UInt32) (visit : Visit → Hub σ → τ → Bool × Hub σ × τ)
    (capacity : Nat) (keeps : Hub σ → τ → Prop) (notes : Call σ → Prop) : Prop where
  within : ∀ hub memo, keeps hub memo → hub.registry.devices.length ≤ capacity
  visited : ∀ index d hub memo, keeps hub memo → hub.registry.devices[index]? = some d →
    keeps (callAt pinMask visit index d hub memo).after (memoAt pinMask visit index d hub memo) ∧
      notes (callAt pinMask visit index d hub memo)

variable {capacity : Nat} {keeps : Hub σ → τ → Prop} {notes : Call σ → Prop}

theorem next_callAt {index : Nat} {d : Device} {hub : Hub σ}
    (hdevice : hub.registry.devices[index]? = some d) (hfits : s.fits hub.events d = true)
    (hstop : index < s.stop hub.registry.devices.length) (memo : τ) :
    s.Next pinMask index hub (callAt pinMask visit index d hub memo) where
  start := Nat.le_refl index
  stop := hstop
  selected := by
    change (hub.registry.devices[index]?).any (s.fits hub.events) = true
    rw [hdevice]
    exact hfits
  skipped i hi hlt := absurd hi (Nat.not_le_of_lt hlt)
  pinned found hfound i := by
    change hub.registry.devices[index]? = some found at hfound
    rw [hdevice] at hfound
    cases hfound
    exact d.pins_join pinMask i
  found := rfl

/-- The positions up to the capacity are enough: a survey comes to the end of its way. -/
theorem surveyFrom_itinerary (hhosts : Hosts pinMask visit capacity keeps notes)
    (left index count : Nat) (hub : Hub σ) (memo : τ) (calls : List (Call σ))
    (hkeeps : keeps hub memo) (hleft : capacity ≤ index + left) :
    let answer := surveyFrom s pinMask (journaled visit) left index count hub (memo, calls)
    ∃ more, answer.2.2.2 = calls ++ more ∧ answer.1 = count + more.length ∧
      Itinerary s pinMask index count hub more answer.2.1 ∧ keeps answer.2.1 answer.2.2.1 ∧
      ∀ call ∈ more, notes call := by
  induction left generalizing index count hub memo calls with
  | zero =>
    have hwithin := hhosts.within hub memo hkeeps
    refine ⟨[], by simp [surveyFrom], rfl, .exhausted fun i hi hstop => ?_, hkeeps, by simp⟩
    have hrange := s.stop_le hub.registry.devices.length
    omega
  | succ left ih =>
    rw [surveyFrom_succ]
    by_cases hmax : s.maxCount.any (· ≤ count)
    · rw [if_pos (.inl hmax)]
      exact ⟨[], by simp, rfl, .enough hmax, hkeeps, by simp⟩
    by_cases hstop : s.stop hub.registry.devices.length ≤ index
    · rw [if_pos (.inr hstop)]
      refine ⟨[], by simp, rfl, .exhausted fun i hi hlt => ?_, hkeeps, by simp⟩
      omega
    rw [if_neg (not_or.mpr ⟨hmax, hstop⟩)]
    have hlt : index < hub.registry.devices.length := by
      have hrange := s.stop_le hub.registry.devices.length
      omega
    obtain ⟨d, hdevice⟩ : ∃ d, hub.registry.devices[index]? = some d :=
      ⟨_, List.getElem?_eq_getElem hlt⟩
    simp only [hdevice]
    cases hfits : s.fits hub.events d with
    | false =>
      simp only [Bool.not_false, if_true]
      obtain ⟨more, hcalls, hcount, hway, hrest⟩ :=
        ih (index + 1) count hub memo calls hkeeps (by omega)
      refine ⟨more, hcalls, hcount, hway.skip ?_, hrest⟩
      rw [Selection.selects, hdevice]
      exact hfits
    | true =>
      have hnext : s.Next pinMask index hub (callAt pinMask visit index d hub memo) :=
        next_callAt hdevice hfits (by omega) memo
      obtain ⟨hafter, hnoted⟩ := hhosts.visited index d hub memo hkeeps hdevice
      simp only [Bool.not_true, Bool.false_eq_true, if_false]
      have hroom : s.maxCount.any (· ≤ count) = false := by simpa using hmax
      by_cases hbroke : (callAt pinMask visit index d hub memo).broke
      · rw [if_pos (broke_journaled calls ▸ hbroke)]
        exact ⟨[_], rfl, rfl, .breaks hroom hnext hbroke, hafter,
          List.forall_mem_singleton.mpr hnoted⟩
      · rw [if_neg (broke_journaled calls ▸ hbroke)]
        obtain ⟨more, hcalls, hcount, hway, hlast, hnotes⟩ := ih (index + 1) (count + 1) _ _
          (calls ++ [callAt pinMask visit index d hub memo]) hafter (by omega)
        refine ⟨_ :: more, ?_, ?_, .goesOn hroom hnext (by simpa using hbroke) hway, hlast, ?_⟩
        · exact hcalls.trans (List.append_assoc _ _ _)
        · rw [List.length_cons, ← Nat.add_assoc, Nat.add_right_comm]
          exact hcount
        · exact List.forall_mem_cons.mpr ⟨hnoted, hnotes⟩

theorem survey_refuses {hub : Hub σ}
    (hempty : s.stop hub.registry.devices.length ≤ s.fromIndex.getD 0) (memo : τ) :
    hub.survey s pinMask visit memo = (.error (.registry .noDevices), hub, memo) := by
  rw [survey, if_pos hempty]

theorem survey_itinerary (hhosts : Hosts pinMask visit capacity keeps notes) {hub : Hub σ}
    (memo : τ) (hkeeps : keeps hub memo) (hcapacity : hub.registry.capacity = capacity)
    (hrange : s.fromIndex.getD 0 < s.stop hub.registry.devices.length) :
    let answer := hub.survey s pinMask (journaled visit) (memo, [])
    answer.1 = .ok answer.2.2.2.length ∧
      Itinerary s pinMask (s.fromIndex.getD 0) 0 hub answer.2.2.2 answer.2.1 ∧
      keeps answer.2.1 answer.2.2.1 ∧ ∀ call ∈ answer.2.2.2, notes call := by
  rw [survey, if_neg (Nat.not_le_of_lt hrange)]
  obtain ⟨calls, hcalls, hcount, hrest⟩ := surveyFrom_itinerary hhosts
    (hub.registry.capacity - s.fromIndex.getD 0) (s.fromIndex.getD 0) 0 hub memo [] hkeeps
    (by omega)
  rw [List.nil_append] at hcalls
  rw [Nat.zero_add] at hcount
  subst hcalls
  exact ⟨congrArg Except.ok hcount, hrest⟩

end Walk

end Hub

/-- Devices that join never outgrow the registry. -/
theorem Registry.Becomes.within {r next : Registry} (h : r.Becomes next)
    (hwithin : r.devices.length ≤ r.capacity) : next.devices.length ≤ next.capacity := by
  induction h with
  | refl => exact hwithin
  | @register mid addr now _ ih =>
    rcases mid.register_cases addr now with
      ⟨index, -, hcase⟩ | ⟨halt, -, -, hcase⟩ | ⟨d, hjoins, hcase⟩
    · rw [hcase]
      exact ih
    · rw [hcase]
      exact ih
    · rw [hcase]
      have hroom := hjoins.room
      simp only [Registry.enrol, List.length_append, List.length_singleton]
      omega
  | update index f _ _ ih =>
    simp only [Registry.update, List.length_modify]
    exact ih

namespace HubInUse

/-- What surveys rely on. -/
structure Sound (e : HubInUse κ σ) (bounds : EventStore.Bounds) (capacity : Nat) : Prop where
  accounts : e.Accounts bounds
  capacity : e.hub.registry.capacity = capacity
  within : e.hub.registry.devices.length ≤ e.hub.registry.capacity

theorem sound_kept (confOf : Nat → κ → SubscriptionConf σ) (bounds : EventStore.Bounds)
    (capacity : Nat) : KeptBy confOf fun e : HubInUse κ σ => e.Sound bounds capacity where
  operate e operation h :=
    have hbecomes := operate_becomes confOf e operation
    ⟨(accounts_kept confOf bounds).operate e operation h.accounts,
      hbecomes.extends.capacity.trans h.capacity, hbecomes.within h.within⟩
  pin e index d pinMask h hdevice :=
    ⟨(accounts_kept confOf bounds).pin e index d pinMask h.accounts hdevice, h.capacity, h.within⟩
  unpin e held pins h hpins :=
    ⟨(accounts_kept confOf bounds).unpin e held pins h.accounts hpins, h.capacity, h.within⟩

theorem start_sound {config : HubConfig} {capability? : DeviceType → Option Capability}
    {now : UInt32} {hub : Hub σ} (hnew : Hub.new config capability? now = .ok hub) (client : σ) :
    (HubInUse.start hub client : HubInUse κ σ).Sound
      ⟨config.maxEvents.toNat, config.dataHeapLimit⟩ config.maxDevices.toNat where
  accounts := start_accounts hnew client
  capacity := by
    rw [Hub.new_eq hnew]
    rfl
  within := by
    rw [Hub.new_eq hnew]
    exact Nat.zero_le _

end HubInUse

/-- A survey that a client asks for, and its visitor. -/
structure SurveyRequest (κ σ : Type) where
  selection : Selection
  pinMask : UInt32
  breaks : Visit → HubInUse κ σ → Bool
  visitor : Visit → HubInUse κ σ → List (HubAction κ σ)

namespace SurveyRequest

def action (t : SurveyRequest κ σ) : HubAction κ σ :=
  .survey t.selection t.pinMask t.breaks t.visitor

/-- The visitor, as the survey calls it. -/
def visiting (t : SurveyRequest κ σ) (confOf : Nat → κ → SubscriptionConf σ) :
    Visit → Hub σ → HubInUse κ σ × List (HubInUse κ σ) →
      Bool × Hub σ × (HubInUse κ σ × List (HubInUse κ σ)) :=
  HubInUse.visit t.breaks fun shown within => HubInUse.actAll confOf (t.visitor shown within) within

def answer (t : SurveyRequest κ σ) (confOf : Nat → κ → SubscriptionConf σ) (e : HubInUse κ σ) :
    Except Error Nat :=
  (e.hub.survey t.selection t.pinMask (t.visiting confOf) (e, [])).1

def calls (t : SurveyRequest κ σ) (confOf : Nat → κ → SubscriptionConf σ) (e : HubInUse κ σ) :
    List (Call σ) :=
  (e.hub.survey t.selection t.pinMask (Hub.journaled (t.visiting confOf)) ((e, []), [])).2.2.2

def after (t : SurveyRequest κ σ) (confOf : Nat → κ → SubscriptionConf σ) (e : HubInUse κ σ) :
    HubInUse κ σ :=
  (HubInUse.act confOf t.action e).1

/-- Whether the visitor breaks off at a position, if nothing has changed. -/
def breaksAt (t : SurveyRequest κ σ) (e : HubInUse κ σ) (index : Nat) : Bool :=
  (e.hub.registry.devices[index]?).any fun d =>
    t.breaks { index, pinned := d.pins t.pinMask } (e.pin ((d.pins t.pinMask).filterMap id))

/-- A call is the visitor at work on the hub that it finds, where the events that it is shown are
live. -/
structure Serves (t : SurveyRequest κ σ) (confOf : Nat → κ → SubscriptionConf σ) (call : Call σ) :
    Prop where
  work : ∃ within : HubInUse κ σ, within.hub = call.found ∧
    call.left = (HubInUse.actAll confOf (t.visitor call.shown within) within).1.hub ∧
    call.broke = t.breaks call.shown within
  live : ∀ ref ∈ call.held, ∃ stored, call.found.events.find? ref = some stored

variable {t : SurveyRequest κ σ} {confOf : Nat → κ → SubscriptionConf σ} {e : HubInUse κ σ}
  {bounds : EventStore.Bounds} {capacity : Nat}

theorem hosts (t : SurveyRequest κ σ) (confOf : Nat → κ → SubscriptionConf σ)
    (bounds : EventStore.Bounds) (capacity : Nat) :
    Hub.Hosts t.pinMask (t.visiting confOf) capacity
      (fun hub memo => HubInUse.Sound { memo.1 with hub } bounds capacity) (t.Serves confOf) where
  within hub memo h := h.within.trans_eq h.capacity
  visited index d hub memo h hdevice := by
    have hkept := HubInUse.sound_kept confOf bounds capacity
    have hwithin := hkept.pin { memo.1 with hub } index d t.pinMask h hdevice
    obtain ⟨hleft, hpins, -⟩ := HubInUse.actAll_leaves hkept
      (t.visitor { index, pinned := d.pins t.pinMask } _) _ hwithin
    refine ⟨hkept.unpin _ _ memo.1.pins hleft hpins, ⟨_, rfl, rfl, rfl⟩, fun ref href => ?_⟩
    obtain ⟨stored, hfind, -⟩ := hwithin.accounts.events.find_held
      (List.mem_append_right _ (List.mem_append_right _ (List.mem_append_left _ href)))
    exact ⟨stored, hfind⟩

theorem answer_eq : t.answer confOf e =
    (e.hub.survey t.selection t.pinMask (Hub.journaled (t.visiting confOf)) ((e, []), [])).1 := by
  rw [answer, Hub.survey_journaled]

theorem after_eq :
    let answer :=
      e.hub.survey t.selection t.pinMask (Hub.journaled (t.visiting confOf)) ((e, []), [])
    t.after confOf e = { answer.2.2.1.1 with hub := answer.2.1 } := by
  change ({ (e.hub.survey t.selection t.pinMask (t.visiting confOf) (e, [])).2.2.1 with
    hub := (e.hub.survey t.selection t.pinMask (t.visiting confOf) (e, [])).2.1 } :
      HubInUse κ σ) = _
  rw [Hub.survey_journaled]

/-- After each call of a visitor that does nothing, things are as they were. -/
theorem quiet_hosts (confOf : Nat → κ → SubscriptionConf σ) (hsound : e.Sound bounds capacity)
    (hquiet : ∀ shown within, t.visitor shown within = []) :
    Hub.Hosts t.pinMask (t.visiting confOf) capacity
      (fun hub memo => ({ memo.1 with hub } : HubInUse κ σ) = e)
      (fun call => call.after = e.hub ∧ call.broke = t.breaksAt e call.index) where
  within hub memo h := by
    rw [← h] at hsound
    exact hsound.within.trans_eq hsound.capacity
  visited index d hub memo h hdevice := by
    subst h
    have hact (w : HubInUse κ σ) (shown : Visit) :
        HubInUse.actAll confOf (t.visitor shown w) w = (w, []) := by
      rw [hquiet, HubInUse.actAll]
    have hafter : (Hub.callAt t.pinMask (t.visiting confOf) index d hub memo).after = hub := by
      simp only [Hub.callAt, visiting, HubInUse.visit, hact]
      exact Hub.releaseAll_holdAll hsound.accounts.events.holders_pos _
    refine ⟨?_, hafter, ?_⟩
    · rw [hafter]
      simp only [Hub.memoAt, visiting, HubInUse.visit, hact]
    · change t.breaks _ _ = (hub.registry.devices[index]?).any _
      rw [hdevice]
      rfl

/-- What comes of a survey. -/
structure Surveyed (t : SurveyRequest κ σ) (confOf : Nat → κ → SubscriptionConf σ)
    (e : HubInUse κ σ) : Prop where
  refused : t.answer confOf e = .error (.registry .noDevices) ↔
    t.selection.stop e.hub.registry.devices.length ≤ t.selection.fromIndex.getD 0
  untouched : t.answer confOf e = .error (.registry .noDevices) →
    t.calls confOf e = [] ∧ t.after confOf e = e
  answered : t.selection.fromIndex.getD 0 < t.selection.stop e.hub.registry.devices.length →
    t.answer confOf e = .ok (t.calls confOf e).length ∧
      Itinerary t.selection t.pinMask (t.selection.fromIndex.getD 0) 0 e.hub (t.calls confOf e)
        (t.after confOf e).hub
  increasing : ((t.calls confOf e).map Call.index).Pairwise (· < ·)
  atMost : ∀ max, t.selection.maxCount = some max → (t.calls confOf e).length ≤ max
  unbroken : ∀ call ∈ (t.calls confOf e).dropLast, call.broke = false
  serves : ∀ call ∈ t.calls confOf e, t.Serves confOf call
  /-- Nothing is different after a survey whose visitor does nothing, no count of holders either. -/
  quiet : (∀ shown within, t.visitor shown within = []) →
    t.after confOf e = e ∧
      (t.calls confOf e).map Call.index = cutAfter (t.breaksAt e)
        (t.selection.wanted 0 (t.selection.choices e.hub (t.selection.fromIndex.getD 0)))

theorem surveyed_of_refused
    (hempty : t.selection.stop e.hub.registry.devices.length ≤ t.selection.fromIndex.getD 0) :
    t.Surveyed confOf e := by
  have hanswer : t.answer confOf e = .error (.registry .noDevices) := by
    rw [answer, Hub.survey_refuses hempty]
  have hcalls : t.calls confOf e = [] := by
    rw [calls, Hub.survey_refuses hempty]
  have hafter : t.after confOf e = e := by
    rw [after_eq, Hub.survey_refuses hempty]
  constructor
  · exact iff_of_true hanswer hempty
  · exact fun _ => ⟨hcalls, hafter⟩
  · intro hrange
    omega
  · simp [hcalls]
  · simp [hcalls]
  · simp [hcalls]
  · simp [hcalls]
  · intro _
    refine ⟨hafter, ?_⟩
    rw [hcalls, Selection.choices_none fun i hi hlt => by omega]
    unfold Selection.wanted
    split <;> simp [cutAfter]

theorem surveyed_of_sound (hsound : e.Sound bounds capacity) : t.Surveyed confOf e := by
  by_cases hempty :
      t.selection.stop e.hub.registry.devices.length ≤ t.selection.fromIndex.getD 0
  · exact surveyed_of_refused hempty
  have hrange := Nat.lt_of_not_le hempty
  obtain ⟨hanswer, hway, -, hserves⟩ := Hub.survey_itinerary (hosts t confOf bounds capacity)
    (e, []) hsound hsound.capacity hrange
  rw [← answer_eq] at hanswer
  constructor
  · rw [hanswer]
    exact iff_of_false (by simp) hempty
  · rw [hanswer]
    simp
  · intro _
    rw [after_eq]
    exact ⟨hanswer, hway⟩
  · exact hway.increasing.1
  · intro max hmax
    have hle := hway.length_le hmax (Nat.zero_le max)
    rwa [Nat.zero_add] at hle
  · exact hway.unbroken
  · exact hserves
  · intro hquiet
    obtain ⟨-, -, hsame, hsteady⟩ := Hub.survey_itinerary
      (quiet_hosts confOf hsound hquiet) (e, []) rfl hsound.capacity hrange
    refine ⟨after_eq.trans hsame, ?_⟩
    exact hway.steady (fun call hcall => (hsteady call hcall).1)
      fun call hcall => (hsteady call hcall).2

end SurveyRequest

namespace HubInUse

end HubInUse

end HomeGateway
