import Mathlib
import HomeGateway.Catalog.Bench
import HomeGateway.Proofs.Hub.Retention
import HomeGateway.Proofs.Hub.Survey

/-!
Surveys for recent events. By the name of an endpoint, a survey goes by the event that this endpoint
keeps. Without a name it goes by one event of each device as well: that of the first endpoint that
keeps any. A device whose first event is old is passed, whatever its other endpoints keep.
-/

namespace HomeGateway

variable {κ σ : Type}

namespace Device

variable {d : Device}

/-- No two endpoints of the device have the same name. -/
def DistinctIds (d : Device) : Prop := (d.endpoints.map fun e => e.config.id).Nodup

/-- Where the names differ, each leads to its endpoint. -/
theorem DistinctIds.indexOf? (h : d.DistinctIds) {i : Nat} {config : EndpointConfig}
    (hconfig : d.config? i = some config) : d.indexOf? config.id = some i := by
  obtain ⟨endpoint, hendpoint, rfl⟩ := Option.map_eq_some_iff.mp hconfig
  obtain ⟨hlt, rfl⟩ := List.getElem?_eq_some_iff.mp hendpoint
  refine List.findIdx?_eq_some_iff_getElem.mpr ⟨hlt, decide_eq_true rfl, fun j hj => ?_⟩
  rw [decide_eq_true_eq]
  intro hsame
  have hpair := List.pairwise_iff_getElem.mp h j i (by simp; omega) (by simpa using hlt) hj
  simp [hsame] at hpair

theorem firstRetained?_eq_some {ref : EventRef} :
    d.firstRetained? = some ref ↔
      ∃ i, d.retained? i = some ref ∧ ∀ earlier < i, d.retained? earlier = none := by
  rw [firstRetained?, List.findSome?_eq_some_iff]
  constructor
  · rintro ⟨before, endpoint, after, hsplit, hkept, hnone⟩
    refine ⟨before.length, by simp [retained?, hsplit, hkept], fun earlier hearlier => ?_⟩
    rw [retained?, hsplit, List.getElem?_append_left hearlier, List.getElem?_eq_getElem hearlier]
    exact hnone _ (List.getElem_mem hearlier)
  · rintro ⟨i, hkept, hnone⟩
    obtain ⟨endpoint, hendpoint, hkept⟩ := Option.bind_eq_some_iff.mp hkept
    obtain ⟨hlt, rfl⟩ := List.getElem?_eq_some_iff.mp hendpoint
    refine ⟨d.endpoints.take i, d.endpoints[i], d.endpoints.drop (i + 1), ?_, hkept, ?_⟩
    · rw [← List.drop_eq_getElem_cons hlt, List.take_append_drop]
    · intro other hother
      obtain ⟨earlier, hearlier, rfl⟩ := List.mem_take_iff_getElem.mp hother
      have hlast := hnone earlier (by omega)
      rwa [retained?, List.getElem?_eq_getElem (by omega), Option.bind_some] at hlast

end Device

namespace Selection

/-- The devices with events that are not older than a moment: at the endpoint of a name, or at
any. -/
def recent (endpoint? : Option EndpointId) (since : UInt32) : Selection :=
  { data := some endpoint?, since := some since }

theorem recent_selects {endpoint? : Option EndpointId} {since : UInt32} {hub : Hub σ}
    {index : Nat} :
    (recent endpoint? since).selects hub index = true ↔
      ∃ d, hub.registry.devices[index]? = some d ∧ ∃ ref event,
        eventOf endpoint? d = some ref ∧ hub.events.event? ref = some event ∧
          since ≤ event.timestamp := by
  have hfits (d : Device) : (recent endpoint? since).fits hub.events d = true ↔
      ∃ ref event, eventOf endpoint? d = some ref ∧ hub.events.event? ref = some event ∧
        since ≤ event.timestamp := by
    simp only [fits, fitsData, recent, EventStore.event?]
    cases eventOf endpoint? d with
    | none => simp
    | some ref => cases hfind : hub.events.find? ref <;> simp [hfind]
  simp only [selects, Option.any_eq_true, hfits]

end Selection

namespace Hub

variable {hub : Hub σ} {since : UInt32} {index endpoint : Nat} {d : Device}
  {bounds : EventStore.Bounds} {outside : List EventRef} {slots : List Nat} {loans : List UInt64}

/-- Whether an endpoint of the device at a position keeps an event that is not older than a
moment. -/
def keepsSince (hub : Hub σ) (since : UInt32) (index endpoint : Nat) : Bool :=
  (hub.lastEvent? index endpoint).any fun event => since ≤ event.timestamp

/-- The first endpoint of the device at a position that keeps an event. -/
structure FirstKept (hub : Hub σ) (index endpoint : Nat) : Prop where
  kept : (hub.lastEvent? index endpoint).isSome
  first : ∀ earlier < endpoint, hub.lastEvent? index earlier = none

theorem lastEvent?_of_device (hdevice : hub.registry.devices[index]? = some d) (endpoint : Nat) :
    hub.lastEvent? index endpoint = (d.retained? endpoint).bind hub.events.event? := by
  rw [lastEvent?, Registry.retainedAt_of_device hdevice]

theorem device_of_lastEvent? (h : (hub.lastEvent? index endpoint).isSome) :
    ∃ d, hub.registry.devices[index]? = some d := by
  cases hdevice : hub.registry.devices[index]? with
  | none => simp [lastEvent?, Registry.retainedAt, hdevice] at h
  | some d => exact ⟨d, rfl⟩

theorem keepsSince_iff : hub.keepsSince since index endpoint = true ↔
    ∃ event, hub.lastEvent? index endpoint = some event ∧ since ≤ event.timestamp := by
  simp only [keepsSince, Option.any_eq_true, decide_eq_true_eq]

theorem isSome_of_keepsSince (h : hub.keepsSince since index endpoint = true) :
    (hub.lastEvent? index endpoint).isSome := by
  obtain ⟨event, hevent, -⟩ := keepsSince_iff.mp h
  rw [hevent, Option.isSome_some]

/-- What a device keeps is live, so it keeps an event wherever it keeps something. -/
theorem Accounts.lastEvent?_eq_none (h : hub.Accounts bounds outside slots loans) :
    hub.lastEvent? index endpoint = none ↔ hub.registry.retainedAt index endpoint = none := by
  unfold lastEvent?
  cases hkept : hub.registry.retainedAt index endpoint with
  | none => simp
  | some ref =>
    have hheld := List.mem_append_right hub.exchange.dispatcher.queued
      (Registry.retainedAt_kept hkept)
    obtain ⟨event, hlive⟩ := h.events.event?_held (List.mem_append_left outside hheld)
    simp [hlive]

theorem exists_firstKept (h : (hub.lastEvent? index endpoint).isSome) :
    ∃ first, hub.FirstKept index first := by
  have hkept : ∃ i, (hub.lastEvent? index i).isSome := ⟨endpoint, h⟩
  refine ⟨Nat.find hkept, Nat.find_spec hkept, fun earlier hearlier => ?_⟩
  exact Option.not_isSome_iff_eq_none.mp (Nat.find_min hkept hearlier)

/-- The endpoint of what is kept has a configuration. -/
theorem config?_of_lastEvent? (hdevice : hub.registry.devices[index]? = some d)
    (h : (hub.lastEvent? index endpoint).isSome) : ∃ config, d.config? endpoint = some config := by
  rw [lastEvent?_of_device hdevice] at h
  cases hendpoint : d.endpoints[endpoint]? with
  | none => simp [Device.retained?, hendpoint] at h
  | some found => exact ⟨found.config, by simp [Device.config?, hendpoint]⟩

/-- A recent event is either the first that a device keeps, or comes after a first one that is
older. -/
theorem keepsSince_cases :
    (∃ i, hub.keepsSince since index i = true) ↔
      (∃ i, hub.FirstKept index i ∧ hub.keepsSince since index i = true) ∨
        ∃ i j, hub.FirstKept index i ∧ hub.keepsSince since index i = false ∧ i < j ∧
          hub.keepsSince since index j = true := by
  constructor
  · rintro ⟨j, hkeeps⟩
    have hkept := isSome_of_keepsSince hkeeps
    obtain ⟨i, hfirst⟩ := exists_firstKept hkept
    cases hrecent : hub.keepsSince since index i with
    | true => exact .inl ⟨i, hfirst, hrecent⟩
    | false =>
      refine .inr ⟨i, j, hfirst, hrecent, ?_, hkeeps⟩
      rcases Nat.lt_trichotomy i j with hlt | rfl | hgt
      · exact hlt
      · rw [hrecent] at hkeeps
        cases hkeeps
      · rw [hfirst.first j hgt] at hkept
        cases hkept
  · rintro (⟨i, -, hkeeps⟩ | ⟨-, j, -, -, -, hkeeps⟩)
    · exact ⟨i, hkeeps⟩
    · exact ⟨j, hkeeps⟩

theorem named_selects {id : EndpointId} :
    (Selection.recent (some id) since).selects hub index = true ↔
      ∃ d i, hub.registry.devices[index]? = some d ∧ d.indexOf? id = some i ∧
        hub.keepsSince since index i = true := by
  rw [Selection.recent_selects]
  constructor
  · rintro ⟨d, hdevice, ref, event, hchosen, hlive, hsince⟩
    obtain ⟨i, hindex, hkept⟩ := Option.bind_eq_some_iff.mp hchosen
    refine ⟨d, i, hdevice, hindex, ?_⟩
    simp [keepsSince, lastEvent?_of_device hdevice, hkept, hlive, hsince]
  · rintro ⟨d, i, hdevice, hindex, hkeeps⟩
    obtain ⟨event, hevent, hsince⟩ := keepsSince_iff.mp hkeeps
    rw [lastEvent?_of_device hdevice] at hevent
    obtain ⟨ref, hkept, hlive⟩ := Option.bind_eq_some_iff.mp hevent
    exact ⟨d, hdevice, ref, event, by simp [Selection.eventOf, hindex, hkept], hlive,
      hsince⟩

/-- Without a name, only the first event that a device keeps is looked at. -/
theorem unnamed_selects (h : hub.Accounts bounds outside slots loans) :
    (Selection.recent none since).selects hub index = true ↔
      ∃ i, hub.FirstKept index i ∧ hub.keepsSince since index i = true := by
  rw [Selection.recent_selects]
  constructor
  · rintro ⟨d, hdevice, ref, event, hchosen, hlive, hsince⟩
    obtain ⟨i, hkept, hfirst⟩ := Device.firstRetained?_eq_some.mp hchosen
    have hlast : hub.lastEvent? index i = some event := by
      rw [lastEvent?_of_device hdevice, hkept, Option.bind_some, hlive]
    refine ⟨i, ⟨by rw [hlast, Option.isSome_some], fun earlier hearlier => ?_⟩, ?_⟩
    · rw [h.lastEvent?_eq_none, Registry.retainedAt_of_device hdevice]
      exact hfirst earlier hearlier
    · simp [keepsSince, hlast, hsince]
  · rintro ⟨i, hfirst, hkeeps⟩
    obtain ⟨event, hevent, hsince⟩ := keepsSince_iff.mp hkeeps
    obtain ⟨d, hdevice⟩ := device_of_lastEvent? hfirst.kept
    rw [lastEvent?_of_device hdevice] at hevent
    obtain ⟨ref, hkept, hlive⟩ := Option.bind_eq_some_iff.mp hevent
    refine ⟨d, hdevice, ref, event, ?_, hlive, hsince⟩
    refine Device.firstRetained?_eq_some.mpr ⟨i, hkept, fun earlier hearlier => ?_⟩
    have hnone := h.lastEvent?_eq_none.mp (hfirst.first earlier hearlier)
    rwa [Registry.retainedAt_of_device hdevice] at hnone

end Hub

/-- A survey whose visitor only looks. -/
def SurveyRequest.looking (selection : Selection) (pinMask : UInt32) : SurveyRequest κ σ :=
  { selection, pinMask, breaks := fun _ _ => false, visitor := fun _ _ => [] }

theorem cutAfter_never {α : Type} {stops : α → Bool} (hnever : ∀ a, stops a = false)
    (items : List α) : cutAfter stops items = items := by
  induction items with
  | nil => rfl
  | cons a rest ih => rw [cutAfter, hnever a, if_neg Bool.false_ne_true, ih]

namespace HubInUse

variable {e : HubInUse κ σ} {confOf : Nat → κ → SubscriptionConf σ} {bounds : EventStore.Bounds}
  {capacity : Nat}

/-- The positions that a survey visits. -/
def visited (e : HubInUse κ σ) (confOf : Nat → κ → SubscriptionConf σ) (selection : Selection)
    (pinMask : UInt32) : List Nat :=
  ((SurveyRequest.looking selection pinMask).calls confOf e).map Call.index

theorem visited_eq (hsound : e.Sound bounds capacity) (selection : Selection) (pinMask : UInt32) :
    e.visited confOf selection pinMask =
      selection.wanted 0 (selection.choices e.hub (selection.fromIndex.getD 0)) := by
  have hsurveyed : (SurveyRequest.looking selection pinMask).Surveyed confOf e :=
    SurveyRequest.surveyed_of_sound hsound
  obtain ⟨-, hcalls⟩ := hsurveyed.quiet fun _ _ => rfl
  rw [cutAfter_never] at hcalls
  · exact hcalls
  · intro index
    simp [SurveyRequest.breaksAt, SurveyRequest.looking]

theorem mem_visited_recent (confOf : Nat → κ → SubscriptionConf σ)
    (hsound : e.Sound bounds capacity) (endpoint? : Option EndpointId) (since pinMask : UInt32)
    (index : Nat) :
    index ∈ e.visited confOf (.recent endpoint? since) pinMask ↔
      (Selection.recent endpoint? since).selects e.hub index = true := by
  have hall (choices : List Nat) : (Selection.recent endpoint? since).wanted 0 choices = choices :=
    rfl
  rw [visited_eq hsound, hall, Selection.choices, List.mem_filter, List.mem_range'_1]
  refine and_iff_right_of_imp fun hselected => ?_
  obtain ⟨d, hdevice, -⟩ := Selection.recent_selects.mp hselected
  obtain ⟨hlt, -⟩ := List.getElem?_eq_some_iff.mp hdevice
  have hstop : (Selection.recent endpoint? since).stop e.hub.registry.devices.length =
      e.hub.registry.devices.length := rfl
  have hstart : (Selection.recent endpoint? since).fromIndex.getD 0 = 0 := rfl
  omega

/-- Which devices are visited for their recent events: at the endpoint of a name, or at any. -/
structure Sifts (e : HubInUse κ σ) (confOf : Nat → κ → SubscriptionConf σ)
    (since pinMask : UInt32) : Prop where
  named : ∀ id index, index ∈ e.visited confOf (.recent (some id) since) pinMask ↔
    ∃ d i, e.hub.registry.devices[index]? = some d ∧ d.indexOf? id = some i ∧
      e.hub.keepsSince since index i = true
  /-- Without a name, the first event that a device keeps decides. -/
  unnamed : ∀ index, index ∈ e.visited confOf (.recent none since) pinMask ↔
    ∃ i, e.hub.FirstKept index i ∧ e.hub.keepsSince since index i = true
  /-- A device with a recent event is visited, or else it keeps an older one before that. -/
  passed : ∀ index, (∃ i, e.hub.keepsSince since index i = true) ↔
    index ∈ e.visited confOf (.recent none since) pinMask ∨
      ∃ i j, e.hub.FirstKept index i ∧ e.hub.keepsSince since index i = false ∧ i < j ∧
        e.hub.keepsSince since index j = true
  /-- To go without a name is to go by that of the first endpoint that keeps an event. -/
  byFirst : ∀ index d, e.hub.registry.devices[index]? = some d → d.DistinctIds →
    (index ∈ e.visited confOf (.recent none since) pinMask ↔
      ∃ i config, e.hub.FirstKept index i ∧ d.config? i = some config ∧
        index ∈ e.visited confOf (.recent (some config.id) since) pinMask)
  /-- A recent event is found by the name of its endpoint. -/
  byName : ∀ index d, e.hub.registry.devices[index]? = some d → d.DistinctIds →
    ((∃ i, e.hub.keepsSince since index i = true) ↔
      ∃ i config, d.config? i = some config ∧
        index ∈ e.visited confOf (.recent (some config.id) since) pinMask)

theorem sifts_of_sound (hsound : e.Sound bounds capacity) (since pinMask : UInt32) :
    e.Sifts confOf since pinMask := by
  have hnamed (id : EndpointId) (index : Nat) :=
    (mem_visited_recent confOf hsound (some id) since pinMask index).trans
      Hub.named_selects
  have hunnamed (index : Nat) :=
    (mem_visited_recent confOf hsound none since pinMask index).trans
      (Hub.unnamed_selects hsound.accounts)
  have hbyId {index : Nat} {d : Device} (hdevice : e.hub.registry.devices[index]? = some d)
      (hdistinct : d.DistinctIds) {i : Nat} {config : EndpointConfig}
      (hconfig : d.config? i = some config) :
      index ∈ e.visited confOf (.recent (some config.id) since) pinMask ↔
        e.hub.keepsSince since index i = true := by
    rw [hnamed]
    constructor
    · rintro ⟨found, j, hfound, hindex, hkeeps⟩
      cases hdevice.symm.trans hfound
      rw [hdistinct.indexOf? hconfig] at hindex
      cases hindex
      exact hkeeps
    · exact fun hkeeps => ⟨d, i, hdevice, hdistinct.indexOf? hconfig, hkeeps⟩
  refine ⟨hnamed, hunnamed, fun index => ?_, fun index d hdevice hdistinct => ?_,
    fun index d hdevice hdistinct => ?_⟩
  · rw [hunnamed]
    exact Hub.keepsSince_cases
  · rw [hunnamed]
    constructor
    · rintro ⟨i, hfirst, hkeeps⟩
      obtain ⟨config, hconfig⟩ := Hub.config?_of_lastEvent? hdevice hfirst.kept
      exact ⟨i, config, hfirst, hconfig, (hbyId hdevice hdistinct hconfig).mpr hkeeps⟩
    · rintro ⟨i, config, hfirst, hconfig, hvisited⟩
      exact ⟨i, hfirst, (hbyId hdevice hdistinct hconfig).mp hvisited⟩
  · constructor
    · rintro ⟨i, hkeeps⟩
      have hkept := Hub.isSome_of_keepsSince hkeeps
      obtain ⟨config, hconfig⟩ := Hub.config?_of_lastEvent? hdevice hkept
      exact ⟨i, config, hconfig, (hbyId hdevice hdistinct hconfig).mpr hkeeps⟩
    · rintro ⟨i, config, hconfig, hvisited⟩
      exact ⟨i, (hbyId hdevice hdistinct hconfig).mp hvisited⟩

/-- Whatever clients did with a new hub: to look for recent events on any endpoint is to look at the
first event that each device keeps. Devices are missed by it that are found by the name of a later
endpoint. -/
theorem states_sifted {config : HubConfig} {capability? : DeviceType → Option Capability}
    {now : UInt32} {hub : Hub σ} (hnew : Hub.new config capability? now = .ok hub) (client : σ)
    (confOf : Nat → κ → SubscriptionConf σ) (actions : List (HubAction κ σ))
    (since pinMask : UInt32) :
    ∀ e ∈ states confOf actions (HubInUse.start hub client), e.Sifts confOf since pinMask := by
  intro e he
  exact sifts_of_sound
    (states_keep (sound_kept confOf _ _) actions (start_sound hnew client) e he) since pinMask

/-- Boards with two endpoints that keep their events. -/
def pairOfKeepers : DeviceType → Option Capability
  | .caniot => some (Bench.capability none [.keep, .mute] .byte0)
  | _ => none

/-- Two payloads of such a board: an event of time 0 at its first endpoint, then one of time 1 at
its second. -/
def agedFirst : List (HubAction (SubscriptionConf Unit) Unit) :=
  [.operate (.receive (.bus ⟨24⟩) { bytes := [0], timestamp := 0 }),
    .operate (.receive (.bus ⟨24⟩) { bytes := [1, 2, 3], timestamp := 5 })]

theorem states_sifted_aged :
    ∃ hub : Hub Unit, Hub.new {} pairOfKeepers 0 = .ok hub ∧
      let run := states (fun _ conf => conf) agedFirst (HubInUse.start hub ())
      ∃ e ∈ run, e.hub.FirstKept 0 0 ∧ e.hub.keepsSince 1 0 0 = false ∧
        e.Sifts (fun _ conf => conf) 1 1 := by
  refine ⟨_, rfl, ?_⟩
  intro run
  have hlast := List.mem_of_getElem? (l := run) (i := 2) rfl
  refine ⟨_, hlast, ⟨by decide +kernel, fun _ h => absurd h (Nat.not_lt_zero _)⟩,
    by decide +kernel, ?_⟩
  exact @states_sifted _ _ {} pairOfKeepers 0 _ rfl () _ _ 1 1 _ hlast

/-- That board is not visited for events from time 1 on, though it keeps one, and is visited by the
name of the endpoint that keeps it. -/
theorem states_not_sifted_by_any :
    ∃ hub : Hub Unit, Hub.new {} pairOfKeepers 0 = .ok hub ∧
      let run := states (fun _ conf => conf) agedFirst (HubInUse.start hub ())
      ∃ e ∈ run, ∃ d, e.hub.registry.devices[0]? = some d ∧ d.DistinctIds ∧
        e.visited (fun _ conf => conf) (.recent none 1) 1 = [] ∧
        (∃ i, e.hub.keepsSince 1 0 i = true) ∧
        ∃ i config, d.config? i = some config ∧
          e.visited (fun _ conf => conf) (.recent (some config.id) 1) 1 = [0] := by
  refine ⟨_, rfl, ?_⟩
  intro run
  have hlast := List.mem_of_getElem? (l := run) (i := 2) rfl
  refine ⟨_, hlast, _, rfl, ?_, ?_, ⟨1, ?_⟩, 1, _, rfl, ?_⟩
  · unfold Device.DistinctIds
    decide +kernel
  all_goals decide +kernel

end HubInUse

end HomeGateway
