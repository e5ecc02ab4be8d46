import Mathlib
import HomeGateway.Survey

/-!
Runs of a hub: what its clients do, in any order, and all they hold meanwhile. A client holds
events that it took or made, events under construction and reserved bytes; the visitor of a
survey holds the pinned events and may do anything in its visits, surveys included. A run
gives every state that it passes through, those within visits too.
-/

namespace HomeGateway

/-- An event under construction: its slot, and the bytes that go with it. -/
structure Builder where
  slot : Nat
  lease : Option UInt64

/-- What happened in a run and what came of it. Subscriptions are made with a `κ`. -/
inductive Happening (κ : Type) where
  | registered (addr : DeviceAddr) (result : Except (Halt RegistryError) Nat)
  | dispatched (ref : EventRef) (event : Event)
  | received (addr : DeviceAddr) (payload : Payload) (result : Except (Halt Error) Nat)
  | commanded (addr : DeviceAddr) (endpoint : Nat) (value : DataValue)
      (result : Except Error (List UInt8))
  | subscribed (conf : κ) (result : Except Error Nat)
  | taken (id : Nat) (ref : EventRef)

/-- A hub with its clients. `pins` are the events pinned for the visits under way, `loans` the
reserved bytes that belong to no event. -/
structure HubInUse (κ σ : Type) where
  hub : Hub σ
  client : σ
  handles : List EventRef
  pins : List EventRef
  builders : List Builder
  loans : List UInt64
  history : List (Happening κ)

/-- What clients do. Events, builders and loans in hand go by their positions, and nothing
comes of a position that there is not; the events of the visits under way follow the handles. A
subscription is closed by `unsubscribe`, also where its owner drops it; whoever waits at one
takes its events by `next`. -/
inductive HubOperation (κ : Type) where
  | register (addr : DeviceAddr)
  | setClock (now : UInt32)
  | receive (addr : DeviceAddr) (payload : Payload)
  | command (addr : DeviceAddr) (endpoint : Nat) (value : DataValue)
  | subscribe (conf : κ)
  | unsubscribe (id : Nat)
  | next (id : Nat)
  | latest (device endpoint : Nat)
  | duplicate (handle : Nat)
  | letGo (handle : Nat)
  | publish (handle : Nat)
  | begin
  | reserve (size : UInt64)
  | attach (builder loan : Nat)
  | freeze (builder : Nat) (event : Event)
  | discard (builder : Nat)
  | repay (loan : Nat)

/-- An operation, or a survey. What its visitor does, and whether it breaks off, may depend on
all that is there at the visit. -/
inductive HubAction (κ σ : Type) where
  | operate (operation : HubOperation κ)
  | survey (selection : Selection) (pinMask : UInt32) (breaks : Visit → HubInUse κ σ → Bool)
      (visitor : Visit → HubInUse κ σ → List (HubAction κ σ))

variable {κ σ : Type}

namespace EventStore

/-- Gives bytes back that belong to no event. -/
def repay (store : EventStore) (lease : Option UInt64) : EventStore :=
  match lease with
  | some size => { store with budget := store.budget.release size }
  | none => store

end EventStore

namespace Hub

/-- What there is to say of a dispatch. -/
def dispatchNotes (hub : Hub σ) (ref : EventRef) : List (Happening κ) :=
  match hub.events.find? ref with
  | some stored => [.dispatched ref stored.event]
  | none => []

/-- The dispatch that a payload leads to, if it becomes an event. -/
def receiveNotes (hub : Hub σ) (addr : DeviceAddr) (payload : Payload) : List (Happening κ) :=
  match hub.intake addr payload with
  | (.ok (ref, _), next) => next.dispatchNotes ref
  | (.error _, _) => []

/-- The dispatch that a command leads to, if there is a slot for its event. -/
def commandNotes (hub : Hub σ) (addr : DeviceAddr) (endpoint : Nat) (value : DataValue) :
    List (Happening κ) :=
  match hub.order addr endpoint value with
  | (_, some ref, next) => next.dispatchNotes ref
  | (_, none, _) => []

end Hub

namespace HubInUse

/-- A hub whose clients hold nothing yet. -/
def start (hub : Hub σ) (client : σ) : HubInUse κ σ :=
  { hub, client, handles := [], pins := [], builders := [], loans := [], history := [] }

def note (e : HubInUse κ σ) (happenings : List (Happening κ)) : HubInUse κ σ :=
  { e with history := e.history ++ happenings }

def register (e : HubInUse κ σ) (addr : DeviceAddr) : HubInUse κ σ :=
  let (result, hub) := e.hub.register addr
  { e with hub }.note [.registered addr result]

def receive (e : HubInUse κ σ) (addr : DeviceAddr) (payload : Payload) : HubInUse κ σ :=
  let (result, hub, client) := e.hub.receive addr payload.bytes payload.timestamp e.client
  { e with hub, client }.note
    (e.hub.receiveNotes addr payload ++ [Happening.received addr payload result])

def command (e : HubInUse κ σ) (addr : DeviceAddr) (endpoint : Nat) (value : DataValue) :
    HubInUse κ σ :=
  let (result, hub, client) := e.hub.command addr endpoint value e.client
  { e with hub, client }.note
    (e.hub.commandNotes addr endpoint value ++ [Happening.commanded addr endpoint value result])

/-- Makes a subscription. What a `κ` stands for may depend on the id. -/
def subscribe (confOf : Nat → κ → SubscriptionConf σ) (e : HubInUse κ σ) (conf : κ) :
    HubInUse κ σ :=
  let (result, hub) := e.hub.subscribe (confOf e.hub.exchange.dispatcher.nextId conf)
  { e with hub }.note [.subscribed conf result]

/-- Takes the oldest event of a subscription, which the client holds from then on. -/
def next (e : HubInUse κ σ) (id : Nat) : HubInUse κ σ :=
  match e.hub.next id with
  | (some ref, hub) => { e with hub, handles := ref :: e.handles }.note [.taken id ref]
  | (none, hub) => { e with hub }

/-- One more handle on an event that is there. -/
def hold (e : HubInUse κ σ) (ref : EventRef) : HubInUse κ σ :=
  { e with hub := e.hub.withEvents (e.hub.events.hold ref), handles := ref :: e.handles }

/-- A handle on the event that an endpoint keeps. -/
def latest (e : HubInUse κ σ) (device endpoint : Nat) : HubInUse κ σ :=
  match (e.hub.registry.devices[device]?).bind fun d => d.retained? endpoint with
  | some ref => e.hold ref
  | none => e

def duplicate (e : HubInUse κ σ) (handle : Nat) : HubInUse κ σ :=
  match (e.handles ++ e.pins)[handle]? with
  | some ref => e.hold ref
  | none => e

def letGo (e : HubInUse κ σ) (handle : Nat) : HubInUse κ σ :=
  match e.handles[handle]? with
  | some ref => { e with hub := e.hub.release ref, handles := e.handles.eraseIdx handle }
  | none => e

/-- Dispatches an event that the client holds. -/
def publish (e : HubInUse κ σ) (handle : Nat) : HubInUse κ σ :=
  match (e.handles ++ e.pins)[handle]? with
  | some ref =>
    let (_, exchange, client) := e.hub.exchange.publish ref e.client
    { e with hub := { e.hub with exchange }, client }.note (e.hub.dispatchNotes ref)
  | none => e

/-- Begins an event, if a slot is free. -/
def begin (e : HubInUse κ σ) : HubInUse κ σ :=
  match e.hub.events.takeSlot with
  | .ok (slot, events) =>
    { e with hub := e.hub.withEvents events, builders := { slot, lease := none } :: e.builders }
  | .error _ => e

def reserve (e : HubInUse κ σ) (size : UInt64) : HubInUse κ σ :=
  match e.hub.events.reserve size with
  | .ok events => { e with hub := e.hub.withEvents events, loans := size :: e.loans }
  | .error _ => e

/-- Lays bytes aside for an event, in place of those laid aside for it before. -/
def attach (e : HubInUse κ σ) (builder loan : Nat) : HubInUse κ σ :=
  match e.builders[builder]?, e.loans[loan]? with
  | some b, some size =>
    { e with
      hub := e.hub.withEvents (e.hub.events.repay b.lease)
      builders := { b with lease := some size } :: e.builders.eraseIdx builder
      loans := e.loans.eraseIdx loan }
  | _, _ => e

/-- Completes an event, which the client holds from then on. -/
def freeze (e : HubInUse κ σ) (builder : Nat) (event : Event) : HubInUse κ σ :=
  match e.builders[builder]? with
  | some b =>
    let (ref, events) := e.hub.events.freeze b.slot b.lease event
    { e with
      hub := e.hub.withEvents events
      handles := ref :: e.handles
      builders := e.builders.eraseIdx builder }
  | none => e

/-- Gives an event up before it is complete. -/
def discard (e : HubInUse κ σ) (builder : Nat) : HubInUse κ σ :=
  match e.builders[builder]? with
  | some b =>
    { e with
      hub := e.hub.withEvents ((e.hub.events.repay b.lease).freeSlot b.slot)
      builders := e.builders.eraseIdx builder }
  | none => e

def repay (e : HubInUse κ σ) (loan : Nat) : HubInUse κ σ :=
  match e.loans[loan]? with
  | some size =>
    { e with
      hub := e.hub.withEvents (e.hub.events.repay (some size))
      loans := e.loans.eraseIdx loan }
  | none => e

def operate (confOf : Nat → κ → SubscriptionConf σ) (e : HubInUse κ σ) :
    HubOperation κ → HubInUse κ σ
  | .register addr => e.register addr
  | .setClock now => { e with hub := { e.hub with now } }
  | .receive addr payload => e.receive addr payload
  | .command addr endpoint value => e.command addr endpoint value
  | .subscribe conf => e.subscribe confOf conf
  | .unsubscribe id => { e with hub := e.hub.unsubscribe id }
  | .next id => e.next id
  | .latest device endpoint => e.latest device endpoint
  | .duplicate handle => e.duplicate handle
  | .letGo handle => e.letGo handle
  | .publish handle => e.publish handle
  | .begin => e.begin
  | .reserve size => e.reserve size
  | .attach builder loan => e.attach builder loan
  | .freeze builder event => e.freeze builder event
  | .discard builder => e.discard builder
  | .repay loan => e.repay loan

/-- One visit of a survey, which adds the states within it to those passed before: the visitor
finds the pinned events held, and does what it does by `run`. -/
def visit (breaks : Visit → HubInUse κ σ → Bool)
    (run : Visit → HubInUse κ σ → HubInUse κ σ × List (HubInUse κ σ)) (visit : Visit) (hub : Hub σ)
    (memo : HubInUse κ σ × List (HubInUse κ σ)) :
    Bool × Hub σ × (HubInUse κ σ × List (HubInUse κ σ)) :=
  let within : HubInUse κ σ :=
    { memo.1 with hub, pins := visit.pinned.filterMap id ++ memo.1.pins }
  let (left, passed) := run visit within
  (breaks visit within, left.hub, { left with pins := memo.1.pins }, memo.2 ++ within :: passed)

mutual

/-- The state after an action, and the states within the visits of a survey. -/
def act (confOf : Nat → κ → SubscriptionConf σ) :
    HubAction κ σ → HubInUse κ σ → HubInUse κ σ × List (HubInUse κ σ)
  | .operate operation, e => (e.operate confOf operation, [])
  | .survey selection pinMask breaks visitor, e =>
    let (_, hub, after, passed) := e.hub.survey selection pinMask
      (visit breaks fun visit within => actAll confOf (visitor visit within) within) (e, [])
    ({ after with hub }, passed)

/-- The state after some actions, and all states passed through on the way, the last too. -/
def actAll (confOf : Nat → κ → SubscriptionConf σ) :
    List (HubAction κ σ) → HubInUse κ σ → HubInUse κ σ × List (HubInUse κ σ)
  | [], e => (e, [])
  | action :: rest, e =>
    let (after, passed) := act confOf action e
    let (last, more) := actAll confOf rest after
    (last, passed ++ after :: more)

end

/-- The states that a run passes through, from the first to the last. -/
def states (confOf : Nat → κ → SubscriptionConf σ) (actions : List (HubAction κ σ))
    (e : HubInUse κ σ) : List (HubInUse κ σ) :=
  e :: (actAll confOf actions e).2

end HubInUse

namespace Hub

section Survey

variable {τ : Type} (keeps : Hub σ → τ → Prop) {pinMask : UInt32}
  {visit : Visit → Hub σ → τ → Bool × Hub σ × τ}
  (hvisit : ∀ (index : Nat) (d : Device) (hub : Hub σ) (memo : τ), keeps hub memo →
    hub.registry.devices[index]? = some d →
    let held := (d.pins pinMask).filterMap id
    let answer := visit { index, pinned := d.pins pinMask } (hub.holdAll held) memo
    keeps (answer.2.1.releaseAll held) answer.2.2)

include hvisit

theorem surveyFrom_keeps (selection : Selection) (left index count : Nat) (hub : Hub σ) (memo : τ)
    (h : keeps hub memo) :
    let answer := surveyFrom selection pinMask visit left index count hub memo
    keeps answer.2.1 answer.2.2 := by
  induction left generalizing index count hub memo with
  | zero => exact h
  | succ left ih =>
    unfold surveyFrom
    by_cases hmax : selection.maxCount.any fun max => max ≤ count
    · rw [if_pos hmax]
      exact h
    rw [if_neg hmax]
    by_cases hstop : selection.stop hub.registry.devices.length ≤ index
    · rw [if_pos hstop]
      exact h
    rw [if_neg hstop]
    cases hdevice : hub.registry.devices[index]? with
    | none => exact h
    | some d =>
      dsimp only
      by_cases hfits : !selection.fits hub.events d
      · rw [if_pos hfits]
        exact ih (index + 1) count hub memo h
      rw [if_neg hfits]
      have hvisited := hvisit index d hub memo h hdevice
      dsimp only at hvisited
      generalize visit { index, pinned := d.pins pinMask } _ memo = answer at hvisited ⊢
      obtain ⟨broke, last, memo⟩ := answer
      cases broke with
      | true => exact hvisited
      | false => exact ih (index + 1) (count + 1) _ memo hvisited

/-- What every visit keeps, a survey keeps. -/
theorem survey_keeps (selection : Selection) (hub : Hub σ) (memo : τ) (h : keeps hub memo) :
    let answer := hub.survey selection pinMask visit memo
    keeps answer.2.1 answer.2.2 := by
  unfold survey
  dsimp only
  by_cases hempty : selection.stop hub.registry.devices.length ≤ selection.fromIndex.getD 0
  · rw [if_pos hempty]
    exact h
  · rw [if_neg hempty]
    exact surveyFrom_keeps keeps hvisit selection _ _ 0 hub memo h

end Survey

end Hub

namespace HubInUse

/-- A visit begins: the events it is shown are held for it. -/
def pin (e : HubInUse κ σ) (held : List EventRef) : HubInUse κ σ :=
  { e with hub := e.hub.holdAll held, pins := held ++ e.pins }

/-- A visit ends. -/
def unpin (e : HubInUse κ σ) (held : List EventRef) (pins : List EventRef) : HubInUse κ σ :=
  { e with hub := e.hub.releaseAll held, pins }

/-- Only visits pin. -/
theorem operate_pins (confOf : Nat → κ → SubscriptionConf σ) (e : HubInUse κ σ)
    (operation : HubOperation κ) : (e.operate confOf operation).pins = e.pins := by
  cases operation with
  | register | setClock | receive | command | subscribe | unsubscribe => rfl
  | next | latest | duplicate | letGo | publish | begin | reserve | attach | freeze | discard
  | repay =>
    simp only [HubInUse.operate, HubInUse.next, HubInUse.latest, HubInUse.duplicate, HubInUse.letGo,
      HubInUse.publish, HubInUse.begin, HubInUse.reserve, HubInUse.attach, HubInUse.freeze,
      HubInUse.discard, HubInUse.repay]
    split <;> rfl

/-- What operations keep, and visits keep where they begin and where they end, holds of every
state that a run passes through. -/
structure KeptBy (confOf : Nat → κ → SubscriptionConf σ) (keeps : HubInUse κ σ → Prop) :
    Prop where
  operate : ∀ (e : HubInUse κ σ) (operation : HubOperation κ), keeps e →
    keeps (e.operate confOf operation)
  pin : ∀ (e : HubInUse κ σ) (index : Nat) (d : Device) (pinMask : UInt32), keeps e →
    e.hub.registry.devices[index]? = some d → keeps (e.pin ((d.pins pinMask).filterMap id))
  unpin : ∀ (e : HubInUse κ σ) (held pins : List EventRef), keeps e → e.pins = held ++ pins →
    keeps (e.unpin held pins)

variable {confOf : Nat → κ → SubscriptionConf σ} {keeps : HubInUse κ σ → Prop}

/-- Pins are no business of the registry: what operations keep of it, pins do. -/
theorem KeptBy.with_registry (hkept : KeptBy confOf keeps) (holds : Registry → Prop)
    (hoperate : ∀ (e : HubInUse κ σ) (operation : HubOperation κ), keeps e →
      holds e.hub.registry → holds (e.operate confOf operation).hub.registry) :
    KeptBy confOf fun e => keeps e ∧ holds e.hub.registry where
  operate e operation h := ⟨hkept.operate e operation h.1, hoperate e operation h.1 h.2⟩
  pin e index d pinMask h hdevice := ⟨hkept.pin e index d pinMask h.1 hdevice, h.2⟩
  unpin e held pins h hpins := ⟨hkept.unpin e held pins h.1 hpins, h.2⟩

/-- How an action leaves things. -/
def Leaves (keeps : HubInUse κ σ → Prop) (pins : List EventRef)
    (after : HubInUse κ σ × List (HubInUse κ σ)) : Prop :=
  keeps after.1 ∧ after.1.pins = pins ∧ ∀ w ∈ after.2, keeps w

mutual

theorem act_leaves (hkept : KeptBy confOf keeps) (action : HubAction κ σ) (e : HubInUse κ σ)
    (h : keeps e) : Leaves keeps e.pins (act confOf action e) := by
  match action with
  | .operate operation =>
    exact ⟨hkept.operate e operation h, e.operate_pins confOf operation, by simp [act]⟩
  | .survey selection pinMask breaks visitor =>
    refine Hub.survey_keeps (fun hub memo => Leaves keeps e.pins ({ memo.1 with hub }, memo.2))
      ?_ selection e.hub (e, []) ⟨h, rfl, by simp⟩
    intro index d hub memo hmemo hdevice
    obtain ⟨hbefore, hpins, hpassed⟩ := hmemo
    have hwithin := hkept.pin { memo.1 with hub } index d pinMask hbefore hdevice
    obtain ⟨hleft, hleftPins, hinner⟩ := actAll_leaves hkept
      (visitor { index, pinned := d.pins pinMask } _) _ hwithin
    refine ⟨hkept.unpin _ _ memo.1.pins hleft hleftPins, hpins, ?_⟩
    intro w hw
    rcases List.mem_append.mp hw with hin | hin
    · exact hpassed w hin
    · rcases List.mem_cons.mp hin with rfl | hlater
      · exact hwithin
      · exact hinner w hlater

theorem actAll_leaves (hkept : KeptBy confOf keeps) (actions : List (HubAction κ σ))
    (e : HubInUse κ σ) (h : keeps e) : Leaves keeps e.pins (actAll confOf actions e) := by
  match actions with
  | [] => exact ⟨h, rfl, by simp [actAll]⟩
  | action :: rest =>
    obtain ⟨hafter, hpins, hpassed⟩ := act_leaves hkept action e h
    obtain ⟨hlast, hlastPins, hmore⟩ := actAll_leaves hkept rest (act confOf action e).1 hafter
    refine ⟨hlast, hlastPins.trans hpins, ?_⟩
    intro w hw
    rcases List.mem_append.mp hw with hin | hin
    · exact hpassed w hin
    · rcases List.mem_cons.mp hin with rfl | hlater
      · exact hafter
      · exact hmore w hlater

end

/-- The rule for runs. -/
theorem states_keep (hkept : KeptBy confOf keeps) (actions : List (HubAction κ σ))
    {e : HubInUse κ σ} (h : keeps e) : ∀ w ∈ states confOf actions e, keeps w := by
  intro w hw
  rcases List.mem_cons.mp hw with rfl | hin
  · exact h
  · exact (actAll_leaves hkept actions e h).2.2 w hin

/-! The operations on the way. -/

/-- An operation, and the state that it found. -/
structure Deed (κ σ : Type) where
  before : HubInUse κ σ
  operation : HubOperation κ

/-- The operations that lead from one state to another, in order. Visits begin and end on the
way. -/
inductive Path (confOf : Nat → κ → SubscriptionConf σ) (first : HubInUse κ σ) :
    List (Deed κ σ) → HubInUse κ σ → Prop where
  | start : Path confOf first [] first
  | operate {deeds : List (Deed κ σ)} {e : HubInUse κ σ} (h : Path confOf first deeds e)
    (operation : HubOperation κ) :
    Path confOf first (deeds ++ [⟨e, operation⟩]) (e.operate confOf operation)
  | pin {deeds : List (Deed κ σ)} {e : HubInUse κ σ} (h : Path confOf first deeds e) {index : Nat}
    {d : Device} (hdevice : e.hub.registry.devices[index]? = some d) (pinMask : UInt32) :
    Path confOf first deeds (e.pin ((d.pins pinMask).filterMap id))
  | unpin {deeds : List (Deed κ σ)} {e : HubInUse κ σ} (h : Path confOf first deeds e)
    {held pins : List EventRef} (hpins : e.pins = held ++ pins) :
    Path confOf first deeds (e.unpin held pins)

/-- What runs keep, every operation on a path finds. -/
theorem Path.invariant (hkept : KeptBy confOf keeps) {first last : HubInUse κ σ}
    {deeds : List (Deed κ σ)} (h : Path confOf first deeds last) (hfirst : keeps first) :
    keeps last := by
  induction h with
  | start => exact hfirst
  | operate _ operation ih => exact hkept.operate _ operation ih
  | pin _ hdevice pinMask ih => exact hkept.pin _ _ _ pinMask ih hdevice
  | unpin _ hpins ih => exact hkept.unpin _ _ _ ih hpins

/-- Every state of a run is at the end of a path. -/
theorem states_path (confOf : Nat → κ → SubscriptionConf σ) (actions : List (HubAction κ σ))
    (e : HubInUse κ σ) : ∀ w ∈ states confOf actions e, ∃ deeds, Path confOf e deeds w := by
  refine states_keep ⟨?_, ?_, ?_⟩ actions ⟨[], .start⟩
  · rintro w operation ⟨deeds, hpath⟩
    exact ⟨_, hpath.operate operation⟩
  · rintro w index d pinMask ⟨deeds, hpath⟩ hdevice
    exact ⟨deeds, hpath.pin hdevice pinMask⟩
  · rintro w held pins ⟨deeds, hpath⟩ hpins
    exact ⟨deeds, hpath.unpin hpins⟩

/-! Later states against earlier ones. -/

/-- A relation of earlier to later states: operations move along it, and so do visits where they
begin and where they end. -/
structure MovesBy (confOf : Nat → κ → SubscriptionConf σ)
    (moves : HubInUse κ σ → HubInUse κ σ → Prop) : Prop where
  refl : ∀ e, moves e e
  trans : ∀ {e mid last}, moves e mid → moves mid last → moves e last
  operate : ∀ (e : HubInUse κ σ) (operation : HubOperation κ), moves e (e.operate confOf operation)
  pin : ∀ (e : HubInUse κ σ) (held : List EventRef), moves e (e.pin held)
  unpin : ∀ (e : HubInUse κ σ) (held pins : List EventRef), moves e (e.unpin held pins)

variable {moves : HubInUse κ σ → HubInUse κ σ → Prop}

/-- How an action moves on from a state: what it passes through is in order, too. -/
structure Ordered (moves : HubInUse κ σ → HubInUse κ σ → Prop) (e : HubInUse κ σ)
    (after : HubInUse κ σ × List (HubInUse κ σ)) : Prop where
  last : moves e after.1
  fromFirst : ∀ w ∈ after.2, moves e w
  toLast : ∀ w ∈ after.2, moves w after.1
  passed : after.2.Pairwise moves

/-- Moving on with a state that is passed, too, and with what is passed after it. -/
theorem Ordered.extend {e mid : HubInUse κ σ} {passed : List (HubInUse κ σ)}
    {after : HubInUse κ σ × List (HubInUse κ σ)} (hmoves : MovesBy confOf moves)
    (hbefore : Ordered moves e (mid, passed)) (hafter : Ordered moves mid after) :
    Ordered moves e (after.1, passed ++ mid :: after.2) := by
  constructor
  · exact hmoves.trans hbefore.last hafter.last
  · intro w hw
    rcases List.mem_append.mp hw with hin | hin
    · exact hbefore.fromFirst w hin
    · rcases List.mem_cons.mp hin with rfl | hlater
      · exact hbefore.last
      · exact hmoves.trans hbefore.last (hafter.fromFirst w hlater)
  · intro w hw
    rcases List.mem_append.mp hw with hin | hin
    · exact hmoves.trans (hbefore.toLast w hin) hafter.last
    · rcases List.mem_cons.mp hin with rfl | hlater
      · exact hafter.last
      · exact hafter.toLast w hlater
  · refine List.pairwise_append.mpr ⟨hbefore.passed,
      List.pairwise_cons.mpr ⟨hafter.fromFirst, hafter.passed⟩, ?_⟩
    intro w hw later hlater
    have hmid := hbefore.toLast w hw
    rcases List.mem_cons.mp hlater with rfl | hin
    · exact hmid
    · exact hmoves.trans hmid (hafter.fromFirst later hin)

/-- A move to a state that is not passed. -/
theorem Ordered.move {e mid last : HubInUse κ σ} {passed : List (HubInUse κ σ)}
    (hmoves : MovesBy confOf moves) (h : Ordered moves e (mid, passed)) (hlast : moves mid last) :
    Ordered moves e (last, passed) where
  last := hmoves.trans h.last hlast
  fromFirst := h.fromFirst
  toLast w hw := hmoves.trans (h.toLast w hw) hlast
  passed := h.passed

mutual

theorem act_ordered (hmoves : MovesBy confOf moves) (action : HubAction κ σ) (e : HubInUse κ σ) :
    Ordered moves e (act confOf action e) := by
  match action with
  | .operate operation =>
    exact ⟨hmoves.operate e operation, by simp [act], by simp [act], List.Pairwise.nil⟩
  | .survey selection pinMask breaks visitor =>
    refine Hub.survey_keeps (fun hub memo => Ordered moves e ({ memo.1 with hub }, memo.2))
      ?_ selection e.hub (e, []) ⟨hmoves.refl e, by simp, by simp, List.Pairwise.nil⟩
    intro index d hub memo hmemo hdevice
    let within : HubInUse κ σ := { memo.1 with hub }.pin ((d.pins pinMask).filterMap id)
    have hwithin : Ordered moves e (within, memo.2) := hmemo.move hmoves (hmoves.pin _ _)
    have hleft := actAll_ordered hmoves (visitor { index, pinned := d.pins pinMask } within) within
    exact (hwithin.extend hmoves hleft).move hmoves (hmoves.unpin _ _ memo.1.pins)

theorem actAll_ordered (hmoves : MovesBy confOf moves) (actions : List (HubAction κ σ))
    (e : HubInUse κ σ) : Ordered moves e (actAll confOf actions e) := by
  match actions with
  | [] => exact ⟨hmoves.refl e, by simp [actAll], by simp [actAll], List.Pairwise.nil⟩
  | action :: rest =>
    exact (act_ordered hmoves action e).extend hmoves
      (actAll_ordered hmoves rest (act confOf action e).1)

end

/-- The rule for how runs go on: every state of a run is reached from all that come before it. -/
theorem states_ordered (hmoves : MovesBy confOf moves) (actions : List (HubAction κ σ))
    (e : HubInUse κ σ) : (states confOf actions e).Pairwise moves := by
  have hordered := actAll_ordered hmoves actions e
  exact List.pairwise_cons.mpr ⟨hordered.fromFirst, hordered.passed⟩

theorem states_reached (hmoves : MovesBy confOf moves) (actions : List (HubAction κ σ))
    (e : HubInUse κ σ) : ∀ w ∈ states confOf actions e, moves e w := by
  intro w hw
  rcases List.mem_cons.mp hw with rfl | hin
  · exact hmoves.refl w
  · exact (actAll_ordered hmoves actions e).fromFirst w hin

end HubInUse

end HomeGateway
