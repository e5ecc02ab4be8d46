import Mathlib
import HomeGateway.Catalog.Builtin
import HomeGateway.Proofs.Bus.Relay
import HomeGateway.Proofs.Hub.Classes

/-!
A controller that feeds a hub next to the same controller without one. The hub takes every payload
or refuses it, and the controller does not care, as long as none brings the worker down. With the
built-in tables none does.
-/

namespace HomeGateway

variable {σ : Type}

namespace Relay

variable {r : Relay σ} {notices : List Notice}

/-! Boards that go the same way. -/

/-- A hub of another kind that takes what the hub takes, at least as long as the log is a good
one. -/
structure Mimics {S : Type} (forward : BusFrame → S → Option S) (view : Hub σ × σ → S)
    (good : List RelayEntry → Prop) : Prop where
  earlier : ∀ log more, good (log ++ more) → good log
  takes : ∀ f state result next, (Ingestion.ofFrame f).run state = (result, next) →
    result ≠ .error .abort → forward f (view state) = some (view next)
  falls : ∀ f state next log, (Ingestion.ofFrame f).run state = (.error .abort, next) →
    good (log ++ [.ingested (.ofFrame f) (.error .abort)]) → forward f (view state) = none

/-- The hub itself. -/
theorem mimics_relay : Mimics (σ := σ) Hub.relay (fun state => state) fun _ => True where
  earlier _ _ := id
  takes f state result next hrun hreturns := by
    unfold Hub.relay
    rw [hrun]
    obtain (cause | _) | matched := result
    · rfl
    · exact absurd rfl hreturns
    · rfl
  falls _ _ _ _ hrun _ := by
    unfold Hub.relay
    rw [hrun]

/-- No hub at all, if none of the payloads brought the worker down. -/
theorem mimics_nobody : Mimics (σ := σ) (fun _ hub => some hub) (fun _ => ())
    fun log => ∀ i, .ingested i (.error .abort) ∉ log where
  earlier _ more h i hin := h i (List.mem_append_left more hin)
  takes _ _ _ _ _ _ := rfl
  falls f _ _ _ _ h := absurd (List.mem_append_right _ List.mem_cons_self) (h (.ofFrame f))

/-- Notices add to the log. -/
theorem pass_extends (notices : List Notice) (r : Relay σ) : r.log <+: (r.pass notices).log := by
  refine pass_keeps (fun next => r.log <+: next.log) ?_ ?_ ?_ ?_ notices List.prefix_rfl
  · exact fun next _ _ _ h => h.trans (List.prefix_append _ _)
  · exact fun next _ _ _ h => h.trans (List.prefix_append _ _)
  · exact fun next _ h => h.trans (List.prefix_append _ _)
  · exact fun next h => h

theorem acceptNext_extends (submission : Option Submission) (r : Relay σ) :
    r.log <+: (r.acceptNext submission).log := by
  rcases r.acceptNext_cases submission with hsame | ⟨worker, notices, -, -, hpass⟩
  · rw [hsame]
  · rw [hpass]
    exact pass_extends notices (r.withWorker worker)

theorem heard_extends (v : Worker Arbiter) (taken : List RawFrame) (frame : Option BusFrame)
    (r : Relay σ) : r.log <+: (r.heard v taken frame).log :=
  pass_extends _ (r.roused v taken frame)

theorem turn_extends (r : Relay σ) : r.log <+: r.turn.log := by
  rcases r.turn_cases with hidle | ⟨v, taken, frame, submission, -, -, hturn⟩
  · rw [hidle]
  · rw [hturn]
    exact (heard_extends v taken frame r).trans (acceptNext_extends submission _)

section Mimics

variable {S : Type} {forward : BusFrame → S → Option S} {view : Hub σ × σ → S}
  {good : List RelayEntry → Prop}

theorem Mimics.before (h : Mimics forward view good) {log next : List RelayEntry}
    (hlog : log <+: next) (hgood : good next) : good log := by
  obtain ⟨more, rfl⟩ := hlog
  exact h.earlier log more hgood

theorem Mimics.pass (h : Mimics forward view good) (r : Relay σ)
    (hgood : good (r.pass notices).log) :
    Controller.pass forward notices r.controller (view r.state) =
      ((r.pass notices).controller, view (r.pass notices).state) := by
  induction notices generalizing r with
  | nil => rfl
  | cons notice rest ih =>
    cases notice with
    | telemetry f =>
      cases hrun : (Ingestion.ofFrame f).run r.state with
      | mk result next =>
        rw [Controller.pass]
        by_cases hdown : result = .error .abort
        · subst hdown
          rw [pass_falls hrun] at hgood ⊢
          rw [h.falls f r.state next r.log hrun hgood]
          rfl
        · rw [pass_returns hrun hdown] at hgood ⊢
          rw [h.takes f r.state result next hrun hdown]
          exact ih (r.ingested f result next) hgood
    | completion ticket outcome elapsed => exact ih (r.tell ticket outcome elapsed) hgood
    | lost ticket => exact ih (r.lose ticket) hgood

theorem Mimics.acceptNext (h : Mimics forward view good) (submission : Option Submission)
    (r : Relay σ) (hgood : good (r.acceptNext submission).log) :
    Controller.acceptNext forward r.now submission r.controller (view r.state) =
      ((r.acceptNext submission).controller, view (r.acceptNext submission).state) := by
  unfold Controller.acceptNext
  unfold Relay.acceptNext at hgood ⊢
  cases submission with
  | none => rfl
  | some submission =>
    dsimp only at hgood ⊢
    split
    · rfl
    · rename_i hup
      rw [if_neg hup] at hgood
      generalize r.controller.worker.accept r.now submission = accepted at hgood ⊢
      obtain ⟨notices, worker, survives⟩ := accepted
      have hpassed : good ((r.withWorker worker).pass notices).log := by
        cases survives <;> exact hgood
      have hpass :
          Controller.pass forward notices { r.controller with worker } (view r.state) = _ :=
        h.pass (r.withWorker worker) hpassed
      dsimp only
      rw [hpass]
      cases survives <;> rfl

theorem Mimics.turn (h : Mimics forward view good) (r : Relay σ) (hgood : good r.turn.log) :
    Controller.run forward r.now 1 r.controller (view r.state) =
      (r.turn.controller, view r.turn.state) := by
  unfold Controller.run
  unfold Relay.turn at hgood ⊢
  split
  · rfl
  · rename_i hup
    rw [if_neg hup] at hgood
    cases hwake : r.controller.worker.wake? r.now with
    | none => rfl
    | some woken =>
      obtain ⟨notices, worker, submission⟩ := woken
      rw [hwake] at hgood
      dsimp only at hgood ⊢
      generalize r.taken ++ _ = taken at hgood ⊢
      let woken : Relay σ := { r.withWorker worker with taken }
      have hpassed : good (woken.pass notices).log :=
        h.before (acceptNext_extends submission (woken.pass notices)) hgood
      have hpass :
          Controller.pass forward notices { r.controller with worker } (view r.state) = _ :=
        h.pass woken hpassed
      have haccept := h.acceptNext submission (woken.pass notices) hgood
      have hnow : (woken.pass notices).now = r.now := (pass_alike notices woken).now
      rw [hnow] at haccept
      rw [hpass]
      exact haccept

end Mimics

/-- A board is at the same point as a relay, and its hub is what there is to see of the relay's. -/
structure Shadows {S : Type} (r : Relay σ) (view : Hub σ × σ → S) (b : ControllerInUse S) :
    Prop where
  controller : b.controller = r.controller
  hub : b.hub = view r.state
  now : b.now = r.now

theorem act_extends (event : ControllerStep) (r : Relay σ) : r.log <+: (r.act event).log := by
  cases event with
  | turn => exact turn_extends r
  | _ => exact List.prefix_rfl

/-- A board that takes the same step. -/
theorem Shadows.act {S : Type} {forward : BusFrame → S → Option S} {view : Hub σ × σ → S}
    {good : List RelayEntry → Prop} {b : ControllerInUse S} (h : r.Shadows view b)
    (hmimics : Mimics forward view good) {event : ControllerStep} (hgood : good (r.act event).log) :
    (r.act event).Shadows view (b.step forward event) := by
  obtain ⟨controller, hub, now, calls, submitted, passed, collected, carried⟩ := b
  obtain ⟨hcontroller, hhub, hnow⟩ := h
  dsimp only at hcontroller hhub hnow
  subst hcontroller hhub hnow
  cases event with
  | turn =>
    have hturn := hmimics.turn r hgood
    constructor
    · exact congrArg Prod.fst hturn
    · exact congrArg Prod.snd hturn
    · exact (turn_now r).symm
  | _ => exact ⟨rfl, rfl, rfl⟩

end Relay

/-! The built-in tables bring no worker down. -/

/-- Frames come from boards of eight classes. -/
theorem BusFrame.cls_lt_of_ofRaw? {raw : RawFrame} {f : BusFrame} (h : ofRaw? raw = some f) :
    f.did.cls.toNat < 8 := by
  unfold ofRaw? at h
  split at h
  · cases h
    exact (BusDeviceId.isMade_iff _).mp (.inr ⟨_, rfl⟩)
  · cases h

/-- Whatever becomes of the payload of a board, it comes to an end. -/
theorem Ingestion.run_returns {state : Hub σ × σ} {f : BusFrame}
    (htables : state.1.registry.capability? = Builtin.capability?)
    (hcls : f.did.cls.toNat < 8) :
    ((ofFrame f).run state).1 ≠ .error .abort ∧
      ((ofFrame f).run state).2.1.registry.capability? = Builtin.capability? := by
  constructor
  · intro hdown
    have hfallen := (state.1.receive_abort_iff (.bus f.did) f.payload 0 state.2).mp hdown
    rw [Hub.register_result, Registry.register_abort_iff_unclassed htables] at hfallen
    obtain ⟨did, hmac, hbeyond⟩ := hfallen.beyond
    cases hmac
    exact absurd hcls (Nat.not_lt.mpr hbeyond)
  · exact (state.1.receive_becomes _ _ _ state.2).capability?_eq.trans htables

namespace Relay

variable {r : Relay σ} {notices : List Notice}

/-- The hub has the built-in tables, and no payload has brought the worker down. -/
structure Served (r : Relay σ) : Prop where
  tables : r.state.1.registry.capability? = Builtin.capability?
  returns : ∀ i, .ingested i (.error .abort) ∉ r.log

/-- One more entry. -/
theorem Served.enter (h : r.Served) {next : Relay σ} {e : RelayEntry}
    (htables : next.state.1.registry.capability? = Builtin.capability?)
    (hlog : next.log = r.log ++ [e]) (hreturns : ∀ i, e ≠ .ingested i (.error .abort)) :
    next.Served where
  tables := htables
  returns i hin := by
    rw [hlog] at hin
    rcases List.mem_append.mp hin with hold | hnew
    · exact h.returns i hold
    · exact hreturns i (List.mem_singleton.mp hnew).symm

theorem Served.pass (h : r.Served)
    (hboards : ∀ f, .telemetry f ∈ notices → f.did.cls.toNat < 8) : (r.pass notices).Served := by
  induction notices generalizing r with
  | nil => exact h
  | cons notice rest ih =>
    have hrest : ∀ f, .telemetry f ∈ rest → f.did.cls.toNat < 8 :=
      fun f hin => hboards f (List.mem_cons_of_mem notice hin)
    cases notice with
    | telemetry f =>
      obtain ⟨hreturns, htables⟩ := Ingestion.run_returns h.tables (hboards f List.mem_cons_self)
      cases hrun : (Ingestion.ofFrame f).run r.state with
      | mk result next =>
        rw [hrun] at hreturns htables
        rw [pass_returns hrun hreturns]
        refine ih (h.enter htables rfl ?_) hrest
        rintro i ⟨-, rfl⟩
        exact hreturns rfl
    | completion ticket outcome elapsed => exact ih (h.enter h.tables rfl nofun) hrest
    | lost ticket => exact ih (h.enter h.tables rfl nofun) hrest

theorem Served.turn (h : r.Served) : r.turn.Served := by
  rcases r.turn_cases with hidle | ⟨v, taken, frame, submission, -, hdecoded, hturn⟩
  · rwa [hidle]
  · have hheard : (r.heard v taken frame).Served := by
      obtain ⟨rest, hnotices, hfollow⟩ := v.advance_follow r.now frame
      have hroused : (r.roused v taken frame).Served := ⟨h.tables, h.returns⟩
      refine hroused.pass ?_
      rw [hnotices]
      intro f hin
      rcases List.mem_append.mp hin with htelemetry | hanswer
      · obtain ⟨g, rfl, hcase⟩ := frame_of_mem_telemetryOf htelemetry
        cases hcase
        have hframe : f ∈ taken.filterMap BusFrame.ofRaw? := by
          rw [hdecoded]
          exact List.mem_cons_self
        obtain ⟨raw, -, hraw⟩ := List.mem_filterMap.mp hframe
        exact BusFrame.cls_lt_of_ofRaw? hraw
      · exact absurd hanswer (hfollow.silent f)
    rw [hturn]
    rcases (r.heard v taken frame).acceptNext_cases submission with
      hsame | ⟨worker, notices, -, hquiet, hpass⟩
    · rwa [hsame]
    · have hwoken : ((r.heard v taken frame).withWorker worker).Served :=
        ⟨hheard.tables, hheard.returns⟩
      rw [hpass]
      exact hwoken.pass fun f hin => absurd (.inl rfl) (hquiet _ hin f)

theorem Served.run {steps : List (RelayStep σ)} (h : r.Served)
    (hkept : ∀ change, .meddle change ∈ steps → ∀ state : Hub σ × σ,
      (change state).1.registry.capability? = state.1.registry.capability?) :
    (r.run steps).Served := by
  induction steps generalizing r with
  | nil => exact h
  | cons event rest ih =>
    refine ih (r := r.step event) ?_ fun change hin => hkept change (List.mem_cons_of_mem event hin)
    cases event with
    | meddle change =>
      have htables := (hkept change List.mem_cons_self r.state).trans h.tables
      exact ⟨htables, h.returns⟩
    | board event =>
      cases event with
      | turn => exact h.turn
      | _ => exact ⟨h.tables, h.returns⟩

end Relay

/-! The gateway, with its hub and without. -/

namespace ControllerInUse

/-- A step at a gateway that feeds its hub. -/
def feed (b : ControllerInUse (Hub σ × σ)) : RelayStep σ → ControllerInUse (Hub σ × σ)
  | .board event => b.step Hub.relay event
  | .meddle change => { b with hub := change b.hub }

/-- The same step at a gateway that has no hub. -/
def detached (b : ControllerInUse Unit) : RelayStep σ → ControllerInUse Unit
  | .board event => b.step (fun _ hub => some hub) event
  | .meddle _ => b

end ControllerInUse

namespace Relay

variable {r : Relay σ}

theorem Shadows.run_feed {b : ControllerInUse (Hub σ × σ)} (h : r.Shadows (fun state => state) b)
    (steps : List (RelayStep σ)) :
    (r.run steps).Shadows (fun state => state) (steps.foldl ControllerInUse.feed b) := by
  induction steps generalizing r b with
  | nil => exact h
  | cons event rest ih =>
    cases event with
    | board event => exact ih (h.act mimics_relay trivial)
    | meddle change =>
      refine ih (r := r.step (.meddle change)) ⟨h.controller, ?_, h.now⟩
      exact congrArg change h.hub

theorem run_extends (steps : List (RelayStep σ)) (r : Relay σ) : r.log <+: (r.run steps).log := by
  induction steps generalizing r with
  | nil => exact List.prefix_rfl
  | cons event rest ih =>
    cases event with
    | board event => exact (act_extends event r).trans (ih (r.act event))
    | meddle change => exact ih (r.step (.meddle change))

theorem Shadows.run_detached {b : ControllerInUse Unit} (h : r.Shadows (fun _ => ()) b)
    (steps : List (RelayStep σ)) (hreturns : ∀ i, .ingested i (.error .abort) ∉ (r.run steps).log) :
    (r.run steps).Shadows (fun _ => ()) (steps.foldl ControllerInUse.detached b) := by
  induction steps generalizing r b with
  | nil => exact h
  | cons event rest ih =>
    cases event with
    | board event =>
      have hbefore := mimics_nobody (σ := σ) |>.before (run_extends rest (r.act event)) hreturns
      exact ih (h.act mimics_nobody hbefore) hreturns
    | meddle change => exact ih (r := r.step (.meddle change)) ⟨h.controller, rfl, h.now⟩ hreturns

/-- The relay at a board. -/
def ofBoard (b : ControllerInUse (Hub σ × σ)) : Relay σ := start b.controller b.hub b.now

/-- Whatever comes over the bus, whatever callers do and whatever others do to the hub, the worker
gives the hub the telemetry and nothing else. Its log is what happens at the gateway, and but for a
payload that brings the worker down, what the hub says is of no consequence to the callers. -/
theorem run_faithful {depth : Nat} {config : BusConfig} {state : Hub σ × σ} {now : Instant}
    {b : ControllerInUse (Hub σ × σ)} (hopen : ControllerInUse.open? depth config state now = .ok b)
    (steps : List (RelayStep σ)) :
    let last := (ofBoard b).run steps
    last.Faithful ∧
      last.Shadows (fun state => state) (steps.foldl ControllerInUse.feed b) ∧
      ((∀ i, .ingested i (.error .abort) ∉ last.log) →
        last.Shadows (fun _ => ()) (steps.foldl ControllerInUse.detached { b with hub := () })) ∧
      (state.1.registry.capability? = Builtin.capability? →
        (∀ change, .meddle change ∈ steps → ∀ state : Hub σ × σ,
          (change state).1.registry.capability? = state.1.registry.capability?) →
        ∀ i, .ingested i (.error .abort) ∉ last.log) := by
  unfold ControllerInUse.open? at hopen
  cases hstart : Controller.start (Arbiter.new depth) config now with
  | error e =>
    rw [hstart] at hopen
    cases hopen
  | ok c =>
    rw [hstart] at hopen
    cases hopen
    unfold Controller.start at hstart
    split at hstart
    · cases hstart
    · cases hstart
      refine ⟨Faithful.run ?_ steps, Shadows.run_feed ⟨rfl, rfl, rfl⟩ steps,
        Shadows.run_detached ⟨rfl, rfl, rfl⟩ steps, ?_⟩
      · exact ⟨rfl, rfl, fun _ _ _ _ hsplit => by simp [ofBoard, start] at hsplit, nofun⟩
      · intro htables hkept
        refine (Served.run ?_ hkept).returns
        exact ⟨htables, nofun⟩

/-- A board answers a query, and then, while a thermometer joins, it sends telemetry that is too
short. -/
theorem run_faithful_refused :
    ∃ hub : Hub Unit, Hub.new {} Builtin.capability? 0 = .ok hub ∧
      ∃ b, ControllerInUse.open? 4 {} (hub, ()) 0 = .ok b ∧
        let asks := BusFrame.telemetryQuery ⟨8⟩ .boardControl
        let answer := { asks with direction := .response, payload := [0, 0, 0, 0, 0, 0, 0, 0] }
        let short := { answer with payload := [1] }
        let steps : List (RelayStep Unit) := [.board (.query ⟨8⟩ asks 100), .board .turn,
          .board (.deliver answer.toRaw), .board .turn,
          .meddle fun state => ((state.1.register ⟨.xiaomiMijia, .bus ⟨24⟩⟩).2, state.2),
          .board (.deliver short.toRaw), .board .turn]
        let last := (ofBoard b).run steps
        last.log.map (fun e => e.ingestion?.map Ingestion.bytes) =
            [some answer.payload, none, some short.payload] ∧
          last.Faithful ∧
          last.Shadows (fun state => state) (steps.foldl ControllerInUse.feed b) ∧
          last.Shadows (fun _ => ())
            (steps.foldl ControllerInUse.detached { b with hub := () }) := by
  refine ⟨_, rfl, _, rfl, ?_⟩
  intro asks answer short steps last
  obtain ⟨hfaithful, hfeeds, hdetached, hreturns⟩ := @run_faithful Unit 4 {} _ 0 _ rfl steps
  have hkept : ∀ change, .meddle change ∈ steps → ∀ state : Hub Unit × Unit,
      (change state).1.registry.capability? = state.1.registry.capability? := by
    intro change hin state
    simp only [steps, List.mem_cons, reduceCtorEq, RelayStep.meddle.injEq, false_or, or_false,
      List.not_mem_nil] at hin
    subst hin
    exact (state.1.register_becomes _).capability?_eq
  exact ⟨by decide +kernel, hfaithful, hfeeds, hdetached (hreturns rfl hkept)⟩

end Relay

end HomeGateway
