import Mathlib
import HomeGateway.Proofs.Bus.Caller
import HomeGateway.Proofs.Bus.Meter
import HomeGateway.Proofs.Bus.Plain

/-!
A controller that is watched, on a clock that stands still as long as the worker has something to
do and that stops at its alarm. What a turn of the worker does to callers is what it does to the
rows, and each of them is told in time.
-/

namespace HomeGateway

/-- A query that its caller waits for. -/
structure Asked where
  ticket : Nat
  did : BusDeviceId
  request : BusFrame
  timeoutMs : Nat
  time : Instant

namespace Asked

def timeout (q : Asked) : Duration := .ofMillis q.timeoutMs

def due (q : Asked) : Instant := q.time + q.timeout

def submission (q : Asked) : Submission := .query q.ticket q.did q.request q.timeout q.time

theorem time_lt_due {q : Asked} (hwaits : 0 < q.timeoutMs) : q.time < q.due :=
  Nat.lt_add_of_pos_right (Nat.mul_pos hwaits (by decide))

end Asked

/-- How a query ended, and when. -/
structure Ending where
  time : Instant
  ticket : Nat
  result : Except QueryError QueryReply

/-- A controller, what it was asked and what became of it. The queries that it refused to take
are in `refused`. -/
structure Watch (S : Type) where
  controller : Controller Metered
  hub : S
  start : Instant
  now : Instant
  asked : List Asked
  refused : List QueryError
  ended : List Ending

inductive WatchStep where
  | query (did : BusDeviceId) (request : BusFrame) (timeoutMs : Nat)
  | send (did : BusDeviceId) (request : BusFrame)
  | deliver (frame : RawFrame)
  | pass (time : Duration)
  | turn
  | giveUp
  | drain
  | disconnect
  | shutdown

namespace Watch

variable {S : Type}

def open? (depth : Nat) (config : BusConfig) (hub : S) (now : Instant) :
    Except ConfigError (Watch S) :=
  (Controller.start (.new depth) config now).map fun controller =>
    { controller, hub, start := now, now, asked := [], refused := [], ended := [] }

def meter (w : Watch S) : Metered := w.controller.worker.protocol

/-- Time passes while the worker has nothing to do, and no further than to its alarm. -/
def mayPass (w : Watch S) (time : Duration) : Bool :=
  let alarm := if w.controller.running then w.controller.worker.deadline else none
  !w.controller.isWoken w.now && alarm.all fun due => w.now + time ≤ due

def query (w : Watch S) (did : BusDeviceId) (request : BusFrame) (timeoutMs : Nat) : Watch S :=
  match w.controller.query did request timeoutMs w.now with
  | (.ok ticket, controller) =>
    { w with
      controller
      asked := w.asked ++ [{ ticket, did, request, timeoutMs, time := w.now }] }
  | (.error e, controller) => { w with controller, refused := w.refused ++ [e] }

def turn (forward : BusFrame → S → Option S) (w : Watch S) : Watch S :=
  let (controller, hub) := Controller.run forward w.now 1 w.controller w.hub
  { w with controller, hub }

/-- Passes notices on. -/
def notify (forward : BusFrame → S → Option S) (notices : List Notice) (w : Watch S) : Watch S :=
  let (controller, hub) := Controller.pass forward notices w.controller w.hub
  { w with controller, hub }

/-- Lets the worker accept a submission that woke it. -/
def acceptNext (forward : BusFrame → S → Option S) (submission : Option Submission)
    (w : Watch S) : Watch S :=
  let (controller, hub) :=
    Controller.acceptNext forward w.now submission w.controller w.hub
  { w with controller, hub }

/-- The worker was told of the time and of a frame. -/
def advanced (w : Watch S) (v : Worker Metered) (frame : Option BusFrame) : Watch S :=
  { w with controller := { w.controller with worker := (v.advance w.now frame).2 } }

/-- And everybody whom it concerns was told. -/
def processed (forward : BusFrame → S → Option S) (w : Watch S) (v : Worker Metered)
    (frame : Option BusFrame) : Watch S :=
  (w.advanced v frame).notify forward (v.advance w.now frame).1

def onArbiter (w : Watch S) (f : Arbiter → Arbiter) : Watch S :=
  let worker := w.controller.worker
  let protocol := { worker.protocol with arbiter := f worker.protocol.arbiter }
  { w with controller := { w.controller with worker := { worker with protocol } } }

def act (forward : BusFrame → S → Option S) (w : Watch S) : WatchStep → Watch S
  | .query did request timeoutMs => w.query did request timeoutMs
  | .send did request => { w with controller := (w.controller.send did request).2 }
  | .deliver frame => { w with controller := (w.controller.deliver frame).2 }
  | .pass time => if w.mayPass time then { w with now := w.now + time } else w
  | .turn => w.turn forward
  | .giveUp => { w with controller := w.controller.giveUp w.now }
  | .drain => w.onArbiter fun arbiter => arbiter.drain.2
  | .disconnect => w.onArbiter Arbiter.disconnect
  | .shutdown => { w with controller := w.controller.stop }

/-- What is watched is what happens to a controller without a meter. -/
theorem act_plain (forward : BusFrame → S → Option S) (w : Watch S) (event : WatchStep) :
    (w.act forward event).controller.plain =
      let c := w.controller.plain
      match event with
      | .query did request timeoutMs => (c.query did request timeoutMs w.now).2
      | .send did request => (c.send did request).2
      | .deliver frame => (c.deliver frame).2
      | .pass _ => c
      | .turn => (Controller.run forward w.now 1 c w.hub).1
      | .giveUp => c.giveUp w.now
      | .drain => { c with worker := { c.worker with protocol := c.worker.protocol.drain.2 } }
      | .disconnect =>
        { c with worker := { c.worker with protocol := c.worker.protocol.disconnect } }
      | .shutdown => c.stop := by
  cases event with
  | query did request timeoutMs =>
    dsimp only
    rw [Controller.query_plain]
    change (w.query did request timeoutMs).controller.plain = _
    unfold Watch.query
    split <;> rename_i hquery <;> rw [hquery]
  | send did request =>
    dsimp only
    rw [Controller.send_plain]
    rfl
  | deliver frame =>
    dsimp only
    rw [Controller.deliver_plain]
    rfl
  | pass time =>
    unfold Watch.act
    dsimp only
    split <;> rfl
  | turn =>
    dsimp only
    rw [Controller.run_plain]
    rfl
  | giveUp => exact (Controller.giveUp_plain _ _).symm
  | shutdown => exact (Controller.stop_plain _).symm
  | drain | disconnect => rfl

/-- All ends up to now. -/
def endings (w : Watch S) : List Ending :=
  w.ended ++ w.controller.takeEnded.1.map fun (ticket, result) => { time := w.now, ticket, result }

/-- One step, and a look at what ended. -/
def step (forward : BusFrame → S → Option S) (w : Watch S) (event : WatchStep) : Watch S :=
  let w := w.act forward event
  { w with controller := w.controller.takeEnded.2, ended := w.endings }

def run (forward : BusFrame → S → Option S) (steps : List WatchStep) (w : Watch S) : Watch S :=
  steps.foldl (step forward) w

/-- How a query may end: with its answer when the worker deals with that, which is not after it
was due; just when it was due; at once if it need not wait; or with the worker. -/
inductive FairEnd (w : Watch S) (q : Asked) (time : Instant) :
    Except QueryError QueryReply → Prop where
  | answered {elapsed : Duration} {frame : BusFrame} {events : List ProtocolEvent}
    {handle : QueryHandle} (hwaits : 0 < q.timeoutMs) (hsince : q.time ≤ time)
    (huntil : time ≤ q.due)
    (hasked : w.meter.At w.start q.time (.queried q.did q.request q.timeout (.waiting handle)))
    (hcall : w.meter.At w.start time (.processed elapsed (some frame) events))
    (hevent : .completed handle (Arbiter.answerStatus frame) (some frame) ∈ events)
    (hdid : frame.did = q.did) (hanswers : frame.answers q.request = true) :
    FairEnd w q time
      (.ok
        { status := if frame.isError then .answeredWithError else .answered
          response := some frame
          elapsed := time - q.time })
  | timedOut {elapsed : Duration} {frame : Option BusFrame} {events : List ProtocolEvent}
    {handle : QueryHandle} (hwaits : 0 < q.timeoutMs) (hjust : time = q.due)
    (hasked : w.meter.At w.start q.time (.queried q.did q.request q.timeout (.waiting handle)))
    (hcall : w.meter.At w.start time (.processed elapsed frame events))
    (hevent : .completed handle .timedOut none ∈ events) :
    FairEnd w q time (.error (.timedOut q.timeoutMs))
  | sent (hzero : q.timeoutMs = 0) (hjust : time = q.time)
    (hcall : w.meter.At w.start time (.queried q.did q.request q.timeout .sent)) :
    FairEnd w q time (.ok { status := .sent, response := none, elapsed := 0 })
  | refused {code : Int} (hjust : time = q.time)
    (hcall : w.meter.At w.start time (.queried q.did q.request q.timeout (.refused code))) :
    FairEnd w q time (.error (.submission code))
  | stopped (hstopped : w.controller.running = false) : FairEnd w q time (.error .workerStopped)

variable {w next : Watch S} {forward : BusFrame → S → Option S}

/-- An end stays fair. -/
theorem FairEnd.mono {q : Asked} {time : Instant} {result : Except QueryError QueryReply}
    (h : w.FairEnd q time result) (hstart : next.start = w.start)
    (hcalls : w.meter.calls <+: next.meter.calls)
    (hstopped : w.controller.running = false → next.controller.running = false) :
    next.FairEnd q time result := by
  cases h with
  | answered hwaits hsince huntil hasked hcall hevent hdid hanswers =>
    exact .answered hwaits hsince huntil (hstart ▸ hasked.mono hcalls)
      (hstart ▸ hcall.mono hcalls) hevent hdid hanswers
  | timedOut hwaits hjust hasked hcall hevent =>
    exact .timedOut hwaits hjust (hstart ▸ hasked.mono hcalls) (hstart ▸ hcall.mono hcalls) hevent
  | sent hzero hjust hcall => exact .sent hzero hjust (hstart ▸ hcall.mono hcalls)
  | refused hjust hcall => exact .refused hjust (hstart ▸ hcall.mono hcalls)
  | stopped hdown => exact .stopped (hstopped hdown)

theorem mem_endings {e : Ending} :
    e ∈ w.endings ↔ e ∈ w.ended ∨ e.time = w.now ∧ (e.ticket, e.result) ∈ w.controller.ended := by
  unfold Watch.endings
  rw [List.mem_append, List.mem_map]
  refine or_congr_right ⟨?_, ?_⟩
  · rintro ⟨⟨ticket, result⟩, hin, rfl⟩
    exact ⟨rfl, hin⟩
  · rintro ⟨htime, hin⟩
    exact ⟨(e.ticket, e.result), hin, by rw [← htime]⟩

theorem processed_worker (forward : BusFrame → S → Option S) (w : Watch S) (v : Worker Metered)
    (frame : Option BusFrame) :
    (w.processed forward v frame).controller.worker = (v.advance w.now frame).2 :=
  (Controller.pass_later _ _ _ _).worker

theorem acceptNext_eq {submission : Submission} {notices : List Notice} {worker : Worker Metered}
    (hup : w.controller.running = true)
    (haccept : w.controller.worker.accept w.now submission = (notices, worker, true)) :
    w.acceptNext forward (some submission) =
      Watch.notify forward notices { w with controller := { w.controller with worker } } := by
  simp only [Watch.acceptNext, Controller.acceptNext, hup, haccept, Bool.not_true,
    Bool.false_eq_true, if_false, if_true]
  rfl

theorem acceptNext_meter {q : Asked} (hup : w.controller.running = true) :
    (w.acceptNext forward (some q.submission)).meter =
      (w.meter.query q.did q.request q.timeout).2 := by
  have hprotocol := w.controller.worker.accept_query_protocol w.now q.ticket q.did q.request
    q.timeout q.time
  simp only [Watch.acceptNext, Controller.acceptNext, hup, Bool.not_true, Bool.false_eq_true,
    if_false]
  change (if _ then _ else _ : Controller Metered).worker.protocol = _
  split
  · rw [(Controller.pass_later _ _ _ _).worker]
    exact hprotocol
  · rw [(Controller.stop_later _).worker, (Controller.pass_later _ _ _ _).worker]
    exact hprotocol

/-- Accepting a submission takes no time. -/
theorem acceptNext_rest (forward : BusFrame → S → Option S) (submission : Option Submission)
    (w : Watch S) :
    let next := w.acceptNext forward submission
    next.controller.worker.submissions = w.controller.worker.submissions ∧
      next.controller.worker.last = w.controller.worker.last ∧
        (∃ more, next.meter.calls = w.meter.calls ++ more ∧ more.length ≤ 1) ∧
          (next.controller.running = true → w.controller.running = true) ∧
            ∀ pair ∈ w.controller.ended, pair ∈ next.controller.ended := by
  unfold Watch.acceptNext Controller.acceptNext
  cases submission with
  | none => exact ⟨rfl, rfl, ⟨[], (List.append_nil _).symm, Nat.zero_le 1⟩, id, fun _ => id⟩
  | some submission =>
    dsimp only
    split
    · exact ⟨rfl, rfl, ⟨[], (List.append_nil _).symm, Nat.zero_le 1⟩, id, fun _ => id⟩
    · obtain ⟨hsubmissions, hlast⟩ := w.controller.worker.accept_rest w.now submission
      have hcalls := Metered.accept_calls w.controller.worker w.now submission
      generalize w.controller.worker.accept w.now submission = accepted
        at hsubmissions hlast hcalls ⊢
      obtain ⟨notices, worker, survives⟩ := accepted
      have hpassed := Controller.pass_later forward notices { w.controller with worker } w.hub
      have hlater : Controller.Later { w.controller with worker }
          (if survives then (Controller.pass forward notices { w.controller with worker } w.hub).1
            else (Controller.pass forward notices { w.controller with worker } w.hub).1.stop) := by
        split
        · exact hpassed
        · exact hpassed.trans (Controller.stop_later _)
      simp only [Watch.meter, hlater.worker]
      exact ⟨hsubmissions, hlast, hcalls, hlater.running, hlater.ended⟩

/-- A turn, taken apart. -/
theorem turn_cases (forward : BusFrame → S → Option S) (w : Watch S) :
    (w.turn forward = w ∧ w.controller.isWoken w.now = false) ∨
      (w.controller.running = true ∧ ∃ v frame submission, v.Alike w.controller.worker ∧
        w.controller.worker.submissions = submission.toList ++ v.submissions ∧
          w.turn forward = (w.processed forward v frame).acceptNext forward submission) := by
  by_cases hup : w.controller.running = true
  · cases hwake : w.controller.worker.wake? w.now with
    | none =>
      have hasleep := w.controller.worker.wake?_isSome w.now
      rw [hwake] at hasleep
      refine .inl ⟨?_, by simp [Controller.isWoken, ← hasleep]⟩
      simp [Watch.turn, Controller.run, hwake]
    | some woken =>
      obtain ⟨notices, next, submission⟩ := woken
      obtain ⟨v, frame, halike, hqueue, hadvance⟩ :=
        Worker.wake?_advance hwake
      refine .inr ⟨hup, v, frame, submission, halike, hqueue, ?_⟩
      unfold Watch.turn Controller.run
      rw [if_neg (by simp [hup]), hwake]
      unfold Watch.processed Watch.notify Watch.advanced Watch.acceptNext
      rw [hadvance]
      rfl
  · exact .inl ⟨by simp [Watch.turn, Controller.run, hup], by simp [Controller.isWoken, hup]⟩

end Watch

end HomeGateway
