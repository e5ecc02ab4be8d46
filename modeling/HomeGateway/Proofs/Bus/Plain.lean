import Mathlib
import HomeGateway.Proofs.Bus.Caller
import HomeGateway.Proofs.Bus.Row

/-!
Controllers do not notice what their protocol is wrapped in: forgetting all of it but the arbiter
and doing something comes to the same as doing it and forgetting then.
-/

namespace HomeGateway

variable {π : Type} [Arbitrated π] {S : Type}

/-- The worker, with the arbiter alone for a protocol. -/
def Worker.plain (w : Worker π) : Worker Arbiter :=
  { w with protocol := Arbitrated.arbiter w.protocol }

def Controller.plain (c : Controller π) : Controller Arbiter :=
  { c with worker := c.worker.plain }

namespace Worker

theorem advance_plain (w : Worker π) (now : Instant) (frame : Option BusFrame) :
    w.plain.advance now frame = ((w.advance now frame).1, (w.advance now frame).2.plain) := by
  have hprocess := Arbitrated.process_eq w.protocol (now - w.last) frame
  change BusProtocol.process (Arbitrated.arbiter w.protocol) (now - w.last) frame = _ at hprocess
  unfold Worker.advance Worker.plain
  simp only [hprocess]

theorem deadline_plain (w : Worker π) : w.plain.deadline = w.deadline := by
  have hnext := Arbitrated.nextTimeout_eq w.protocol
  change BusProtocol.nextTimeout (Arbitrated.arbiter w.protocol) = _ at hnext
  unfold Worker.deadline Worker.plain
  rw [hnext]

theorem wake?_plain (w : Worker π) (now : Instant) :
    w.plain.wake? now = (w.wake? now).map fun (notices, next, submission) =>
      (notices, next.plain, submission) := by
  have hframes : w.plain.frames = w.frames := rfl
  have hsubmissions : w.plain.submissions = w.submissions := rfl
  unfold Worker.wake?
  rw [hframes, hsubmissions, deadline_plain]
  cases w.frames with
  | cons raw rest =>
    have hadvance := advance_plain { w with frames := rest } now (BusFrame.ofRaw? raw)
    exact congrArg (fun answer => some (answer.1, answer.2, none)) hadvance
  | nil =>
    cases w.submissions with
    | cons submission rest =>
      have hadvance := advance_plain { w with frames := [], submissions := rest } now none
      exact congrArg (fun answer => some (answer.1, answer.2, some submission)) hadvance
    | nil =>
      dsimp only
      split
      · exact congrArg (fun answer => some (answer.1, answer.2, none)) (advance_plain w now none)
      · rfl

theorem accept_plain (w : Worker π) (now : Instant) (submission : Submission) :
    w.plain.accept now submission = ((w.accept now submission).1,
      (w.accept now submission).2.1.plain, (w.accept now submission).2.2) := by
  cases submission with
  | send did request =>
    have hsend := Arbitrated.send_eq w.protocol did request
    change BusProtocol.send (Arbitrated.arbiter w.protocol) did request = _ at hsend
    unfold Worker.accept Worker.plain
    simp only [hsend]
  | query ticket did request timeout submitted =>
    have hquery := Arbitrated.query_eq w.protocol did request timeout
    change BusProtocol.query (Arbitrated.arbiter w.protocol) did request timeout = _ at hquery
    unfold Worker.accept Worker.plain
    dsimp only
    generalize BusProtocol.query w.protocol did request timeout = asked at hquery ⊢
    obtain ⟨start, protocol⟩ := asked
    rw [hquery]
    cases start <;> rfl

end Worker

namespace Controller

theorem finish_plain (c : Controller π) (ticket : Nat)
    (result : Caller → Except QueryError QueryReply) :
    c.plain.finish ticket result = (c.finish ticket result).plain := by
  unfold Controller.finish
  have hcallers : c.plain.callers = c.callers := rfl
  rw [hcallers]
  split <;> rfl

theorem finishAll_plain (c : Controller π) (verdicts : List Verdict) :
    c.plain.finishAll verdicts = (c.finishAll verdicts).plain := by
  induction verdicts generalizing c with
  | nil => rfl
  | cons v rest ih =>
    change (c.plain.finish v.ticket v.result).finishAll rest = _
    rw [finish_plain, ih]
    rfl

theorem stop_plain (c : Controller π) : c.plain.stop = c.stop.plain := by
  rw [stop_eq, stop_eq, ← finishAll_plain]
  rfl

theorem giveUp_plain (c : Controller π) (now : Instant) :
    c.plain.giveUp now = (c.giveUp now).plain := by
  rw [giveUp_eq, giveUp_eq, ← finishAll_plain]
  rfl

theorem pass_plain (forward : BusFrame → S → Option S) (notices : List Notice)
    (c : Controller π) (s : S) :
    pass forward notices c.plain s =
      ((pass forward notices c s).1.plain, (pass forward notices c s).2) := by
  induction notices generalizing c s with
  | nil => rfl
  | cons notice rest ih =>
    cases notice with
    | telemetry frame =>
      unfold Controller.pass
      cases forward frame s with
      | none => simp only [stop_plain]
      | some s => exact ih c s
    | completion ticket outcome elapsed =>
      unfold Controller.pass
      rw [finish_plain]
      exact ih _ s
    | lost ticket =>
      unfold Controller.pass
      rw [finish_plain]
      exact ih _ s

theorem acceptNext_plain (forward : BusFrame → S → Option S) (now : Instant)
    (submission : Option Submission) (c : Controller π) (s : S) :
    acceptNext forward now submission c.plain s =
      ((acceptNext forward now submission c s).1.plain,
        (acceptNext forward now submission c s).2) := by
  cases submission with
  | none => rfl
  | some submission =>
    have hrunning : c.plain.running = c.running := rfl
    have haccept := c.worker.accept_plain now submission
    unfold Controller.acceptNext
    dsimp only
    rw [hrunning]
    split
    · rfl
    · change (let (notices, worker, survives) := c.worker.plain.accept now submission
        let (next, s) := pass forward notices { c.plain with worker } s
        (if survives then next else next.stop, s)) = _
      rw [haccept]
      generalize c.worker.accept now submission = accepted
      obtain ⟨notices, worker, survives⟩ := accepted
      change (let (next, s) := pass forward notices (Controller.plain { c with worker }) s
        (if survives then next else next.stop, s)) = _
      rw [pass_plain]
      cases survives with
      | true => rfl
      | false => exact congrArg (·, _) (stop_plain _)

/-- However long the worker runs. -/
theorem run_plain (forward : BusFrame → S → Option S) (now : Instant) (turns : Nat)
    (c : Controller π) (s : S) :
    run forward now turns c.plain s =
      ((run forward now turns c s).1.plain, (run forward now turns c s).2) := by
  induction turns generalizing c s with
  | zero => rfl
  | succ turns ih =>
    have hrunning : c.plain.running = c.running := rfl
    have hwake := c.worker.wake?_plain now
    unfold Controller.run
    rw [hrunning]
    split
    · rfl
    · change c.plain.worker.wake? now = _ at hwake
      rw [hwake]
      cases c.worker.wake? now with
      | none => rfl
      | some woken =>
        obtain ⟨notices, next, submission⟩ := woken
        change (let (c, s) := pass forward notices (Controller.plain { c with worker := next }) s
          let (c, s) := acceptNext forward now submission c s
          run forward now turns c s) = _
        rw [pass_plain]
        dsimp only
        rw [acceptNext_plain]
        exact ih _ _

theorem submit_plain (c : Controller π) (submission : Submission) :
    c.plain.submit submission = (c.submit submission).map Controller.plain := by
  have hrunning : c.plain.running = c.running := rfl
  have hdepth : c.plain.config = c.config := rfl
  have hqueue : c.plain.worker.submissions = c.worker.submissions := rfl
  unfold Controller.submit
  dsimp only
  rw [hrunning, hdepth, hqueue]
  split
  · rfl
  · split <;> rfl

theorem send_plain (c : Controller π) (did : BusDeviceId) (request : BusFrame) :
    c.plain.send did request = ((c.send did request).1, (c.send did request).2.plain) := by
  unfold Controller.send
  rw [submit_plain]
  cases c.submit (.send did request) <;> rfl

theorem query_plain (c : Controller π) (did : BusDeviceId) (request : BusFrame)
    (timeoutMs : Nat) (now : Instant) :
    c.plain.query did request timeoutMs now =
      ((c.query did request timeoutMs now).1, (c.query did request timeoutMs now).2.plain) := by
  have hconfig : c.plain.config = c.config := rfl
  have hpending : c.plain.pending = c.pending := rfl
  have hticket : c.plain.nextTicket = c.nextTicket := rfl
  unfold Controller.query
  rw [hconfig, hpending, hticket]
  split
  · rfl
  · cases c.pending.acquire with
    | error e => rfl
    | ok acquired =>
      dsimp only
      rw [submit_plain]
      cases c.submit (.query c.nextTicket did request (.ofMillis timeoutMs) now) with
      | error e => rfl
      | ok next =>
        have hnext : next.plain.config = next.config := rfl
        simp only [Except.map]
        rw [hnext]
        split <;> rfl

theorem deliver_plain (c : Controller π) (frame : RawFrame) :
    c.plain.deliver frame = ((c.deliver frame).1, (c.deliver frame).2.plain) := by
  have hrunning : c.plain.running = c.running := rfl
  have hdepth : c.plain.config = c.config := rfl
  have hqueue : c.plain.worker.frames = c.worker.frames := rfl
  unfold Controller.deliver
  dsimp only
  rw [hrunning, hdepth, hqueue]
  split
  · rfl
  · split <;> rfl

end Controller

end HomeGateway
