import Mathlib
import HomeGateway.Proofs.Bus.Caller
import HomeGateway.Proofs.Bus.Turn

/-!
Queries one at a time. A controller that only waits takes in one query more; with the answer, all is
again as it was before, but for the names that were given out. A query that gets the name of an
earlier one takes its place.
-/

namespace HomeGateway

namespace Arbiter

variable {a : Arbiter} {frame : BusFrame}

/-- No time passes and nobody's time is up. -/
theorem expire_nothing {outstanding : List Outstanding}
    (hahead : ∀ o ∈ outstanding, o.remaining ≠ 0) : expire 0 outstanding = ([], outstanding) := by
  have haged : outstanding.map (age 0) = outstanding := List.map_id _
  have hnone : (outstanding.filter fun o => o.remaining = 0) = [] :=
    List.filter_eq_nil_iff.mpr fun o ho => by simpa using hahead o ho
  have hall : (outstanding.filter fun o => o.remaining ≠ 0) = outstanding :=
    List.filter_eq_self.mpr fun o ho => decide_eq_true (hahead o ho)
  simp only [expire, haged, hnone, hall, List.map_nil]

/-- The query that came last has its answer, if no other has. -/
theorem takeAnswered_last {outstanding : List Outstanding} {o : Outstanding}
    (hothers : ∀ o ∈ outstanding, o.did ≠ frame.did) (hdid : o.did = frame.did)
    (hanswers : frame.answers o.request = true) :
    takeAnswered frame (outstanding ++ [o]) = some (o, outstanding) := by
  induction outstanding with
  | nil => exact if_pos ⟨hdid, hanswers⟩
  | cons first rest ih =>
    rw [List.forall_mem_cons] at hothers
    rw [List.cons_append, takeAnswered, if_neg fun h => hothers.1 h.1, ih hothers.2]
    rfl

end Arbiter

namespace Worker

/-- The caller who came last is told, and the others wait on. -/
theorem handle_last {parked : List Parked} {p : Parked}
    (hothers : ∀ q ∈ parked, q.handle ≠ p.handle) (now : Instant) (status : CompletionStatus)
    (response : Option BusFrame) :
    handle (parked ++ [p]) now (.completed p.handle status response) =
      (telemetryOf response ++
        [.completion p.ticket (.completed status response) (now - p.submitted)], parked) := by
  have hnone : parked.find? (fun q => q.handle = p.handle) = none :=
    List.find?_eq_none.mpr fun q hq => by simpa using hothers q hq
  have hall : (parked.filter fun q => q.handle ≠ p.handle) = parked :=
    List.filter_eq_self.mpr fun q hq => decide_eq_true (hothers q hq)
  simp only [handle, List.find?_append, hnone, Option.none_or, List.filter_append, hall]
  simp

end Worker

namespace Controller

variable {S : Type} {c : Controller Arbiter} {now : Instant} {slot : Nat} {free : List Nat}
  {transmit : TransmitQueue} {hub : S} {forward : BusFrame → S → Option S}

/-- The query that came last is over, and the others wait on. -/
theorem finish_last {π : Type} {c : Controller π} {callers : List Caller} (caller : Caller)
    (hcallers : c.callers = callers ++ [caller])
    (hothers : ∀ other ∈ callers, other.ticket ≠ caller.ticket)
    (result : Caller → Except QueryError QueryReply) :
    c.finish caller.ticket result =
      { c with
        pending := c.pending.release caller.slot
        callers
        ended := c.ended ++ [(caller.ticket, result caller)] } := by
  have hnone : callers.find? (fun other => other.ticket = caller.ticket) = none :=
    List.find?_eq_none.mpr fun other hother => by simpa using hothers other hother
  have hall : (callers.filter fun other => other.ticket ≠ caller.ticket) = callers :=
    List.filter_eq_self.mpr fun other hother => decide_eq_true (hothers other hother)
  simp only [finish, hcallers, List.find?_append, hnone, Option.none_or, List.filter_append, hall]
  simp

/-- A controller that only waits, with room for one query more. -/
structure Rests (c : Controller Arbiter) (now : Instant) (slot : Nat) (free : List Nat) : Prop where
  running : c.running = true
  frames : c.worker.frames = []
  submissions : c.worker.submissions = []
  last : c.worker.last = now
  ahead : ∀ o ∈ c.worker.protocol.outstanding, o.remaining ≠ 0
  free : c.pending.free = slot :: free
  submissionDepth : 0 < c.config.submissionDepth.toNat
  frameDepth : 0 < c.config.frameDepth.toNat

/-- The caller of the next query as the worker would keep him. -/
def nextParked (c : Controller Arbiter) (now : Instant) : Parked :=
  { handle := c.worker.protocol.nextHandle, ticket := c.nextTicket, submitted := now }

def nextCaller (c : Controller Arbiter) (now : Instant) (slot timeoutMs : Nat) : Caller :=
  { ticket := c.nextTicket, slot, timeoutMs
    deadline := now + (Duration.ofMillis timeoutMs + c.config.tolerance) }

/-- One query more is in the submission queue. -/
def submitted (c : Controller Arbiter) (now : Instant) (slot : Nat) (free : List Nat)
    (did : BusDeviceId) (request : BusFrame) (timeoutMs : Nat) : Controller Arbiter :=
  { c with
    pending := { c.pending with free }
    worker :=
      { c.worker with
        submissions := [.query c.nextTicket did request (.ofMillis timeoutMs) now] }
    callers := c.callers ++ [c.nextCaller now slot timeoutMs]
    nextTicket := c.nextTicket + 1 }

/-- One query more waits for its answer. -/
def asking (c : Controller Arbiter) (now : Instant) (slot : Nat) (free : List Nat)
    (did : BusDeviceId) (request : BusFrame) (timeoutMs : Nat) (transmit : TransmitQueue) :
    Controller Arbiter :=
  let a := c.worker.protocol
  { c.submitted now slot free did request timeoutMs with
    worker :=
      { c.worker with
        protocol :=
          { transmit
            outstanding := a.outstanding ++
              [{ handle := a.nextHandle, did, request, remaining := .ofMillis timeoutMs }]
            nextHandle := Arbiter.handleAfter a.nextHandle }
        parked := (Worker.park (c.nextParked now) c.worker.parked).2 } }

/-- The driver has taken all frames. -/
def drained (c : Controller Arbiter) : Controller Arbiter :=
  { c with worker := { c.worker with protocol := c.worker.protocol.drain.2 } }

/-- One frame has come in. -/
def delivered (c : Controller Arbiter) (raw : RawFrame) : Controller Arbiter :=
  { c with worker := { c.worker with frames := [raw] } }

/-- The same controller, with these the next names. -/
def renamed (c : Controller Arbiter) (handle : QueryHandle) (ticket : Nat) : Controller Arbiter :=
  { c with
    worker := { c.worker with protocol := { c.worker.protocol with nextHandle := handle } }
    nextTicket := ticket }

theorem Rests.query_eq (h : c.Rests now slot free) (did : BusDeviceId) (request : BusFrame)
    {timeoutMs : Nat} (hwaits : 0 < timeoutMs)
    (hshort : timeoutMs ≤ c.config.maxQueryTimeoutMs.toNat) :
    c.query did request timeoutMs now =
      (.ok c.nextTicket, c.submitted now slot free did request timeoutMs) := by
  have hpatience : Duration.ofMillis timeoutMs + c.config.tolerance ≠ 0 :=
    Nat.ne_of_gt (Nat.add_pos_left (Nat.mul_pos hwaits (by decide)) _)
  simp only [query, Nat.not_lt.mpr hshort, if_false, Pool.acquire, h.free, submit, h.running,
    h.submissions, List.length_nil, Nat.not_le.mpr h.submissionDepth, Bool.not_true,
    Bool.false_eq_true, hpatience]
  simp [submitted, nextCaller, h.running]

/-- A query comes to wait. Whoever had its handle is told. -/
theorem Rests.run_submitted (h : c.Rests now slot free) (did : BusDeviceId) (request : BusFrame)
    {timeoutMs : Nat} (hwaits : 0 < timeoutMs) (hdid : request.did = did)
    (hquery : request.isResponse = false)
    (hroom : c.worker.protocol.transmit.push? request.toRaw = some transmit) :
    run forward now 1 (c.submitted now slot free did request timeoutMs) hub =
      pass forward (Worker.park (c.nextParked now) c.worker.parked).1
        (c.asking now slot free did request timeoutMs transmit) hub := by
  have htimeout : Duration.ofMillis timeoutMs ≠ 0 := Nat.ne_of_gt (Nat.mul_pos hwaits (by decide))
  have hprocess : BusProtocol.process c.worker.protocol 0 none = ([], c.worker.protocol) := by
    simp [BusProtocol.process, Arbiter.process, Arbiter.expire_nothing h.ahead]
  have hasked : BusProtocol.query c.worker.protocol did request (Duration.ofMillis timeoutMs) =
      (.waiting c.worker.protocol.nextHandle,
        (c.asking now slot free did request timeoutMs transmit).worker.protocol) := by
    simp [BusProtocol.query, Arbiter.query, Arbiter.send, hdid, hquery, hroom, htimeout, asking]
  simp only [submitted, run, Worker.wake?, h.running, h.frames, Bool.not_true, Bool.false_eq_true,
    if_false, Worker.advance, h.last, Nat.sub_self, hprocess, Worker.handleAll, pass, acceptNext,
    Worker.accept, hasked]
  simp only [if_true, asking, submitted, nextParked, h.running, h.frames, h.submissions, h.last]

theorem deliver_eq (c : Controller Arbiter) (hup : c.running = true)
    (hframes : c.worker.frames = []) (hroom : 0 < c.config.frameDepth.toNat) (raw : RawFrame) :
    (c.deliver raw).2 = c.delivered raw := by
  simp [deliver, delivered, hup, hframes, Nat.ne_of_gt hroom]

/-- The answer comes. -/
theorem Rests.run_delivered (h : c.Rests now slot free) (did : BusDeviceId) (request : BusFrame)
    (timeoutMs : Nat) (hhandle : ∀ p ∈ c.worker.parked, p.handle ≠ (c.nextParked now).handle)
    (hticket : ∀ caller ∈ c.callers, caller.ticket ≠ c.nextTicket)
    (hdrained : { transmit with frames := [] } = c.worker.protocol.transmit) {raw : RawFrame}
    {frame : BusFrame} (hframe : BusFrame.ofRaw? raw = some frame)
    (hothers : ∀ o ∈ c.worker.protocol.outstanding, o.did ≠ frame.did) (hdid : did = frame.did)
    (hanswers : frame.answers request = true) (htelemetry : frame.isBoardTelemetry = false) :
    run forward now 1
        ((c.asking now slot free did request timeoutMs transmit).drained.delivered raw) hub =
      ({ c.renamed (Arbiter.handleAfter c.worker.protocol.nextHandle) (c.nextTicket + 1) with
          ended := c.ended ++
            [(c.nextTicket,
              replyOf (.completed (Arbiter.answerStatus frame) (some frame)) 0
                (c.nextCaller now slot timeoutMs))] }, hub) := by
  let a := c.worker.protocol
  let next := { a with nextHandle := Arbiter.handleAfter a.nextHandle }
  let asked := c.asking now slot free did request timeoutMs transmit
  let status := Arbiter.answerStatus frame
  have hprocess : BusProtocol.process asked.worker.protocol.drain.2 0 (some frame) =
      ([.completed a.nextHandle status (some frame)], next) := by
    have hresponse : frame.isResponse = true := by
      simp only [BusFrame.answers, Bool.and_eq_true] at hanswers
      exact hanswers.1.1.1
    have htaken := Arbiter.takeAnswered_last hothers
      (o := { handle := a.nextHandle, did, request, remaining := .ofMillis timeoutMs })
      hdid hanswers
    simp [BusProtocol.process, Arbiter.process, Arbiter.drain, Arbiter.resolve, hresponse, asked,
      asking, a, htaken, Arbiter.expire_nothing h.ahead, hdrained, next, status]
  have hhandled :
      Worker.handle asked.worker.parked now (.completed a.nextHandle status (some frame)) =
        ([.completion c.nextTicket (.completed status (some frame)) 0], c.worker.parked) := by
    have hparked : asked.worker.parked = c.worker.parked ++ [c.nextParked now] := by
      simp [asked, asking, Worker.park_fresh hhandle]
    have hlast := Worker.handle_last hhandle now status (some frame)
    rw [hparked]
    simpa [Worker.telemetryOf, htelemetry, nextParked] using hlast
  have hup : asked.running = true := h.running
  have hsince : now - asked.worker.last = 0 := by
    rw [← h.last]
    exact Nat.sub_self _
  change run forward now 1 (asked.drained.delivered raw) hub = _
  simp only [delivered, drained, run, hup, Worker.wake?, hframe, Worker.advance, hsince,
    Worker.handleAll, hprocess, hhandled, pass, acceptNext, List.append_nil, Bool.not_true,
    Bool.false_eq_true, if_false]
  refine Prod.ext ((finish_last (c.nextCaller now slot timeoutMs) rfl hticket _).trans ?_)
    rfl
  simp [asked, asking, submitted, renamed, next, a, status, nextCaller, Pool.release, h.running,
    h.frames, h.last, ← h.free]

end Controller

end HomeGateway
