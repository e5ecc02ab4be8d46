import HomeGateway.Bus.Worker
import HomeGateway.Pool

/-!
Callers of the bus. Each query takes a slot and goes through the bounded submission queue to
the worker; its caller waits for the timeout and a tolerance, and no longer.
-/

namespace HomeGateway

inductive QueryStatus where
  | sent
  | answered
  | answeredWithError
  deriving DecidableEq

structure QueryReply where
  status : QueryStatus
  response : Option BusFrame
  elapsed : Duration

/-- A caller who waits. -/
structure Caller where
  ticket : Nat
  slot : Nat
  timeoutMs : Nat
  deadline : Instant

/-- `ended` has the queries that are over and that nobody asked about yet. A worker that runs
no more takes nothing in, but what it left behind can be looked at. -/
structure Controller (π : Type) where
  config : BusConfig
  pending : Pool
  worker : Worker π
  running : Bool
  callers : List Caller
  nextTicket : Nat
  ended : List (Nat × Except QueryError QueryReply)

/-- What becomes of a frame that is handed to the worker. -/
inductive Delivery where
  | queued
  | full
  | closed
  deriving DecidableEq

namespace Controller

variable {π : Type} [BusProtocol π]

/-- The code for a full submission queue. -/
def noBuffers : Int := -105

def start (protocol : π) (config : BusConfig) (now : Instant) :
    Except ConfigError (Controller π) :=
  match config.check with
  | .error e => .error e
  | .ok () =>
    .ok
      { config
        pending := .new "pending query" config.maxPendingQueries.toNat
        worker := .start protocol now
        running := true
        callers := []
        nextTicket := 0
        ended := [] }

/-- Puts a submission into the queue. -/
def submit (c : Controller π) (submission : Submission) : Except QueryError (Controller π) :=
  let w := c.worker
  if !c.running then .error .workerStopped
  else if c.config.submissionDepth.toNat ≤ w.submissions.length then
    .error (.submission noBuffers)
  else .ok { c with worker := { w with submissions := w.submissions ++ [submission] } }

def send (c : Controller π) (did : BusDeviceId) (request : BusFrame) :
    Except QueryError Unit × Controller π :=
  match c.submit (.send did request) with
  | .ok c => (.ok (), c)
  | .error e => (.error e, c)

/-- Starts a query; the ticket names it. A caller without time to wait gives up at once. -/
def query (c : Controller π) (did : BusDeviceId) (request : BusFrame) (timeoutMs : Nat)
    (now : Instant) : Except QueryError Nat × Controller π :=
  if c.config.maxQueryTimeoutMs.toNat < timeoutMs then (.error (.invalidTimeout timeoutMs), c)
  else
    match c.pending.acquire with
    | .error _ => (.error .noMemory, c)
    | .ok (slot, pending) =>
      let ticket := c.nextTicket
      let timeout := Duration.ofMillis timeoutMs
      match c.submit (.query ticket did request timeout now) with
      | .error e => (.error e, c)
      | .ok c =>
        let c := { c with nextTicket := ticket + 1 }
        let patience := timeout + c.config.tolerance
        if patience = 0 then (.error (.unresponsive timeoutMs), c)
        else
          (.ok ticket,
            { c with
              pending
              callers := c.callers ++ [{ ticket, slot, timeoutMs, deadline := now + patience }] })

/-- Hands a received frame to the worker. -/
def deliver (c : Controller π) (frame : RawFrame) : Delivery × Controller π :=
  let w := c.worker
  if !c.running then (.closed, c)
  else if c.config.frameDepth.toNat ≤ w.frames.length then (.full, c)
  else (.queued, { c with worker := { w with frames := w.frames ++ [frame] } })

/-- Ends the query of a ticket, if its caller still waits, and frees the slot. -/
def finish (c : Controller π) (ticket : Nat) (result : Caller → Except QueryError QueryReply) :
    Controller π :=
  match c.callers.find? fun caller => caller.ticket = ticket with
  | none => c
  | some caller =>
    { c with
      pending := c.pending.release caller.slot
      callers := c.callers.filter fun caller => caller.ticket ≠ ticket
      ended := c.ended ++ [(ticket, result caller)] }

/-- What a caller makes of an outcome. -/
def replyOf (outcome : Outcome) (elapsed : Duration) (caller : Caller) :
    Except QueryError QueryReply :=
  match outcome with
  | .sent => .ok { status := .sent, response := none, elapsed }
  | .completed .answered response => .ok { status := .answered, response, elapsed }
  | .completed .answeredWithError response =>
    .ok { status := .answeredWithError, response, elapsed }
  | .completed .timedOut _ => .error (.timedOut caller.timeoutMs)
  | .completed .cancelled _ => .error .cancelled
  | .rejected code => .error (.submission code)

/-- The worker is gone; nobody who still waits will hear of his query. -/
def stop (c : Controller π) : Controller π :=
  (c.callers.map Caller.ticket).foldl
    (fun c ticket => c.finish ticket fun _ => .error .workerStopped) { c with running := false }

/-- Passes notices on, telemetry to `forward`, which may bring the worker down. -/
def pass {S : Type} (forward : BusFrame → S → Option S) :
    List Notice → Controller π → S → Controller π × S
  | [], c, s => (c, s)
  | .telemetry frame :: rest, c, s =>
    match forward frame s with
    | some s => pass forward rest c s
    | none => (c.stop, s)
  | .completion ticket outcome elapsed :: rest, c, s =>
    pass forward rest (c.finish ticket (replyOf outcome elapsed)) s
  | .lost ticket :: rest, c, s =>
    pass forward rest (c.finish ticket fun _ => .error .workerStopped) s

/-- Lets the worker accept a submission that woke it, if it still runs. -/
def acceptNext {S : Type} (forward : BusFrame → S → Option S) (now : Instant)
    (submission : Option Submission) (c : Controller π) (s : S) : Controller π × S :=
  match submission with
  | none => (c, s)
  | some submission =>
    if !c.running then (c, s)
    else
      let (notices, worker, survives) := c.worker.accept now submission
      let (c, s) := pass forward notices { c with worker } s
      (if survives then c else c.stop, s)

/-- Runs the worker for at most `turns` turns. -/
def run {S : Type} (forward : BusFrame → S → Option S) (now : Instant) :
    Nat → Controller π → S → Controller π × S
  | 0, c, s => (c, s)
  | turns + 1, c, s =>
    if !c.running then (c, s)
    else
      match c.worker.wake? now with
      | none => (c, s)
      | some (notices, worker, submission) =>
        let (c, s) := pass forward notices { c with worker } s
        let (c, s) := acceptNext forward now submission c s
        run forward now turns c s

/-- Ends the queries whose callers have waited long enough. -/
def giveUp (now : Instant) (c : Controller π) : Controller π :=
  ((c.callers.filter fun caller => caller.deadline ≤ now).map Caller.ticket).foldl
    (fun c ticket => c.finish ticket fun caller => .error (.unresponsive caller.timeoutMs)) c

/-- Lets everything happen that is due: each frame and each submission takes the worker one
turn, and a deadline one more if there is neither. The worker sets its alarm anew after each
turn, later than any caller did, so that callers whose time is up go first. -/
def settle {S : Type} (forward : BusFrame → S → Option S) (now : Instant) (c : Controller π)
    (s : S) : Controller π × S :=
  let turns := c.worker.frames.length + c.worker.submissions.length + 1
  run forward now turns (c.giveUp now) s

/-- Whether the worker has anything to do. -/
def isWoken (c : Controller π) (now : Instant) : Bool := c.running && c.worker.isWoken now

/-- When something is due next. -/
def nextDue (c : Controller π) : Option Instant :=
  let worker := if c.running then c.worker.deadline else none
  (worker.toList ++ c.callers.map Caller.deadline).min?

/-- The queries that ended since it was last asked. -/
def takeEnded (c : Controller π) : List (Nat × Except QueryError QueryReply) × Controller π :=
  (c.ended, { c with ended := [] })

end Controller

end HomeGateway
