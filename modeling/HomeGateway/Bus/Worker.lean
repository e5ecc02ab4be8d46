import HomeGateway.Bus.Protocol

/-!
The bus worker, the only one to touch the protocol. It is woken by a frame, by a submission
or by a deadline, in this order of precedence, and whatever wakes it, the protocol is told
of the time gone by before anything else happens.
-/

namespace HomeGateway

/-- A point in time, in nanoseconds since the start. -/
abbrev Instant := Nat

/-- What callers hand to the worker. A ticket names the caller who waits. -/
inductive Submission where
  | query (ticket : Nat) (did : BusDeviceId) (request : BusFrame) (timeout : Duration)
      (submitted : Instant)
  | send (did : BusDeviceId) (request : BusFrame)

/-- A caller whose query waits for its answer. -/
structure Parked where
  handle : QueryHandle
  ticket : Nat
  submitted : Instant

inductive Outcome where
  | sent
  | completed (status : CompletionStatus) (response : Option BusFrame)
  | rejected (code : Int)

/-- What the worker gives out: telemetry for the hub, the end of a query with the time it
took, or a caller who will not hear of his query again. -/
inductive Notice where
  | telemetry (frame : BusFrame)
  | completion (ticket : Nat) (outcome : Outcome) (elapsed : Duration)
  | lost (ticket : Nat)

structure Worker (π : Type) where
  protocol : π
  frames : List RawFrame
  submissions : List Submission
  parked : List Parked
  /-- When the protocol was last told the time. -/
  last : Instant

namespace Worker

variable {π : Type} [BusProtocol π]

def start (protocol : π) (now : Instant) : Worker π :=
  { protocol, frames := [], submissions := [], parked := [], last := now }

/-- Telemetry in a response goes to the hub before the caller hears of it. -/
def telemetryOf : Option BusFrame → List Notice
  | some frame => if frame.isBoardTelemetry then [.telemetry frame] else []
  | none => []

/-- Deals with one report of the protocol. A completion that nobody waits for is ignored. -/
def handle (parked : List Parked) (now : Instant) : ProtocolEvent → List Notice × List Parked
  | .unsolicited frame => (telemetryOf (some frame), parked)
  | .completed handle status response =>
    match parked.find? fun p => p.handle = handle with
    | some p =>
      (telemetryOf response ++
          [.completion p.ticket (.completed status response) (now - p.submitted)],
        parked.filter fun p => p.handle ≠ handle)
    | none => (telemetryOf response, parked)

def handleAll (now : Instant) : List ProtocolEvent → List Parked → List Notice × List Parked
  | [], parked => ([], parked)
  | event :: rest, parked =>
    let (notices, parked) := handle parked now event
    let (more, parked) := handleAll now rest parked
    (notices ++ more, parked)

/-- Tells the protocol the time, and of a frame if there is one. -/
def advance (w : Worker π) (now : Instant) (frame : Option BusFrame) : List Notice × Worker π :=
  let (events, protocol) := BusProtocol.process w.protocol (now - w.last) frame
  let (notices, parked) := handleAll now events w.parked
  (notices, { w with protocol, parked, last := now })

/-- Parks a caller. A handle that is given out again takes the place of the earlier one. -/
def park (p : Parked) (parked : List Parked) : List Notice × List Parked :=
  ((parked.filter fun q => q.handle = p.handle).map fun q => .lost q.ticket,
    parked.filter (fun q => q.handle ≠ p.handle) ++ [p])

/-- Hands a submission to the protocol. The answer says whether the worker survives it. -/
def accept (w : Worker π) (now : Instant) : Submission → List Notice × Worker π × Bool
  | .send did request =>
    let (_, protocol) := BusProtocol.send w.protocol did request
    ([], { w with protocol }, true)
  | .query ticket did request timeout submitted =>
    match BusProtocol.query w.protocol did request timeout with
    | (.waiting handle, protocol) =>
      let (notices, parked) := park { handle, ticket, submitted } w.parked
      (notices, { w with protocol, parked }, true)
    | (.sent, protocol) =>
      ([.completion ticket .sent (now - submitted)], { w with protocol }, true)
    | (.refused code, protocol) =>
      ([.completion ticket (.rejected code) (now - submitted)], { w with protocol }, true)
    | (.abort, protocol) => ([], { w with protocol }, false)

/-- When the worker wakes by itself. -/
def deadline (w : Worker π) : Option Instant :=
  (BusProtocol.nextTimeout w.protocol).map fun d => w.last + d

def isWoken (w : Worker π) (now : Instant) : Bool :=
  !w.frames.isEmpty || !w.submissions.isEmpty || w.deadline.any fun due => due ≤ now

/-- What wakes the worker, if anything does: it has advanced the protocol, and a submission
that woke it is still to be accepted. -/
def wake? (w : Worker π) (now : Instant) : Option (List Notice × Worker π × Option Submission) :=
  match w.frames, w.submissions with
  | raw :: rest, _ =>
    let (notices, w) := { w with frames := rest }.advance now (BusFrame.ofRaw? raw)
    some (notices, w, none)
  | [], submission :: rest =>
    let (notices, w) := { w with submissions := rest }.advance now none
    some (notices, w, some submission)
  | [], [] =>
    if w.deadline.any fun due => due ≤ now then
      let (notices, w) := w.advance now none
      some (notices, w, none)
    else none

end Worker

end HomeGateway
