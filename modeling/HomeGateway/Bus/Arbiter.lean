import HomeGateway.Bus.Protocol

/-!
The field-bus protocol. Requests go out through a bounded queue; an answer belongs to the
oldest query that it answers; a query whose time has run out is reported, after the answer
that came with it.
-/

namespace HomeGateway

/-- Frames on their way to the bus driver, who may have gone. -/
structure TransmitQueue where
  depth : Nat
  frames : List RawFrame
  isOpen : Bool

def TransmitQueue.push? (q : TransmitQueue) (frame : RawFrame) : Option TransmitQueue :=
  if q.isOpen && q.frames.length < q.depth then some { q with frames := q.frames ++ [frame] }
  else none

structure Outstanding where
  handle : QueryHandle
  did : BusDeviceId
  request : BusFrame
  remaining : Duration
  deriving DecidableEq

/-- `outstanding` is in the order of the queries. -/
structure Arbiter where
  transmit : TransmitQueue
  outstanding : List Outstanding
  nextHandle : QueryHandle

namespace Arbiter

/-- A request that is no query to the given device. -/
def invalidRequest : Int := -22

/-- No room in the transmit queue, or nobody at its other end. -/
def noBuffers : Int := -105

def new (depth : Nat) : Arbiter :=
  { transmit := { depth, frames := [], isOpen := true }, outstanding := [], nextHandle := 1 }

/-- Handles start again at 1 when they have run through all words. -/
def handleAfter (handle : QueryHandle) : QueryHandle :=
  if handle = 0xFFFFFFFF then 1 else handle + 1

def send (a : Arbiter) (did : BusDeviceId) (request : BusFrame) : Except Int Unit × Arbiter :=
  if request.did ≠ did ∨ request.isResponse then (.error invalidRequest, a)
  else
    match a.transmit.push? request.toRaw with
    | some transmit => (.ok (), { a with transmit })
    | none => (.error noBuffers, a)

/-- A query without a timeout is only sent. -/
def query (a : Arbiter) (did : BusDeviceId) (request : BusFrame) (timeout : Duration) :
    QueryStart × Arbiter :=
  match a.send did request with
  | (.error code, a) => (.refused code, a)
  | (.ok (), a) =>
    if timeout = 0 then (.sent, a)
    else
      (.waiting a.nextHandle,
        { a with
          outstanding := a.outstanding ++
            [{ handle := a.nextHandle, did, request, remaining := timeout }]
          nextHandle := handleAfter a.nextHandle })

/-- The first query that a frame answers, and the others. -/
def takeAnswered (frame : BusFrame) : List Outstanding → Option (Outstanding × List Outstanding)
  | [] => none
  | q :: rest =>
    if q.did = frame.did ∧ frame.answers q.request then some (q, rest)
    else (takeAnswered frame rest).map fun (found, rest) => (found, q :: rest)

def answerStatus (frame : BusFrame) : CompletionStatus :=
  if frame.isError then .answeredWithError else .answered

/-- What a frame does: a response ends a query or stands alone, a query does nothing. -/
def resolve (frame : BusFrame) (outstanding : List Outstanding) :
    List ProtocolEvent × List Outstanding :=
  if frame.isResponse then
    match takeAnswered frame outstanding with
    | some (q, rest) => ([.completed q.handle (answerStatus frame) (some frame)], rest)
    | none => ([.unsolicited frame], outstanding)
  else ([], outstanding)

def age (elapsed : Duration) (q : Outstanding) : Outstanding :=
  { q with remaining := q.remaining - elapsed }

/-- What passing time does: it ends the queries that have no time left. -/
def expire (elapsed : Duration) (outstanding : List Outstanding) :
    List ProtocolEvent × List Outstanding :=
  let aged := outstanding.map (age elapsed)
  ((aged.filter fun q => q.remaining = 0).map fun q => .completed q.handle .timedOut none,
    aged.filter fun q => q.remaining ≠ 0)

def process (a : Arbiter) (elapsed : Duration) (frame : Option BusFrame) :
    List ProtocolEvent × Arbiter :=
  let (answered, outstanding) :=
    match frame with
    | some frame => resolve frame a.outstanding
    | none => ([], a.outstanding)
  let (expired, outstanding) := expire elapsed outstanding
  (answered ++ expired, { a with outstanding })

def nextTimeout (a : Arbiter) : Option Duration :=
  (a.outstanding.map Outstanding.remaining).min?

/-- The frames under way, taken by the driver. -/
def drain (a : Arbiter) : List RawFrame × Arbiter :=
  (a.transmit.frames, { a with transmit := { a.transmit with frames := [] } })

/-- The driver goes away, with the frames under way. -/
def disconnect (a : Arbiter) : Arbiter :=
  { a with transmit := { a.transmit with frames := [], isOpen := false } }

instance : BusProtocol Arbiter := { query, send, process, nextTimeout }

end Arbiter

end HomeGateway
