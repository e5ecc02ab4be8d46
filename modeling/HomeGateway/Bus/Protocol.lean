import HomeGateway.Bus.Frame
import HomeGateway.Config

/-!
What the bus worker needs of a protocol: a state that takes queries and sends, and that is
told of frames and of passing time.
-/

namespace HomeGateway

/-- Names a query that waits for an answer. -/
abbrev QueryHandle := UInt32

inductive CompletionStatus where
  | answered
  | answeredWithError
  | timedOut
  | cancelled
  deriving DecidableEq

/-- What a protocol reports. -/
inductive ProtocolEvent where
  | completed (handle : QueryHandle) (status : CompletionStatus) (response : Option BusFrame)
  | unsolicited (frame : BusFrame)
  deriving DecidableEq

/-- What becomes of a query at once: it waits, or it was sent and needs no answer, or it was
refused with a negative code, or it brings the worker down. -/
inductive QueryStart where
  | waiting (handle : QueryHandle)
  | sent
  | refused (code : Int)
  | abort
  deriving DecidableEq

class BusProtocol (π : Type) where
  query : π → BusDeviceId → BusFrame → Duration → QueryStart × π
  send : π → BusDeviceId → BusFrame → Except Int Unit × π
  /-- Lets time pass and takes in a frame, if there is one. -/
  process : π → Duration → Option BusFrame → List ProtocolEvent × π
  /-- The time until something is due. -/
  nextTimeout : π → Option Duration

end HomeGateway
