import Mathlib
import HomeGateway.Proofs.Bus.Turn

/-!
A protocol with a meter on it. The meter writes down what the protocol is asked and how much
time it is told of, and changes nothing else.
-/

namespace HomeGateway

/-- What a protocol was asked, and what it said. -/
inductive ProtocolCall where
  | queried (did : BusDeviceId) (request : BusFrame) (timeout : Duration) (start : QueryStart)
  | processed (elapsed : Duration) (frame : Option BusFrame) (events : List ProtocolEvent)

namespace ProtocolCall

/-- The time that it was told of. -/
def elapsed : ProtocolCall → Duration
  | .queried .. => 0
  | .processed elapsed _ _ => elapsed

/-- The handles that it ended. -/
def ends : ProtocolCall → List QueryHandle
  | .queried .. => []
  | .processed _ _ events => events.filterMap ProtocolEvent.ends?

/-- Whether it gave out a handle. -/
def isWaiting : ProtocolCall → Bool
  | .queried _ _ _ (.waiting _) => true
  | _ => false

theorem ends_of_isWaiting {call : ProtocolCall} (h : call.isWaiting = true) : call.ends = [] := by
  cases call with
  | queried did request timeout start => rfl
  | processed elapsed frame events => cases h

/-- All the time that it was told of. -/
def total (calls : List ProtocolCall) : Duration := (calls.map elapsed).sum

theorem total_append (first second : List ProtocolCall) :
    total (first ++ second) = total first + total second := by
  unfold total
  rw [List.map_append, List.sum_append]

end ProtocolCall

/-- The field-bus protocol under a meter. -/
structure Metered where
  arbiter : Arbiter
  calls : List ProtocolCall

namespace Metered

def new (depth : Nat) : Metered := { arbiter := .new depth, calls := [] }

def query (m : Metered) (did : BusDeviceId) (request : BusFrame) (timeout : Duration) :
    QueryStart × Metered :=
  let (start, arbiter) := m.arbiter.query did request timeout
  (start, { arbiter, calls := m.calls ++ [.queried did request timeout start] })

def send (m : Metered) (did : BusDeviceId) (request : BusFrame) : Except Int Unit × Metered :=
  let (result, arbiter) := m.arbiter.send did request
  (result, { m with arbiter })

def process (m : Metered) (elapsed : Duration) (frame : Option BusFrame) :
    List ProtocolEvent × Metered :=
  let (events, arbiter) := m.arbiter.process elapsed frame
  (events, { arbiter, calls := m.calls ++ [.processed elapsed frame events] })

def nextTimeout (m : Metered) : Option Duration := m.arbiter.nextTimeout

instance : BusProtocol Metered := { query, send, process, nextTimeout }

instance : Arbitrated Metered where
  arbiter := Metered.arbiter
  query_eq _ _ _ _ := rfl
  send_eq _ _ _ := rfl
  process_eq _ _ _ := rfl
  nextTimeout_eq _ := rfl

/-- Accepting a submission calls the protocol once, if at all. -/
theorem accept_calls (w : Worker Metered) (now : Instant) (submission : Submission) :
    ∃ more, (w.accept now submission).2.1.protocol.calls = w.protocol.calls ++ more ∧
      more.length ≤ 1 := by
  cases submission with
  | send did request => exact ⟨[], (List.append_nil _).symm, Nat.zero_le 1⟩
  | query ticket did request timeout submitted =>
    rw [w.accept_query_protocol]
    exact ⟨_, rfl, Nat.le_refl 1⟩

/-- When a call took place, `start` being the time of the first. -/
def At (m : Metered) (start time : Instant) (call : ProtocolCall) : Prop :=
  ∃ before after, m.calls = before ++ call :: after ∧
    start + ProtocolCall.total (before ++ [call]) = time

/-- No query waits while so many later ones come to wait that handles start again with its own. -/
def Unlapped (m : Metered) : Prop :=
  ∀ before did request timeout handle after,
    m.calls = before ++ .queried did request timeout (.waiting handle) :: after →
      handle ∉ after.flatMap ProtocolCall.ends →
        after.countP ProtocolCall.isWaiting < 0xFFFFFFFF

/-- A handle was given out in its turn, and its query did not end since. -/
def Named (m : Metered) (handle : QueryHandle) : Prop :=
  ∃ before did request timeout after,
    m.calls = before ++ .queried did request timeout (.waiting handle) :: after ∧
      handle = handleOf (before.countP ProtocolCall.isWaiting) ∧
        handle ∉ after.flatMap ProtocolCall.ends

variable {m next : Metered} {handle : QueryHandle} {call : ProtocolCall}

theorem At.mono {start time : Instant} (h : m.At start time call)
    (hcalls : m.calls <+: next.calls) : next.At start time call := by
  obtain ⟨before, after, hsplit, htime⟩ := h
  obtain ⟨more, hmore⟩ := hcalls
  exact ⟨before, after ++ more,
    by rw [← hmore, hsplit, List.append_assoc, List.cons_append], htime⟩

/-- The call that was made last. -/
theorem At.last {start time : Instant} (hcalls : next.calls = m.calls ++ [call])
    (htime : start + ProtocolCall.total next.calls = time) : next.At start time call :=
  ⟨m.calls, [], hcalls, by rw [← hcalls, htime]⟩

theorem Named.kept {more : List ProtocolCall} (h : m.Named handle)
    (hcalls : next.calls = m.calls ++ more) (hends : handle ∉ more.flatMap ProtocolCall.ends) :
    next.Named handle := by
  obtain ⟨before, did, request, timeout, after, hsplit, hname, hopen⟩ := h
  refine ⟨before, did, request, timeout, after ++ more, ?_, hname, ?_⟩
  · rw [hcalls, hsplit, List.append_assoc, List.cons_append]
  · rw [List.flatMap_append, List.mem_append, not_or]
    exact ⟨hopen, hends⟩

theorem Named.new {did : BusDeviceId} {request : BusFrame} {timeout : Duration}
    (hcalls : next.calls = m.calls ++ [.queried did request timeout (.waiting handle)])
    (hname : handle = handleOf (m.calls.countP ProtocolCall.isWaiting)) : next.Named handle :=
  ⟨m.calls, did, request, timeout, [], hcalls, hname, by simp⟩

/-- As long as no query is lapped, the next handle is nobody's. -/
theorem Named.ne_next (h : m.Named handle) (hcalls : next.calls = m.calls ++ [call])
    (hwaiting : call.isWaiting = true) (hunlapped : next.Unlapped) :
    handle ≠ handleOf (m.calls.countP ProtocolCall.isWaiting) := by
  obtain ⟨before, did, request, timeout, after, hsplit, hname, hopen⟩ := h
  have hround := hunlapped before did request timeout handle (after ++ [call])
    (by rw [hcalls, hsplit, List.append_assoc, List.cons_append])
    (by simpa [ProtocolCall.ends_of_isWaiting hwaiting] using hopen)
  have hcount : m.calls.countP ProtocolCall.isWaiting =
      before.countP ProtocolCall.isWaiting + (after.countP ProtocolCall.isWaiting + 1) := by
    rw [hsplit, List.countP_append, List.countP_cons_of_pos rfl]
  rw [List.countP_append, List.countP_singleton, if_pos hwaiting] at hround
  rw [hname]
  exact handleOf_ne (by omega) (by omega)

/-- It takes very many calls to lap a query. -/
theorem unlapped_of_length (hshort : m.calls.countP ProtocolCall.isWaiting < 0xFFFFFFFF) :
    m.Unlapped := by
  intro before did request timeout handle after hsplit _
  have hcount : m.calls.countP ProtocolCall.isWaiting =
      before.countP ProtocolCall.isWaiting + (after.countP ProtocolCall.isWaiting + 1) := by
    rw [hsplit, List.countP_append, List.countP_cons_of_pos rfl]
  omega

end Metered

end HomeGateway
