import Mathlib
import HomeGateway.Proofs.Bus.Agenda

/-!
The names of queries over whole runs. Handles are given out in turn by one counter, which skips zero
and starts again when it has run through all words, whether or not the queries that had the first
handles still wait. So a handle tells the turn of its query up to whole rounds of the counter, and
the queries that wait are told apart by their handles as long as none of them has waited while the
counter went all the way round.
-/

namespace HomeGateway

namespace Metered

/-- How many handles were given out after that of a query. -/
def later (m : Metered) (r : Row) : Nat := m.admitted.length - (r.ticket + 1)

/-- The counter and all who were named by it are at their turns. -/
structure Numbers (m : Metered) : Prop where
  next : m.arbiter.nextHandle = handleOf m.admitted.length
  named : ∀ r ∈ m.admitted, r.handle = handleOf r.ticket

variable {m next : Metered} {row : Row} {waiting : List Row}

theorem new_numbers (depth : Nat) : (new depth).Numbers where
  next := rfl
  named := by simp [admitted, new, ProtocolCall.admitted, ProtocolCall.rowsFrom]

/-- Whatever names no query and leaves the counter alone. -/
theorem Numbers.congr (h : m.Numbers) (hadmitted : next.admitted = m.admitted)
    (hnext : next.arbiter.nextHandle = m.arbiter.nextHandle) : next.Numbers where
  next := by rw [hnext, hadmitted, h.next]
  named := hadmitted ▸ h.named

/-- A query is named by the counter, which goes on to the next turn. -/
theorem Numbers.admit (h : m.Numbers) (hadmitted : next.admitted = m.admitted ++ [row])
    (hticket : row.ticket = m.admitted.length) (hhandle : row.handle = m.arbiter.nextHandle)
    (hnext : next.arbiter.nextHandle = Arbiter.handleAfter m.arbiter.nextHandle) :
    next.Numbers where
  next := by
    rw [hnext, h.next, handleAfter_handleOf, hadmitted, List.length_append, List.length_singleton]
  named := by
    rw [hadmitted]
    refine List.forall_mem_append.mpr ⟨h.named, List.forall_mem_singleton.mpr ?_⟩
    rw [hhandle, hticket, h.next]

theorem Numbers.query (h : m.Numbers) (did : BusDeviceId) (request : BusFrame)
    (timeout : Duration) : (m.query did request timeout).2.Numbers := by
  have hcalls : (m.query did request timeout).2.calls =
      m.calls ++ [.queried did request timeout (m.arbiter.query did request timeout).1] := rfl
  have hadmitted := admitted_call hcalls
  have hleft : (m.query did request timeout).2.arbiter = (m.arbiter.query did request timeout).2 :=
    rfl
  rcases m.arbiter.query_cases did request timeout with
    ⟨code, hcase⟩ | ⟨transmit, -, hcase⟩ | ⟨transmit, -, hcase⟩
  · rw [hcase] at hadmitted hleft
    exact h.congr (hadmitted.trans (List.append_nil _)) (by rw [hleft])
  · rw [hcase] at hadmitted hleft
    exact h.congr (hadmitted.trans (List.append_nil _)) (by rw [hleft])
  · rw [hcase] at hadmitted hleft
    exact h.admit hadmitted rfl rfl (by rw [hleft])

/-- Only queries are named. -/
theorem Numbers.step (h : m.Numbers) (event : ProtocolStep) : (m.step event).Numbers := by
  cases event with
  | query did request timeout => exact h.query did request timeout
  | send did request =>
    have hrest := congrArg Arbiter.nextHandle (m.arbiter.send_rest did request)
    exact h.congr rfl hrest
  | process elapsed frame =>
    exact h.congr ((admitted_call rfl).trans (List.append_nil _)) rfl
  | drive transmit => exact h.congr rfl rfl

theorem run_numbers (depth : Nat) (steps : List ProtocolStep) :
    (run steps (new depth)).Numbers :=
  run_keeps (fun _ event h => h.step event) (new_numbers depth) steps

/-- A query's ticket is its turn. -/
theorem ticket_of_getElem? {k : Nat} (h : m.admitted[k]? = some row) : row.ticket = k := by
  have hticket : (m.admitted.map Row.ticket)[k]? = some row.ticket := by
    rw [List.getElem?_map, h, Option.map_some]
  rw [admitted, ProtocolCall.admitted_tickets] at hticket
  obtain ⟨hlt, hvalue⟩ := List.getElem?_eq_some_iff.mp hticket
  rw [← hvalue, List.getElem_range]

/-- Queries with one ticket are one query. -/
theorem eq_of_ticket {r s : Row} (hr : r ∈ m.admitted) (hs : s ∈ m.admitted)
    (hticket : r.ticket = s.ticket) : r = s := by
  refine List.inj_on_of_nodup_map ?_ hr hs hticket
  rw [admitted, ProtocolCall.admitted_tickets]
  exact List.nodup_range

/-- No two queries have one handle if the counter has not gone all the way round since the first of
them. -/
theorem Numbers.nodup (h : m.Numbers) (hwaiting : waiting.Sublist m.admitted)
    (hrecent : ∀ r ∈ waiting, m.later r ≤ 0xFFFFFFFE) : (waiting.map Row.handle).Nodup := by
  refine List.Nodup.map_on ?_ ((ProtocolCall.admitted_nodup m.calls).sublist hwaiting)
  intro r hr s hs hhandle
  have hin := hwaiting.subset hr
  have hin' := hwaiting.subset hs
  rw [h.named r hin, h.named s hin', handleOf_eq_iff] at hhandle
  have hr := hrecent r hr
  have hs := hrecent s hs
  have hlt : r.ticket < m.admitted.length := ProtocolCall.ticket_lt hin
  have hlt' : s.ticket < m.admitted.length := ProtocolCall.ticket_lt hin'
  unfold later at hr hs
  -- Both turns are among the last of one round, where no two have the same remainder.
  apply eq_of_ticket hin hin'
  omega

/-- What a handle tells of its query. -/
structure Distinct (m : Metered) : Prop where
  /-- The handles are the words from 1 on, and again from 1. -/
  named : ∀ k r, m.admitted[k]? = some r → r.ticket = k ∧ r.handle.toNat = k % 0xFFFFFFFF + 1
  next : m.arbiter.nextHandle.toNat = m.admitted.length % 0xFFFFFFFF + 1
  nonzero : ∀ r ∈ m.admitted, r.handle ≠ 0
  apart : ∀ r ∈ m.admitted, ∀ s ∈ m.admitted, r.ticket < s.ticket →
    s.ticket - r.ticket < 0xFFFFFFFF → r.handle ≠ s.handle
  /-- The queries that wait are some of those that were named, in the order of their turns. -/
  outstanding : m.arbiter.outstanding = m.agenda.waiting.map (Row.outstanding m.time)
  ordered : m.agenda.waiting.Sublist m.admitted
  /-- They have different handles, unless one of them has waited for a whole round. -/
  recent : (∀ r ∈ m.agenda.waiting, m.later r ≤ 0xFFFFFFFE) →
    (m.arbiter.outstanding.map Outstanding.handle).Nodup

/-- The names of queries from the counter, and of those that wait from the books. -/
theorem Numbers.distinct (h : m.Numbers) {gone : List Row}
    (hparts : m.Parts gone m.agenda.waiting) : m.Distinct where
  named k r hk := by
    have hticket := ticket_of_getElem? hk
    refine ⟨hticket, ?_⟩
    rw [h.named r (List.mem_of_getElem? hk), hticket, toNat_handleOf]
  next := by rw [h.next, toNat_handleOf]
  nonzero r hr := by
    rw [h.named r hr]
    exact handleOf_ne_zero r.ticket
  apart r hr s hs hlt hround := by
    rw [h.named r hr, h.named s hs]
    exact handleOf_ne hlt hround
  outstanding := hparts.outstanding
  ordered := hparts.ordered
  recent hrecent := by
    rw [hparts.outstanding, List.map_map]
    exact h.nodup hparts.ordered hrecent

/-- Whatever the protocol is asked and told, whatever the driver does, and however long it goes on. -/
theorem run_distinct (depth : Nat) (steps : List ProtocolStep) :
    (run steps (new depth)).Distinct := by
  obtain ⟨gone, hparts⟩ := (run_follows depth steps).parts
  exact (run_numbers depth steps).distinct hparts

end Metered

end HomeGateway
