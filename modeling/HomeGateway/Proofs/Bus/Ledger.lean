import Mathlib
import HomeGateway.Proofs.Bus.Meter

/-!
The books of the bus protocol over whole runs. Every query that came to wait is one row; it
waits on, or it came to its end once. A frame ends at most one query, the oldest that it
answers, and is never reported twice.
-/

namespace HomeGateway

/-- The frame that an event carries. -/
def ProtocolEvent.frame? : ProtocolEvent → Option BusFrame
  | .completed _ _ response => response
  | .unsolicited frame => some frame

namespace Arbiter

/-- What a frame comes to while these queries wait: the events, and the queries without the one
that it answers. -/
inductive Resolves (waiting : List Outstanding) :
    Option BusFrame → List ProtocolEvent → List Outstanding → Prop where
  | idle {frame : Option BusFrame} (hidle : ∀ f, frame = some f → f.isResponse = false) :
    Resolves waiting frame [] waiting
  | answer {f : BusFrame} {q : Outstanding} {before after : List Outstanding}
    (hsplit : waiting = before ++ q :: after) (hanswers : f.answers q.request = true)
    (holdest : ∀ p ∈ before, f.answers p.request = false) :
    Resolves waiting (some f)
      [.completed q.handle (if f.isError then .answeredWithError else .answered) (some f)]
      (before ++ after)
  | stray {f : BusFrame} (hresponse : f.isResponse = true)
    (hnone : ∀ q ∈ waiting, f.answers q.request = false) :
    Resolves waiting (some f) [.unsolicited f] waiting

/-- What a frame and passing time do to the queries that wait. -/
structure Processed (waiting : List Outstanding) (elapsed : Duration) (frame : Option BusFrame)
    (events : List ProtocolEvent) (left : List Outstanding) : Prop where
  /-- A response is in one event, and no other frame is in any. -/
  once : events.filterMap ProtocolEvent.frame? = (frame.filter BusFrame.isResponse).toList
  /-- The queries that the frame leaves alone wait on, or run out of time. -/
  split : ∃ answered others, Resolves waiting frame answered others ∧
    events = answered ++ (others.filter fun q => q.remaining ≤ elapsed).map
      (fun q => .completed q.handle .timedOut none) ∧
    left = (others.filter fun q => elapsed < q.remaining).map (age elapsed)

/-- Queries that wait are addressed to their devices. -/
theorem query_addressed {a : Arbiter} {did : BusDeviceId} {request : BusFrame}
    {timeout : Duration} {handle : QueryHandle}
    (h : (a.query did request timeout).1 = .waiting handle) : request.did = did := by
  by_contra hother
  simp [Arbiter.query, Arbiter.send, hother] at h

end Arbiter

namespace Row

variable {rows : List Row} {last : Instant}

theorem answers_eq {r : Row} (hdid : r.request.did = r.did) (f : BusFrame) :
    f.answers r.request = r.answeredBy f := by
  unfold answeredBy BusFrame.answers
  by_cases hsame : f.did = r.request.did
  · simp [hsame, hdid]
  · have hother : ¬r.did = f.did := fun heq => hsame (heq.symm.trans hdid.symm)
    simp [hsame, hother]

/-- A frame finds the oldest row that it answers. -/
theorem answerEvents_resolves (haddressed : ∀ r ∈ rows, r.request.did = r.did)
    (frame : Option BusFrame) :
    Arbiter.Resolves (rows.map (outstanding last)) frame (answerEvents frame rows)
      ((unanswered frame rows).map (outstanding last)) := by
  cases frame with
  | none => exact .idle (by simp)
  | some f =>
    unfold answerEvents unanswered
    dsimp only
    cases hfind : rows.find? (answeredBy f) with
    | some r =>
      obtain ⟨hanswers, before, after, hsplit, hbefore⟩ := List.find?_eq_some_iff_append.mp hfind
      have hin : r ∈ rows := List.mem_of_find?_eq_some hfind
      have hskipped : ∀ p ∈ before, ¬answeredBy f p = true := by
        intro p hp
        simpa using hbefore p hp
      have herase : rows.eraseP (answeredBy f) = before ++ after := by
        rw [hsplit, List.eraseP_append_right _ hskipped, List.eraseP_cons_of_pos hanswers]
      rw [herase, List.map_append]
      refine .answer (q := r.outstanding last) (by simp [hsplit]) ?_ ?_
      · exact (answers_eq (haddressed r hin) f).trans hanswers
      · intro p hp
        obtain ⟨older, holder, rfl⟩ := List.mem_map.mp hp
        have hrow : older ∈ rows := by
          rw [hsplit]
          exact List.mem_append_left _ holder
        exact (answers_eq (haddressed older hrow) f).trans
          (Bool.eq_false_iff.mpr (hskipped older holder))
    | none =>
      have hnone := List.find?_eq_none.mp hfind
      rw [List.eraseP_of_forall_not hnone]
      cases hresponse : f.isResponse with
      | false =>
        refine .idle ?_
        rintro g ⟨rfl⟩
        exact hresponse
      | true =>
        refine .stray hresponse ?_
        intro q hq
        obtain ⟨r, hr, rfl⟩ := List.mem_map.mp hq
        exact (answers_eq (haddressed r hr) f).trans (Bool.eq_false_iff.mpr (hnone r hr))

/-- The frame of a turn is in one event if it is a response. -/
theorem turnEvents_once (now : Instant) (frame : Option BusFrame) (rows : List Row) :
    (Worker.turnEvents now frame rows).filterMap ProtocolEvent.frame? =
      (frame.filter BusFrame.isResponse).toList := by
  have hexpired : ((expired now frame rows).map fun r =>
      (.completed r.handle .timedOut none : ProtocolEvent)).filterMap ProtocolEvent.frame? = [] := by
    simp [ProtocolEvent.frame?]
  rw [Worker.turnEvents, List.filterMap_append, hexpired, List.append_nil]
  cases frame with
  | none => rfl
  | some f =>
    simp only [answerEvents]
    cases hfind : rows.find? (answeredBy f) with
    | some r =>
      have hanswers := List.find?_some hfind
      have hresponse : f.isResponse = true := by
        simp only [answeredBy, BusFrame.answers, Bool.and_eq_true, decide_eq_true_eq] at hanswers
        exact hanswers.2.1.1.1
      simp [ProtocolEvent.frame?, Option.filter, hresponse]
    | none => cases hresponse : f.isResponse <;> simp [ProtocolEvent.frame?, Option.filter, hresponse]

/-- What the protocol does to the queries of some rows. -/
theorem process_processed {a : Arbiter} (hrows : a.outstanding = rows.map (outstanding last))
    (haddressed : ∀ r ∈ rows, r.request.did = r.did) (elapsed : Duration)
    (frame : Option BusFrame) :
    Arbiter.Processed a.outstanding elapsed frame (a.process elapsed frame).1
      (a.process elapsed frame).2.outstanding := by
  have hprocess := process_rows hrows (Nat.le_add_right last elapsed) frame
  rw [Nat.add_sub_cancel_left] at hprocess
  rw [hprocess]
  refine ⟨turnEvents_once (last + elapsed) frame rows, _, _,
    hrows ▸ answerEvents_resolves haddressed frame, ?_, ?_⟩
  · have hexpired (r : Row) :
        (r.outstanding last).remaining ≤ elapsed ↔ r.due ≤ last + elapsed :=
      Nat.sub_le_iff_le_add'
    simp only [expired, List.filter_map, List.map_map, Function.comp_def, hexpired]
    rfl
  · have hleft (r : Row) : elapsed < (r.outstanding last).remaining ↔ last + elapsed < r.due :=
      Nat.lt_sub_iff_add_lt'
    have haged (r : Row) : Arbiter.age elapsed (r.outstanding last) =
        r.outstanding (last + elapsed) := by
      simp only [Arbiter.age, outstanding, Nat.sub_sub]
    simp only [left, List.filter_map, List.map_map, Function.comp_def, haged, hleft]

end Row

/-! Runs. -/

/-- What happens to the protocol. The driver of the bus takes frames out of the transmit queue,
whatever it leaves there. -/
inductive ProtocolStep where
  | query (did : BusDeviceId) (request : BusFrame) (timeout : Duration)
  | send (did : BusDeviceId) (request : BusFrame)
  | process (elapsed : Duration) (frame : Option BusFrame)
  | drive (transmit : TransmitQueue)

namespace ProtocolCall

/-- The row of the query that comes to wait by a call, at a time. -/
def row? (ticket : Nat) (time : Instant) : ProtocolCall → Option Row
  | .queried did request timeout (.waiting handle) =>
    some { ticket, submitted := time, handle, did, request, due := time + timeout }
  | _ => none

/-- The rows of the queries that come to wait by some calls, in order. -/
def rowsFrom (ticket : Nat) (time : Instant) : List ProtocolCall → List Row
  | [] => []
  | call :: rest =>
    let row := call.row? ticket time
    row.toList ++ rowsFrom (ticket + row.toList.length) (time + call.elapsed) rest

/-- All queries that came to wait. -/
def admitted (calls : List ProtocolCall) : List Row := rowsFrom 0 0 calls

/-- The handles of all queries that came to their end. -/
def ended (calls : List ProtocolCall) : List QueryHandle := calls.flatMap ends

theorem rowsFrom_append (ticket : Nat) (time : Instant) (first second : List ProtocolCall) :
    rowsFrom ticket time (first ++ second) = rowsFrom ticket time first ++
      rowsFrom (ticket + (rowsFrom ticket time first).length) (time + total first) second := by
  induction first generalizing ticket time with
  | nil => rfl
  | cons call rest ih =>
    simp only [List.cons_append, rowsFrom, ih, List.append_assoc, List.length_append, total,
      List.map_cons, List.sum_cons]
    simp only [Nat.add_assoc]

theorem admitted_append (calls : List ProtocolCall) (call : ProtocolCall) :
    admitted (calls ++ [call]) =
      admitted calls ++ (call.row? (admitted calls).length (total calls)).toList := by
  simp only [admitted, rowsFrom_append, rowsFrom, List.append_nil, Nat.zero_add]

end ProtocolCall

namespace Metered

def step (m : Metered) : ProtocolStep → Metered
  | .query did request timeout => (m.query did request timeout).2
  | .send did request => (m.send did request).2
  | .process elapsed frame => (m.process elapsed frame).2
  | .drive transmit => { m with arbiter := { m.arbiter with transmit } }

def run (steps : List ProtocolStep) (m : Metered) : Metered := steps.foldl step m

/-- All the time that the protocol was told of. -/
def time (m : Metered) : Instant := ProtocolCall.total m.calls

/-- All queries that came to wait so far. -/
def admitted (m : Metered) : List Row := ProtocolCall.admitted m.calls

/-- The handles of all queries that came to their end so far. -/
def ended (m : Metered) : List QueryHandle := ProtocolCall.ended m.calls

/-- Of all queries, these are gone, and these still wait. -/
structure Parts (m : Metered) (gone waiting : List Row) : Prop where
  all : (gone ++ waiting).Perm m.admitted
  ended : m.ended = gone.map Row.handle
  outstanding : m.arbiter.outstanding = waiting.map (Row.outstanding m.time)
  ordered : waiting.Sublist m.admitted
  ahead : ∀ r ∈ waiting, m.time < r.due
  addressed : ∀ r ∈ waiting, r.request.did = r.did

variable {m next : Metered} {call : ProtocolCall} {gone waiting : List Row}

theorem time_call (hcalls : next.calls = m.calls ++ [call]) :
    next.time = m.time + call.elapsed := by
  simp [time, hcalls, ProtocolCall.total]

theorem admitted_call (hcalls : next.calls = m.calls ++ [call]) :
    next.admitted = m.admitted ++ (call.row? m.admitted.length m.time).toList := by
  rw [admitted, hcalls, ProtocolCall.admitted_append]
  rfl

theorem ended_call (hcalls : next.calls = m.calls ++ [call]) :
    next.ended = m.ended ++ call.ends := by
  simp [ended, hcalls, ProtocolCall.ended]

theorem new_parts (depth : Nat) : (new depth).Parts [] [] where
  all := .refl []
  ended := rfl
  outstanding := rfl
  ordered := .refl []
  ahead := by simp
  addressed := by simp

/-- Whatever adds no query and ends none leaves the books alone. -/
theorem Parts.congr (h : m.Parts gone waiting) (hadmitted : next.admitted = m.admitted)
    (hended : next.ended = m.ended) (htime : next.time = m.time)
    (houtstanding : next.arbiter.outstanding = m.arbiter.outstanding) :
    next.Parts gone waiting where
  all := hadmitted ▸ h.all
  ended := hended.trans h.ended
  outstanding := by
    rw [houtstanding, htime]
    exact h.outstanding
  ordered := hadmitted ▸ h.ordered
  ahead := htime ▸ h.ahead
  addressed := h.addressed

/-- A query that comes to wait is the last row. -/
theorem Parts.admit {row : Row} (h : m.Parts gone waiting)
    (hadmitted : next.admitted = m.admitted ++ [row]) (hended : next.ended = m.ended)
    (htime : next.time = m.time)
    (houtstanding : next.arbiter.outstanding = m.arbiter.outstanding ++ [row.outstanding m.time])
    (hahead : m.time < row.due) (haddressed : row.request.did = row.did) :
    next.Parts gone (waiting ++ [row]) where
  all := by
    rw [hadmitted, ← List.append_assoc]
    exact h.all.append_right [row]
  ended := hended.trans h.ended
  outstanding := by
    rw [houtstanding, htime, h.outstanding, List.map_append, List.map_singleton]
  ordered := by
    rw [hadmitted]
    exact h.ordered.append_right [row]
  ahead := by
    rw [htime]
    exact List.forall_mem_append.mpr ⟨h.ahead, List.forall_mem_singleton.mpr hahead⟩
  addressed := List.forall_mem_append.mpr ⟨h.addressed, List.forall_mem_singleton.mpr haddressed⟩

/-- A query may add its row. -/
theorem Parts.query (h : m.Parts gone waiting) (did : BusDeviceId) (request : BusFrame)
    (timeout : Duration) :
    (m.query did request timeout).2.Parts gone
      (waiting ++ ((ProtocolCall.queried did request timeout
        (m.arbiter.query did request timeout).1).row? m.admitted.length m.time).toList) := by
  have hcalls : (m.query did request timeout).2.calls =
      m.calls ++ [.queried did request timeout (m.arbiter.query did request timeout).1] := rfl
  have hadmitted := admitted_call hcalls
  have hended := (ended_call hcalls).trans (List.append_nil _)
  have htime : (m.query did request timeout).2.time = m.time := time_call hcalls
  have haddressed := @Arbiter.query_addressed m.arbiter did request timeout
  have hleft : (m.query did request timeout).2.arbiter = (m.arbiter.query did request timeout).2 :=
    rfl
  rcases m.arbiter.query_cases did request timeout with
    ⟨code, hcase⟩ | ⟨transmit, hzero, hcase⟩ | ⟨transmit, hpositive, hcase⟩
  · rw [hcase] at hadmitted hleft ⊢
    change (m.query did request timeout).2.Parts gone (waiting ++ [])
    rw [List.append_nil]
    refine h.congr (hadmitted.trans (List.append_nil _)) hended htime ?_
    rw [hleft]
  · rw [hcase] at hadmitted hleft ⊢
    change (m.query did request timeout).2.Parts gone (waiting ++ [])
    rw [List.append_nil]
    refine h.congr (hadmitted.trans (List.append_nil _)) hended htime ?_
    rw [hleft]
  · rw [hcase] at hadmitted hleft haddressed ⊢
    refine h.admit hadmitted hended htime ?_ ?_ (haddressed rfl)
    · rw [hleft]
      simp [Row.outstanding]
    · exact Nat.lt_add_of_pos_right (Nat.pos_of_ne_zero hpositive)

/-- Time that passes and a frame take rows out. -/
theorem Parts.process (h : m.Parts gone waiting) (elapsed : Duration) (frame : Option BusFrame) :
    (m.process elapsed frame).2.Parts (gone ++ Row.gone (m.time + elapsed) frame waiting)
      (Row.left (m.time + elapsed) frame waiting) := by
  have hprocess := Row.process_rows h.outstanding (Nat.le_add_right m.time elapsed) frame
  rw [Nat.add_sub_cancel_left] at hprocess
  have hcalls : (m.process elapsed frame).2.calls =
      m.calls ++ [.processed elapsed frame (m.arbiter.process elapsed frame).1] := rfl
  have hadmitted := (admitted_call hcalls).trans (List.append_nil _)
  have htime : (m.process elapsed frame).2.time = m.time + elapsed := time_call hcalls
  have hends : (m.arbiter.process elapsed frame).1.filterMap ProtocolEvent.ends? =
      (Row.gone (m.time + elapsed) frame waiting).map Row.handle := by
    rw [← Worker.ends_turnEvents, hprocess]
    rfl
  have hsublist := Row.left_sublist (m.time + elapsed) frame waiting
  constructor
  · rw [hadmitted, List.append_assoc]
    exact ((Row.gone_perm (m.time + elapsed) frame waiting).append_left gone).trans h.all
  · rw [ended_call hcalls, h.ended, List.map_append, ← hends]
    rfl
  · rw [htime]
    exact congrArg (fun answer => Arbiter.outstanding answer.2) hprocess
  · rw [hadmitted]
    exact hsublist.trans h.ordered
  · rw [htime]
    intro r hr
    exact of_decide_eq_true (List.mem_filter.mp hr).2
  · intro r hr
    exact h.addressed r (hsublist.subset hr)

/-- Every step leaves each row on one side. -/
theorem Parts.step (h : m.Parts gone waiting) (event : ProtocolStep) :
    ∃ gone waiting, (m.step event).Parts gone waiting := by
  cases event with
  | query did request timeout => exact ⟨gone, _, h.query did request timeout⟩
  | send did request =>
    have hrest := congrArg Arbiter.outstanding (m.arbiter.send_rest did request)
    exact ⟨gone, waiting, h.congr rfl rfl rfl hrest⟩
  | process elapsed frame => exact ⟨_, _, h.process elapsed frame⟩
  | drive transmit => exact ⟨gone, waiting, h.congr rfl rfl rfl rfl⟩

/-- What every step keeps is kept by every run. -/
theorem run_keeps {P : Metered → Prop} (hstep : ∀ m event, P m → P (m.step event)) (hm : P m)
    (steps : List ProtocolStep) : P (run steps m) := by
  induction steps generalizing m with
  | nil => exact hm
  | cons event rest ih => exact ih (hstep m event hm)

theorem run_parts (depth : Nat) (steps : List ProtocolStep) :
    ∃ gone waiting, (run steps (new depth)).Parts gone waiting := by
  apply run_keeps (P := fun m => ∃ gone waiting, m.Parts gone waiting)
  · rintro m event ⟨gone, waiting, hparts⟩
    exact hparts.step event
  · exact ⟨[], [], new_parts depth⟩

/-- The reckoning of a run: each query is gone or waits, and no query is both. -/
structure Reckoned (m : Metered) : Prop where
  /-- Each end is the end of a query of its own, and those that wait are the others. -/
  attributed : ∃ gone waiting : List Row, (gone ++ waiting).Perm m.admitted ∧
    m.ended = gone.map Row.handle ∧
    m.arbiter.outstanding = waiting.map (Row.outstanding m.time)
  /-- A handle is ended as often as it was given out, but for the queries that wait under it. -/
  perHandle : ∀ handle, m.ended.count handle +
    (m.arbiter.outstanding.map Outstanding.handle).count handle =
      (m.admitted.map Row.handle).count handle
  total : m.admitted.length = m.arbiter.outstanding.length + m.ended.length
  /-- What the protocol would make of any frame at any time. -/
  processed : ∀ elapsed frame, Arbiter.Processed m.arbiter.outstanding elapsed frame
    (m.arbiter.process elapsed frame).1 (m.arbiter.process elapsed frame).2.outstanding

theorem Parts.reckoned (h : m.Parts gone waiting) : m.Reckoned := by
  have hhandles : m.arbiter.outstanding.map Outstanding.handle = waiting.map Row.handle := by
    rw [h.outstanding, List.map_map]
    rfl
  have hperm : (m.ended ++ m.arbiter.outstanding.map Outstanding.handle).Perm
      (m.admitted.map Row.handle) := by
    rw [h.ended, hhandles, ← List.map_append]
    exact h.all.map Row.handle
  constructor
  · exact ⟨gone, waiting, h.all, h.ended, h.outstanding⟩
  · intro handle
    rw [← List.count_append]
    exact hperm.count_eq handle
  · have hlength := hperm.length_eq
    simp only [List.length_append, List.length_map] at hlength
    omega
  · exact Row.process_processed h.outstanding h.addressed

/-- Whatever the protocol is asked and told, and whatever the driver does, the reckoning comes
out. -/
theorem run_reckoned (depth : Nat) (steps : List ProtocolStep) :
    (run steps (new depth)).Reckoned := by
  obtain ⟨gone, waiting, hparts⟩ := run_parts depth steps
  exact hparts.reckoned

end Metered

end HomeGateway
