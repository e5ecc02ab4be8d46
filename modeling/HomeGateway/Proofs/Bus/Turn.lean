import Mathlib
import HomeGateway.Proofs.Bus.Row

/-!
Turns of the bus worker. The worker's callers and the protocol's queries stay the two sides of
the same rows: a turn takes out the row that a frame answers and those that are due, and
accepting a query adds a row at the end, under the next handle.
-/

namespace HomeGateway

/-- The ticket of a query that is over. -/
def Notice.ended? : Notice → Option Nat
  | .completion ticket _ _ => some ticket
  | _ => none

/-- The ticket of a query that is to be accepted. -/
def Submission.ticket? : Submission → Option Nat
  | .query ticket .. => some ticket
  | .send .. => none

/-- The handle that a protocol event ends. -/
def ProtocolEvent.ends? : ProtocolEvent → Option QueryHandle
  | .completed handle _ _ => some handle
  | .unsolicited _ => none

/-- A ticket is on one element only. -/
theorem filter_eq_singleton {α : Type} {f : α → Option Nat} {l : List α}
    (honce : (l.filterMap f).Nodup) {a : α} (ha : a ∈ l) {ticket : Nat} (hf : f a = some ticket) :
    (l.filter fun other => f other = some ticket) = [a] := by
  induction l with
  | nil => cases ha
  | cons first rest ih =>
    rcases List.mem_cons.mp ha with rfl | hin
    · rw [List.filterMap_cons_some hf, List.nodup_cons] at honce
      have hnone : (rest.filter fun other => f other = some ticket) = [] := by
        apply List.filter_eq_nil_iff.mpr
        intro other hother hsame
        exact honce.1 (List.mem_filterMap.mpr ⟨other, hother, of_decide_eq_true hsame⟩)
      simp [hf, hnone]
    · have hother : f first ≠ some ticket := by
        intro hsame
        rw [List.filterMap_cons_some hsame, List.nodup_cons] at honce
        exact honce.1 (List.mem_filterMap.mpr ⟨a, hin, hf⟩)
      have hrest : (rest.filterMap f).Nodup :=
        honce.sublist ((List.sublist_cons_self first rest).filterMap f)
      simpa [hother] using ih hrest hin

/-- Telemetry is the frame at hand. -/
theorem frame_of_mem_telemetryOf {frame : Option BusFrame} {notice : Notice}
    (h : notice ∈ Worker.telemetryOf frame) : ∃ f, frame = some f ∧ notice = .telemetry f := by
  cases frame with
  | none => cases h
  | some f =>
    unfold Worker.telemetryOf at h
    dsimp only at h
    split at h
    · exact ⟨f, rfl, List.mem_singleton.mp h⟩
    · cases h

/-- Telemetry ends nothing. -/
theorem mem_telemetryOf {frame : Option BusFrame} {notice : Notice}
    (h : notice ∈ Worker.telemetryOf frame) : ∃ f, notice = .telemetry f := by
  obtain ⟨f, -, hnotice⟩ := frame_of_mem_telemetryOf h
  exact ⟨f, hnotice⟩

theorem telemetryOf_filterMap {α : Type} (frame : Option BusFrame) {f : Notice → Option α}
    (hnone : ∀ g, f (.telemetry g) = none) : (Worker.telemetryOf frame).filterMap f = [] := by
  apply List.filterMap_eq_nil_iff.mpr
  intro notice hnotice
  obtain ⟨g, rfl⟩ := mem_telemetryOf hnotice
  exact hnone g

namespace Arbiter

/-- A frame that is taken goes to the end of the channel. -/
theorem send_pushes (a : Arbiter) (did : BusDeviceId) (request : BusFrame) :
    (∃ code, a.send did request = (.error code, a)) ∨
      a.send did request =
        (.ok (),
          { a with
            transmit := { a.transmit with frames := a.transmit.frames ++ [request.toRaw] } }) := by
  unfold Arbiter.send
  split
  · exact .inl ⟨_, rfl⟩
  · split
    · rename_i transmit hpush
      unfold TransmitQueue.push? at hpush
      split at hpush
      · cases hpush
        exact .inr rfl
      · cases hpush
    · exact .inl ⟨_, rfl⟩

theorem send_cases (a : Arbiter) (did : BusDeviceId) (request : BusFrame) :
    (∃ code, a.send did request = (.error code, a)) ∨
      (∃ transmit, a.send did request = (.ok (), { a with transmit })) := by
  rcases a.send_pushes did request with hrefused | htaken
  · exact .inl hrefused
  · exact .inr ⟨_, htaken⟩

/-- Nothing but the channel knows of what is sent. -/
theorem send_rest (a : Arbiter) (did : BusDeviceId) (request : BusFrame) :
    (a.send did request).2 = { a with transmit := (a.send did request).2.transmit } := by
  rcases a.send_cases did request with ⟨code, hcase⟩ | ⟨transmit, hcase⟩
  · rw [hcase]
  · rw [hcase]

/-- All that can become of a query. -/
theorem query_cases (a : Arbiter) (did : BusDeviceId) (request : BusFrame) (timeout : Duration) :
    (∃ code, a.query did request timeout = (.refused code, a)) ∨
    (∃ transmit, timeout = 0 ∧ a.query did request timeout = (.sent, { a with transmit })) ∨
    (∃ transmit, timeout ≠ 0 ∧ a.query did request timeout =
      (.waiting a.nextHandle,
        { transmit
          outstanding := a.outstanding ++
            [{ handle := a.nextHandle, did, request, remaining := timeout }]
          nextHandle := handleAfter a.nextHandle })) := by
  unfold Arbiter.query
  rcases a.send_cases did request with ⟨code, hsend⟩ | ⟨transmit, hsend⟩
  · exact .inl ⟨code, by rw [hsend]⟩
  · rw [hsend]
    by_cases hzero : timeout = 0
    · exact .inr (.inl ⟨transmit, hzero, by simp [hzero]⟩)
    · exact .inr (.inr ⟨transmit, hzero, by simp [hzero]⟩)

end Arbiter

namespace Worker

variable {π : Type} [Arbitrated π]

/-- The callers of the worker and the queries of its protocol belong to these rows. -/
structure Tracks (w : Worker π) (rows : List Row) : Prop where
  parked : w.parked = rows.map Row.parked
  outstanding : (Arbitrated.arbiter w.protocol).outstanding = rows.map (Row.outstanding w.last)
  distinct : (rows.map Row.handle).Nodup
  ahead : ∀ r ∈ rows, w.last < r.due

variable {w : Worker π} {rows : List Row} {now : Instant}

theorem start_tracks {protocol : π} (hnew : (Arbitrated.arbiter protocol).outstanding = [])
    (now : Instant) : (Worker.start protocol now).Tracks [] where
  parked := rfl
  outstanding := hnew
  distinct := List.nodup_nil
  ahead := by simp

/-- Workers that differ in their queues only. -/
structure Alike (v w : Worker π) : Prop where
  protocol : v.protocol = w.protocol
  parked : v.parked = w.parked
  last : v.last = w.last

/-- Queues do not matter to the rows. -/
theorem Tracks.congr {v : Worker π} (h : w.Tracks rows) (halike : v.Alike w) : v.Tracks rows where
  parked := halike.parked.trans h.parked
  outstanding := by rw [halike.protocol, halike.last, h.outstanding]
  distinct := h.distinct
  ahead := by
    rw [halike.last]
    exact h.ahead

/-- What a turn gives out: telemetry, the answer that the frame is, and the queries that are
due. -/
def turnNotices (now : Instant) (frame : Option BusFrame) (rows : List Row) : List Notice :=
  telemetryOf frame ++
    ((Row.answered frame rows).toList.map fun found => found.2.answer now found.1) ++
      (Row.expired now frame rows).map (Row.expiry now)

/-- What the protocol reports in a turn. -/
def turnEvents (now : Instant) (frame : Option BusFrame) (rows : List Row) :
    List ProtocolEvent :=
  Row.answerEvents frame rows ++
    (Row.expired now frame rows).map fun r => .completed r.handle .timedOut none

theorem Tracks.process (h : w.Tracks rows) (hnow : w.last ≤ now) (frame : Option BusFrame) :
    (BusProtocol.process w.protocol (now - w.last) frame).1 = turnEvents now frame rows ∧
      Arbitrated.arbiter (BusProtocol.process w.protocol (now - w.last) frame).2 =
        { Arbitrated.arbiter w.protocol with
          outstanding := (Row.left now frame rows).map (Row.outstanding now) } := by
  have hprocess := Arbitrated.process_eq w.protocol (now - w.last) frame
  rw [Row.process_rows h.outstanding hnow frame, Prod.mk.injEq] at hprocess
  exact ⟨hprocess.1.symm, hprocess.2.symm⟩

/-- Time that passes and a frame take rows out, and tell their callers. -/
theorem Tracks.advance (h : w.Tracks rows) (hnow : w.last ≤ now) (frame : Option BusFrame) :
    (w.advance now frame).1 = turnNotices now frame rows ∧
      (w.advance now frame).2.Tracks (Row.left now frame rows) := by
  obtain ⟨hevents, harbiter⟩ := h.process hnow frame
  have hsublist := Row.unanswered_sublist frame rows
  have hdistinct := h.distinct.sublist (hsublist.map Row.handle)
  have hanswer := Row.handleAll_answer h.distinct now frame
  have hexpired := Row.handleAll_expired now (Row.expired now frame rows)
    (hdistinct.sublist (List.filter_sublist.map Row.handle)) hdistinct
    (fun r hr => List.mem_of_mem_filter hr)
  have hleft : (Row.unanswered frame rows).filter
      (fun r => r.handle ∉ (Row.expired now frame rows).map Row.handle) =
        Row.left now frame rows := by
    apply List.filter_congr
    intro r hr
    have hiff : r.handle ∈ (Row.expired now frame rows).map Row.handle ↔ r.due ≤ now := by
      constructor
      · intro hin
        obtain ⟨s, hs, hhandle⟩ := List.mem_map.mp hin
        obtain ⟨hmem, hdue⟩ := List.mem_filter.mp hs
        rw [← Row.eq_of_handle hdistinct hmem hr hhandle]
        exact of_decide_eq_true hdue
      · intro hdue
        exact List.mem_map_of_mem (List.mem_filter.mpr ⟨hr, decide_eq_true hdue⟩)
    simp only [hiff, Nat.not_le]
  have hall : handleAll now (turnEvents now frame rows) w.parked =
      (turnNotices now frame rows, (Row.left now frame rows).map Row.parked) := by
    rw [h.parked, turnEvents, Row.handleAll_append, hanswer, hexpired, hleft]
    rfl
  unfold Worker.advance
  simp only [hevents, hall, true_and]
  refine ⟨rfl, ?_, ?_, ?_⟩
  · rw [harbiter]
  · exact h.distinct.sublist ((Row.left_sublist now frame rows).map Row.handle)
  · intro r hr
    exact of_decide_eq_true (List.mem_filter.mp hr).2

/-- A turn changes nothing else. -/
theorem Tracks.advance_rest (h : w.Tracks rows) (hnow : w.last ≤ now) (frame : Option BusFrame) :
    let next := (w.advance now frame).2
    next.last = now ∧ next.frames = w.frames ∧ next.submissions = w.submissions ∧
      (Arbitrated.arbiter next.protocol).nextHandle =
        (Arbitrated.arbiter w.protocol).nextHandle := by
  refine ⟨rfl, rfl, rfl, ?_⟩
  change (Arbitrated.arbiter (BusProtocol.process w.protocol (now - w.last) frame).2).nextHandle = _
  rw [(h.process hnow frame).2]

/-- Whatever is read off notices, if it is nothing for telemetry and depends on rows only. -/
theorem filterMap_turnNotices {α : Type} {f : Notice → Option α} {g : Row → α}
    (htelemetry : ∀ frame, f (.telemetry frame) = none)
    (hanswer : ∀ frame r, f (r.answer now frame) = some (g r))
    (hexpiry : ∀ r, f (r.expiry now) = some (g r)) (frame : Option BusFrame) (rows : List Row) :
    (turnNotices now frame rows).filterMap f = (Row.gone now frame rows).map g := by
  unfold turnNotices Row.gone
  rw [List.filterMap_append, List.filterMap_append, telemetryOf_filterMap frame htelemetry,
    List.nil_append, List.map_append, List.filterMap_map, List.filterMap_map, List.map_map]
  simp only [Function.comp_def, hanswer, hexpiry, List.filterMap_eq_map']

/-- A turn ends the rows that are gone after it. -/
theorem ended_turnNotices (now : Instant) (frame : Option BusFrame) (rows : List Row) :
    (turnNotices now frame rows).filterMap Notice.ended? =
      (Row.gone now frame rows).map Row.ticket :=
  filterMap_turnNotices (f := Notice.ended?) (g := Row.ticket) (fun _ => rfl) (fun _ _ => rfl)
    (fun _ => rfl) frame rows

/-- So does the protocol. -/
theorem ends_turnEvents (now : Instant) (frame : Option BusFrame) (rows : List Row) :
    (turnEvents now frame rows).filterMap ProtocolEvent.ends? =
      (Row.gone now frame rows).map Row.handle := by
  have hanswer : (Row.answerEvents frame rows).filterMap ProtocolEvent.ends? =
      ((Row.answered frame rows).toList.map Prod.snd).map Row.handle := by
    cases frame with
    | none => rfl
    | some f =>
      simp only [Row.answerEvents, Row.answered, Option.bind_some]
      cases rows.find? (Row.answeredBy f) with
      | some r => rfl
      | none => cases hresponse : f.isResponse <;> simp [ProtocolEvent.ends?]
  unfold turnEvents Row.gone
  rw [List.filterMap_append, hanswer, List.filterMap_map, List.map_append]
  congr 1
  rw [← List.filterMap_eq_map]
  rfl

/-- What a turn says to callers. -/
theorem mem_turnNotices {frame : Option BusFrame} {notice : Notice}
    (h : notice ∈ turnNotices now frame rows) :
    (∃ f, notice = .telemetry f) ∨
      (∃ f r, Row.answered frame rows = some (f, r) ∧ notice = r.answer now f) ∨
        ∃ r ∈ Row.expired now frame rows, notice = r.expiry now := by
  rcases List.mem_append.mp h with h | h
  · rcases List.mem_append.mp h with h | h
    · exact .inl (mem_telemetryOf h)
    · obtain ⟨⟨f, r⟩, hfound, rfl⟩ := List.mem_map.mp h
      exact .inr (.inl ⟨f, r, Option.mem_toList.mp hfound, rfl⟩)
  · obtain ⟨r, hr, rfl⟩ := List.mem_map.mp h
    exact .inr (.inr ⟨r, hr, rfl⟩)

/-- What the protocol says of them. -/
theorem mem_turnEvents {frame : Option BusFrame} {handle : QueryHandle}
    {status : CompletionStatus} {response : Option BusFrame} :
    .completed handle status response ∈ turnEvents now frame rows ↔
      (∃ f r, Row.answered frame rows = some (f, r) ∧ handle = r.handle ∧
        status = Arbiter.answerStatus f ∧ response = some f) ∨
      ∃ r ∈ Row.expired now frame rows,
        handle = r.handle ∧ status = .timedOut ∧ response = none := by
  have hanswer : .completed handle status response ∈ Row.answerEvents frame rows ↔
      ∃ f r, Row.answered frame rows = some (f, r) ∧ handle = r.handle ∧
        status = Arbiter.answerStatus f ∧ response = some f := by
    cases frame with
    | none => simp [Row.answerEvents, Row.answered]
    | some f =>
      simp only [Row.answerEvents, Row.answered, Option.bind_some]
      cases rows.find? (Row.answeredBy f) with
      | some r => simp
      | none => cases hresponse : f.isResponse <;> simp
  unfold turnEvents
  rw [List.mem_append, hanswer, List.mem_map]
  refine or_congr_right ⟨?_, ?_⟩
  · rintro ⟨r, hr, hevent⟩
    cases hevent
    exact ⟨r, hr, rfl, rfl, rfl⟩
  · rintro ⟨r, hr, rfl, rfl, rfl⟩
    exact ⟨r, hr, rfl⟩

/-- Whatever the protocol says of a row goes to the caller whose row it is. -/
theorem completion_of_event {frame : Option BusFrame} {handle : QueryHandle}
    {status : CompletionStatus} {response : Option BusFrame}
    (h : .completed handle status response ∈ turnEvents now frame rows) :
    ∃ r ∈ rows, r.handle = handle ∧
      .completion r.ticket (.completed status response) (now - r.submitted) ∈
        turnNotices now frame rows := by
  rcases mem_turnEvents.mp h with
    ⟨f, r, hanswered, rfl, rfl, rfl⟩ | ⟨r, hexpired, rfl, rfl, rfl⟩
  · refine ⟨r, (Row.mem_of_answered hanswered).2.1, rfl, ?_⟩
    refine List.mem_append_left _ (List.mem_append_right _ ?_)
    exact List.mem_map.mpr ⟨(f, r), Option.mem_toList.mpr hanswered, rfl⟩
  · refine ⟨r, (Row.mem_expired hexpired).1, rfl, List.mem_append_right _ ?_⟩
    exact List.mem_map.mpr ⟨r, hexpired, rfl⟩

/-- Whatever wakes the worker, time passes for the protocol before the submission is accepted
that is taken out of its queue. -/
theorem wake?_advance {notices : List Notice} {next : Worker π} {submission : Option Submission}
    (h : w.wake? now = some (notices, next, submission)) :
    ∃ (v : Worker π) (frame : Option BusFrame), v.Alike w ∧
      w.submissions = submission.toList ++ v.submissions ∧
        v.advance now frame = (notices, next) := by
  unfold Worker.wake? at h
  split at h
  · rename_i raw rest _
    cases h
    exact ⟨{ w with frames := rest }, BusFrame.ofRaw? raw, ⟨rfl, rfl, rfl⟩, rfl, rfl⟩
  · rename_i submission rest hframes hsubmissions
    cases h
    exact ⟨{ w with submissions := rest }, none, ⟨rfl, rfl, rfl⟩, hsubmissions, rfl⟩
  · split at h
    · cases h
      exact ⟨w, none, ⟨rfl, rfl, rfl⟩, rfl, rfl⟩
    · cases h

theorem wake?_isSome (w : Worker π) (now : Instant) : (w.wake? now).isSome = w.isWoken now := by
  unfold Worker.wake? Worker.isWoken
  split
  · rename_i hframes
    simp [hframes]
  · rename_i hframes hsubmissions
    simp [hframes, hsubmissions]
  · rename_i hframes hsubmissions
    rw [hframes, hsubmissions]
    split <;> simp_all

/-- The worker's alarm is set for the first row that is due, if not earlier. -/
theorem Tracks.deadline (h : w.Tracks rows) {r : Row} (hr : r ∈ rows) :
    ∃ alarm, w.deadline = some alarm ∧ alarm ≤ r.due := by
  have hleft : r.due - w.last ∈
      (Arbitrated.arbiter w.protocol).outstanding.map Outstanding.remaining := by
    rw [h.outstanding, List.map_map]
    exact List.mem_map_of_mem (f := Outstanding.remaining ∘ Row.outstanding w.last) hr
  unfold Worker.deadline
  rw [← Arbitrated.nextTimeout_eq]
  unfold Arbiter.nextTimeout
  cases hmin : ((Arbitrated.arbiter w.protocol).outstanding.map Outstanding.remaining).min? with
  | none => simp [List.min?_eq_none_iff.mp hmin] at hleft
  | some least =>
    refine ⟨w.last + least, rfl, ?_⟩
    have hle := (List.min?_eq_some_iff.mp hmin).2 _ hleft
    have hahead := h.ahead r hr
    lia

/-- The row of a query that was accepted. -/
def newRow (w : Worker π) (ticket : Nat) (did : BusDeviceId) (request : BusFrame)
    (timeout : Duration) (submitted : Instant) : Row :=
  { ticket, submitted, handle := (Arbitrated.arbiter w.protocol).nextHandle, did, request,
    due := w.last + timeout }

/-- What comes of a query that the worker accepts: the answer of the protocol, the notices, the
rows that it adds and the handle for the next one. Nothing is left of a query that is refused
or only sent. -/
inductive Accepts (w : Worker π) (now : Instant) (ticket : Nat) (did : BusDeviceId)
    (request : BusFrame) (timeout : Duration) (submitted : Instant) :
    QueryStart → List Notice → List Row → QueryHandle → Prop where
  | refused (code : Int) :
    Accepts w now ticket did request timeout submitted (.refused code)
      [.completion ticket (.rejected code) (now - submitted)] []
      (Arbitrated.arbiter w.protocol).nextHandle
  | sent (hzero : timeout = 0) :
    Accepts w now ticket did request timeout submitted .sent
      [.completion ticket .sent (now - submitted)] [] (Arbitrated.arbiter w.protocol).nextHandle
  | waiting (hpositive : timeout ≠ 0) :
    Accepts w now ticket did request timeout submitted
      (.waiting (Arbitrated.arbiter w.protocol).nextHandle) []
      [w.newRow ticket did request timeout submitted]
      (Arbiter.handleAfter (Arbitrated.arbiter w.protocol).nextHandle)

/-- A handle that is free takes nobody's place. -/
theorem park_fresh {p : Parked} {parked : List Parked}
    (hfresh : ∀ q ∈ parked, q.handle ≠ p.handle) : park p parked = ([], parked ++ [p]) := by
  have hothers : (parked.filter fun q => q.handle ≠ p.handle) = parked :=
    List.filter_eq_self.mpr fun q hq => decide_eq_true (hfresh q hq)
  have hnone : (parked.filter fun q => q.handle = p.handle) = [] :=
    List.filter_eq_nil_iff.mpr fun q hq heq => hfresh q hq (of_decide_eq_true heq)
  rw [park, hothers, hnone]
  rfl

theorem Tracks.park (h : w.Tracks rows) (ticket : Nat) (did : BusDeviceId) (request : BusFrame)
    (timeout : Duration) (submitted : Instant)
    (hfresh : (Arbitrated.arbiter w.protocol).nextHandle ∉ rows.map Row.handle) :
    Worker.park (w.newRow ticket did request timeout submitted).parked w.parked =
      ([], (rows ++ [w.newRow ticket did request timeout submitted]).map Row.parked) := by
  rw [park_fresh, h.parked, List.map_append, List.map_singleton]
  rw [h.parked]
  intro p hp heq
  obtain ⟨r, hr, rfl⟩ := List.mem_map.mp hp
  exact hfresh (List.mem_map.mpr ⟨r, hr, heq⟩)

theorem Tracks.accept_query (h : w.Tracks rows) (now : Instant) (ticket : Nat) (did : BusDeviceId)
    (request : BusFrame) (timeout : Duration) (submitted : Instant)
    (hfresh : (BusProtocol.query w.protocol did request timeout).1 =
        .waiting (Arbitrated.arbiter w.protocol).nextHandle →
      (Arbitrated.arbiter w.protocol).nextHandle ∉ rows.map Row.handle) :
    let (notices, next, survives) := w.accept now (.query ticket did request timeout submitted)
    survives = true ∧ next.last = w.last ∧ next.frames = w.frames ∧
      next.submissions = w.submissions ∧
      ∃ added, w.Accepts now ticket did request timeout submitted
          (BusProtocol.query w.protocol did request timeout).1 notices added
          (Arbitrated.arbiter next.protocol).nextHandle ∧
        next.Tracks (rows ++ added) := by
  have hquery := Arbitrated.query_eq w.protocol did request timeout
  unfold Worker.accept
  dsimp only
  generalize BusProtocol.query w.protocol did request timeout = asked at hquery hfresh ⊢
  obtain ⟨start, protocol⟩ := asked
  rcases (Arbitrated.arbiter w.protocol).query_cases did request timeout with
    ⟨code, hcase⟩ | ⟨transmit, hzero, hcase⟩ | ⟨transmit, hpositive, hcase⟩
  · rw [hcase, Prod.mk.injEq] at hquery
    obtain ⟨rfl, harbiter⟩ := hquery
    refine ⟨rfl, rfl, rfl, rfl, [], ?_, ?_⟩
    · rw [← harbiter]
      exact .refused code
    · rw [List.append_nil]
      exact ⟨h.parked, by rw [← harbiter]; exact h.outstanding, h.distinct, h.ahead⟩
  · rw [hcase, Prod.mk.injEq] at hquery
    obtain ⟨rfl, harbiter⟩ := hquery
    refine ⟨rfl, rfl, rfl, rfl, [], ?_, ?_⟩
    · rw [← harbiter]
      exact .sent hzero
    · rw [List.append_nil]
      exact ⟨h.parked, by rw [← harbiter]; exact h.outstanding, h.distinct, h.ahead⟩
  · rw [hcase, Prod.mk.injEq] at hquery
    obtain ⟨rfl, harbiter⟩ := hquery
    have hnew := hfresh rfl
    have hpark := h.park ticket did request timeout submitted hnew
    simp only [newRow, Row.parked] at hpark
    simp only [hpark]
    refine ⟨trivial, trivial, trivial, trivial,
      [w.newRow ticket did request timeout submitted], ?_, rfl, ?_, ?_, ?_⟩
    · rw [← harbiter]
      exact .waiting hpositive
    · rw [← harbiter]
      simp [h.outstanding, newRow, Row.outstanding]
    · rw [List.map_append]
      refine List.nodup_append.mpr ⟨h.distinct, List.nodup_singleton _, ?_⟩
      intro first hfirst second hsecond heq
      rw [List.map_singleton, List.mem_singleton] at hsecond
      rw [heq, hsecond] at hfirst
      exact hnew hfirst
    · intro r hr
      rcases List.mem_append.mp hr with hold | hadded
      · exact h.ahead r hold
      · rw [List.mem_singleton.mp hadded]
        exact Nat.lt_add_of_pos_right (Nat.pos_of_ne_zero hpositive)

/-- Accepting a submission leaves the others in the queue, and takes no time. -/
theorem accept_rest {ρ : Type} [BusProtocol ρ] (w : Worker ρ) (now : Instant)
    (submission : Submission) :
    (w.accept now submission).2.1.submissions = w.submissions ∧
      (w.accept now submission).2.1.last = w.last := by
  unfold Worker.accept
  split
  · exact ⟨rfl, rfl⟩
  · split <;> exact ⟨rfl, rfl⟩

theorem accept_frames (w : Worker π) (now : Instant) (submission : Submission) :
    (w.accept now submission).2.1.frames = w.frames := by
  unfold Worker.accept
  split
  · rfl
  · split <;> rfl

theorem accept_query_protocol (w : Worker π) (now : Instant) (ticket : Nat) (did : BusDeviceId)
    (request : BusFrame) (timeout : Duration) (submitted : Instant) :
    (w.accept now (.query ticket did request timeout submitted)).2.1.protocol =
      (BusProtocol.query w.protocol did request timeout).2 := by
  unfold Worker.accept
  dsimp only
  split <;> rename_i hquery <;> rw [hquery]

/-- A request that is only sent concerns no row. -/
theorem Tracks.accept_send (h : w.Tracks rows) (now : Instant) (did : BusDeviceId)
    (request : BusFrame) :
    let (notices, next, survives) := w.accept now (.send did request)
    notices = [] ∧ survives = true ∧ next.Tracks rows ∧ next.last = w.last ∧
      next.frames = w.frames ∧ next.submissions = w.submissions ∧
        (Arbitrated.arbiter next.protocol).nextHandle =
          (Arbitrated.arbiter w.protocol).nextHandle := by
  have hsend := Arbitrated.send_eq w.protocol did request
  unfold Worker.accept
  dsimp only
  generalize BusProtocol.send w.protocol did request = asked at hsend ⊢
  obtain ⟨result, protocol⟩ := asked
  rcases (Arbitrated.arbiter w.protocol).send_cases did request with
    ⟨code, hcase⟩ | ⟨transmit, hcase⟩
  · rw [hcase, Prod.mk.injEq] at hsend
    obtain ⟨-, harbiter⟩ := hsend
    refine ⟨rfl, rfl, ⟨h.parked, ?_, h.distinct, h.ahead⟩, rfl, rfl, rfl, ?_⟩
    · rw [← harbiter]
      exact h.outstanding
    · rw [← harbiter]
  · rw [hcase, Prod.mk.injEq] at hsend
    obtain ⟨-, harbiter⟩ := hsend
    refine ⟨rfl, rfl, ⟨h.parked, ?_, h.distinct, h.ahead⟩, rfl, rfl, rfl, ?_⟩
    · rw [← harbiter]
      exact h.outstanding
    · rw [← harbiter]

end Worker

/-! Handles are given out in turn, and start again when they have run through all words. -/

/-- The handle of the query that comes to wait after `k` others. -/
def handleOf (k : Nat) : QueryHandle := UInt32.ofNat (k % 0xFFFFFFFF + 1)

theorem toNat_handleOf (k : Nat) : (handleOf k).toNat = k % 0xFFFFFFFF + 1 := by
  have hlt : k % 0xFFFFFFFF < 0xFFFFFFFF := Nat.mod_lt k (by decide)
  rw [handleOf, UInt32.toNat_ofNat_of_lt']
  exact Nat.lt_of_le_of_lt hlt (by decide)

theorem handleAfter_handleOf (k : Nat) : Arbiter.handleAfter (handleOf k) = handleOf (k + 1) := by
  have hlt : k % 0xFFFFFFFF < 0xFFFFFFFF := Nat.mod_lt k (by decide)
  apply UInt32.toNat_inj.mp
  rw [toNat_handleOf]
  unfold Arbiter.handleAfter
  split
  · rename_i hlast
    have hvalue := congrArg UInt32.toNat hlast
    rw [toNat_handleOf] at hvalue
    change _ + 1 = 4294967295 at hvalue
    change 1 = _
    omega
  · rename_i hnext
    have hvalue : (handleOf k).toNat ≠ 0xFFFFFFFF := fun heq => hnext (UInt32.toNat_inj.mp heq)
    rw [toNat_handleOf] at hvalue
    rw [UInt32.toNat_add, toNat_handleOf]
    change (k % 4294967295 + 1 + 1) % 4294967296 = _
    omega

theorem handleOf_ne_zero (k : Nat) : handleOf k ≠ 0 := by
  intro hzero
  have hvalue := congrArg UInt32.toNat hzero
  rw [toNat_handleOf] at hvalue
  exact Nat.succ_ne_zero _ hvalue

/-- Two handles are the same just if their turns are whole rounds apart. -/
theorem handleOf_eq_iff {i j : Nat} :
    handleOf i = handleOf j ↔ i % 0xFFFFFFFF = j % 0xFFFFFFFF := by
  rw [← UInt32.toNat_inj, toNat_handleOf, toNat_handleOf, Nat.add_right_cancel_iff]

/-- Less than a full round apart, handles differ. -/
theorem handleOf_ne {i j : Nat} (hlt : i < j) (hround : j - i < 0xFFFFFFFF) :
    handleOf i ≠ handleOf j := by
  rw [Ne, handleOf_eq_iff]
  omega

end HomeGateway
