import Mathlib
import HomeGateway.Proofs.Bus.Watch

/-!
The invariant of a watched controller: whoever waits has a row or a submission in the queue, and
hears of it when that is gone. Rows never fall behind the clock, as the worker's alarm stops it.
-/

namespace HomeGateway

namespace Watch

variable {S : Type}

/-! The invariant: rows are the queries that wait, `queue` has the submissions that are to be
accepted yet, and callers are to be told of the tickets in `gone`. -/

/-- A row stands for what was asked. -/
structure Stands (q : Asked) (r : Row) : Prop where
  ticket : q.ticket = r.ticket
  did : q.did = r.did
  request : q.request = r.request
  time : q.time = r.submitted
  due : q.due = r.due

/-- What holds while the worker runs. -/
structure Attends (w : Watch S) (rows : List Row) (queue : List Submission) (gone : List Nat) :
    Prop where
  callers : (w.controller.callers.map Caller.ticket).Perm
    (gone ++ (rows.map Row.ticket ++ queue.filterMap Submission.ticket?))
  inTime : ∀ r ∈ rows, w.now ≤ r.due
  queued : ∀ submission ∈ queue, submission.ticket? = none ∨
    ∃ q ∈ w.asked, q.time = w.now ∧ submission = q.submission

structure Keeps (w : Watch S) (rows : List Row) (queue : List Submission) (gone : List Nat) :
    Prop where
  tolerant : 0 < w.controller.config.tolerance
  tracks : w.controller.worker.Tracks rows
  clock : w.controller.worker.last ≤ w.now
  metered : w.start + ProtocolCall.total w.meter.calls = w.controller.worker.last
  next : w.meter.arbiter.nextHandle = handleOf (w.meter.calls.countP ProtocolCall.isWaiting)
  named : ∀ r ∈ rows, w.meter.Named r.handle
  handled : ∀ r ∈ rows, w.meter.At w.start r.submitted
    (.queried r.did r.request (r.due - r.submitted) (.waiting r.handle))
  tickets : w.asked.map Asked.ticket = List.range w.controller.nextTicket
  stands : ∀ r ∈ rows, r.submitted ≤ w.controller.worker.last ∧ ∃ q ∈ w.asked, Stands q r
  callers : ∀ caller ∈ w.controller.callers, ∃ q ∈ w.asked, q.ticket = caller.ticket ∧
    q.timeoutMs = caller.timeoutMs ∧ caller.deadline = q.due + w.controller.config.tolerance
  held : (w.controller.held ++ w.ended.map Ending.ticket).Perm (w.asked.map Asked.ticket)
  ends : ∀ e ∈ w.endings, ∃ q ∈ w.asked, q.ticket = e.ticket ∧ w.FairEnd q e.time e.result
  attends : w.controller.running = true → w.Attends rows queue gone
  nobody : w.controller.running = false → w.controller.callers = []
  patient : ∀ timeoutMs, .unresponsive timeoutMs ∉ w.refused

variable {w next : Watch S} {rows : List Row} {queue : List Submission} {gone : List Nat}
  {forward : BusFrame → S → Option S}

/-- Who is not gone is left. -/
theorem filter_gone {gone left : List Nat} (hnodup : (gone ++ left).Nodup) :
    (gone ++ left).filter (fun ticket => ticket ∉ gone) = left := by
  have hdisjoint := (List.nodup_append.mp hnodup).2.2
  rw [List.filter_append, List.filter_eq_nil_iff.mpr (by simp), List.nil_append]
  apply List.filter_eq_self.mpr
  intro ticket hleft
  exact decide_eq_true fun hgone => hdisjoint ticket hgone ticket hleft rfl

/-- Everybody whose row is gone after a turn is told. -/
theorem verdicts_turnNotices (now : Instant) (frame : Option BusFrame) (rows : List Row) :
    ((Worker.turnNotices now frame rows).filterMap Notice.verdict?).map Verdict.ticket =
      (Row.gone now frame rows).map Row.ticket := by
  rw [List.map_filterMap]
  exact Worker.filterMap_turnNotices (g := Row.ticket) (fun _ => rfl) (fun _ _ => rfl)
    (fun _ => rfl) frame rows

theorem Attends.congr (h : w.Attends rows queue gone)
    (hcallers : next.controller.callers = w.controller.callers) (hasked : next.asked = w.asked)
    (hnow : next.now = w.now) : next.Attends rows queue gone := by
  refine ⟨?_, ?_, ?_⟩
  · rw [hcallers]
    exact h.callers
  · rw [hnow]
    exact h.inTime
  · rw [hasked, hnow]
    exact h.queued

namespace Keeps

theorem distinct (h : w.Keeps rows queue gone) : (w.asked.map Asked.ticket).Nodup := by
  rw [h.tickets]
  exact List.nodup_range

theorem held_nodup (h : w.Keeps rows queue gone) : w.controller.held.Nodup :=
  (List.nodup_append.mp (h.held.nodup_iff.mpr h.distinct)).1

theorem callers_nodup (h : w.Keeps rows queue gone) :
    (w.controller.callers.map Caller.ticket).Nodup :=
  (List.nodup_append.mp h.held_nodup).1

/-- Tickets tell queries apart. -/
theorem eq_of_ticket (h : w.Keeps rows queue gone) {q q' : Asked} (hq : q ∈ w.asked)
    (hq' : q' ∈ w.asked) (hticket : q.ticket = q'.ticket) : q = q' :=
  List.inj_on_of_nodup_map h.distinct hq hq' hticket

/-- Only queries with a timeout wait. -/
theorem waits (h : w.Keeps rows queue gone) {r : Row} (hr : r ∈ rows) {q : Asked}
    (hstands : Stands q r) : 0 < q.timeoutMs := by
  apply Nat.pos_of_ne_zero
  intro hzero
  have hsince := (h.stands r hr).1
  have hahead := h.tracks.ahead r hr
  have hdue := hstands.due
  simp only [Asked.due, Asked.timeout, Duration.ofMillis, hzero, Nat.zero_mul, Nat.add_zero,
    hstands.time] at hdue
  rw [← hdue] at hahead
  exact absurd hsince (Nat.not_le.mpr hahead)

/-- Ends stay fair as more is asked and the protocol is called. -/
theorem fair_ends (h : w.Keeps rows queue gone) (hendings : ∀ e ∈ next.endings, e ∈ w.endings)
    (hasked : ∀ q ∈ w.asked, q ∈ next.asked) (hstart : next.start = w.start)
    (hcalls : w.meter.calls <+: next.meter.calls)
    (hstopped : w.controller.running = false → next.controller.running = false) :
    ∀ e ∈ next.endings, ∃ q ∈ next.asked, q.ticket = e.ticket ∧
      next.FairEnd q e.time e.result := by
  intro e he
  obtain ⟨q, hq, hticket, hfair⟩ := h.ends e (hendings e he)
  exact ⟨q, hasked q hq, hticket, hfair.mono hstart hcalls hstopped⟩

/-- Verdicts are handed out, to those whom they concern or, as the worker stops, to all. -/
theorem told {running : Bool} {controller : Controller Metered} {hub : S}
    {verdicts : List Verdict} (h : w.Keeps rows queue gone)
    (hfinished : Controller.Finished { w.controller with running } controller verdicts)
    (hends : ∀ v ∈ verdicts, ∀ caller ∈ w.controller.callers, caller.ticket = v.ticket →
      ∃ q ∈ w.asked, q.ticket = v.ticket ∧
        FairEnd { w with controller, hub } q w.now (v.result caller))
    (hgone : running = true →
      w.controller.running = true ∧ verdicts.map Verdict.ticket = gone)
    (hnobody : running = false → controller.callers = []) :
    Keeps { w with controller, hub } rows queue [] := by
  have hworker : controller.worker = w.controller.worker := hfinished.worker
  have hconfig : controller.config = w.controller.config := hfinished.config
  have hrunning : controller.running = running := hfinished.running
  have hcallers : controller.callers = w.controller.callers.filter
      fun caller => caller.ticket ∉ verdicts.map Verdict.ticket := hfinished.callers
  have hstopped : w.controller.running = false → controller.running = false := by
    intro hdown
    rw [hrunning]
    by_contra hup
    rw [(hgone (by simpa using hup)).1] at hdown
    cases hdown
  have hmeter : Watch.meter { w with controller, hub } = w.meter := by
    simp only [Watch.meter, hworker]
  obtain ⟨news, hended, hnews⟩ := hfinished.ended
  refine
    { tolerant := by simp only [hconfig]; exact h.tolerant
      tracks := by simp only [hworker]; exact h.tracks
      clock := by simp only [hworker]; exact h.clock
      metered := by simp only [hworker, hmeter]; exact h.metered
      next := by simp only [hmeter]; exact h.next
      named := by simp only [hmeter]; exact h.named
      handled := by simp only [hmeter]; exact h.handled
      tickets := h.tickets.trans (by simp only [hfinished.nextTicket])
      stands := by simp only [hworker]; exact h.stands
      callers := ?_
      held := (hfinished.held.append_right _).trans h.held
      ends := ?_
      attends := ?_
      nobody := fun hdown => hnobody (hrunning.symm.trans hdown)
      patient := h.patient }
  · intro caller hcaller
    simp only [hcallers] at hcaller
    simp only [hconfig]
    exact h.callers caller (List.mem_of_mem_filter hcaller)
  · intro e he
    have hmono {q : Asked} (hfair : w.FairEnd q e.time e.result) :
        FairEnd { w with controller, hub } q e.time e.result :=
      hfair.mono rfl (by rw [hmeter]) hstopped
    rcases mem_endings.mp he with hold | ⟨htime, hnew⟩
    · obtain ⟨q, hq, hticket, hfair⟩ := h.ends e (mem_endings.mpr (.inl hold))
      exact ⟨q, hq, hticket, hmono hfair⟩
    · simp only [hended, List.mem_append] at hnew
      rcases hnew with hold | hlate
      · obtain ⟨q, hq, hticket, hfair⟩ := h.ends e (mem_endings.mpr (.inr ⟨htime, hold⟩))
        exact ⟨q, hq, hticket, hmono hfair⟩
      · obtain ⟨v, hv, caller, hcaller, hticket, hsame, hresult⟩ := hnews _ _ hlate
        obtain ⟨q, hq, hticket', hfair⟩ := hends v hv caller hcaller (hsame.trans hticket.symm)
        rw [htime, ← hresult]
        exact ⟨q, hq, hticket'.trans hticket, hfair⟩
  · intro hup
    obtain ⟨hup', hverdicts⟩ := hgone (hrunning.symm.trans hup)
    have hattends := h.attends hup'
    refine ⟨?_, hattends.inTime, hattends.queued⟩
    have hnodup := hattends.callers.nodup_iff.mp h.callers_nodup
    have hperm := hattends.callers.filter fun ticket => ticket ∉ gone
    rw [filter_gone hnodup, List.filter_map] at hperm
    simp only [hcallers, hverdicts]
    exact hperm

/-- Notices are passed on, unless one brings the worker down. -/
theorem notify (h : w.Keeps rows queue gone) (hup : w.controller.running = true)
    (forward : BusFrame → S → Option S) {notices : List Notice}
    (hgone : (notices.filterMap Notice.verdict?).map Verdict.ticket = gone)
    (hends : ∀ v ∈ notices.filterMap Notice.verdict?, ∀ caller ∈ w.controller.callers,
      caller.ticket = v.ticket →
        ∃ q ∈ w.asked, q.ticket = v.ticket ∧ w.FairEnd q w.now (v.result caller)) :
    (w.notify forward notices).Keeps rows queue [] := by
  have hmono {controller : Controller Metered} {hub : S}
      (hworker : controller.worker = w.controller.worker) {q : Asked} {time : Instant}
      {result : Except QueryError QueryReply} (hfair : w.FairEnd q time result) :
      FairEnd { w with controller, hub } q time result :=
    hfair.mono rfl (by simp only [meter, hworker, List.prefix_refl]) (by simp [hup])
  rcases Controller.pass_finished h.callers_nodup forward notices w.hub with
    hfinished | ⟨hnobody, verdicts, hfinished, hsaid⟩
  · refine h.told hfinished ?_ (fun _ => ⟨hup, hgone⟩) (fun hdown => ?_)
    · intro v hv caller hcaller hticket
      obtain ⟨q, hq, hsame, hfair⟩ := hends v hv caller hcaller hticket
      exact ⟨q, hq, hsame, hmono hfinished.worker hfair⟩
    · rw [hup] at hdown
      cases hdown
  · refine h.told hfinished ?_ (fun hup => by cases hup) (fun _ => hnobody)
    intro v hv caller hcaller hticket
    rcases hsaid v hv with hin | hstopped
    · obtain ⟨q, hq, hsame, hfair⟩ := hends v hin caller hcaller hticket
      exact ⟨q, hq, hsame, hmono hfinished.worker hfair⟩
    · obtain ⟨q, hq, hsame, -⟩ := h.callers caller hcaller
      rw [hstopped]
      exact ⟨q, hq, hsame.trans hticket, .stopped hfinished.running⟩

/-- The worker comes down, and everybody hears of it. -/
theorem stop (h : w.Keeps rows queue gone) :
    Keeps { w with controller := w.controller.stop } rows queue [] := by
  obtain ⟨hnobody, verdicts, hfinished, hstopped⟩ := Controller.stop_finished h.callers_nodup
  refine h.told hfinished ?_ (fun hup => by cases hup) (fun _ => hnobody)
  intro v hv caller hcaller hticket
  obtain ⟨q, hq, hsame, -⟩ := h.callers caller hcaller
  rw [hstopped v hv]
  exact ⟨q, hq, hsame.trans hticket, .stopped hfinished.running⟩

section Advance

variable {v : Worker Metered} (h : w.Keeps rows queue []) (hup : w.controller.running = true)
  (halike : v.Alike w.controller.worker) (frame : Option BusFrame)

include h halike

theorem advanced_calls : (w.advanced v frame).meter.calls = w.meter.calls ++
    [.processed (w.now - w.controller.worker.last) frame
      (Worker.turnEvents w.now frame rows)] := by
  have hclock : v.last ≤ w.now := halike.last ▸ h.clock
  obtain ⟨hevents, -⟩ := (h.tracks.congr halike).process hclock frame
  have hmeter : v.protocol = w.meter := halike.protocol
  rw [← hevents, ← hmeter, ← halike.last]
  rfl

theorem advanced_metered : (w.advanced v frame).start +
    ProtocolCall.total (w.advanced v frame).meter.calls = w.now := by
  rw [h.advanced_calls halike frame, ProtocolCall.total_append, ← Nat.add_assoc]
  change w.start + ProtocolCall.total w.meter.calls + (w.now - w.controller.worker.last) = w.now
  rw [h.metered]
  exact Nat.add_sub_of_le h.clock

theorem advanced_at : (w.advanced v frame).meter.At w.start w.now
    (.processed (w.now - w.controller.worker.last) frame
      (Worker.turnEvents w.now frame rows)) :=
  .last (h.advanced_calls halike frame)
    (h.advanced_metered halike frame)

include hup

/-- The worker deals with a frame and with passing time; callers are still to be told. -/
theorem advanced : (w.advanced v frame).Keeps (Row.left w.now frame rows) queue
    ((Row.gone w.now frame rows).map Row.ticket) := by
  have htracks := h.tracks.congr halike
  have hclock : v.last ≤ w.now := halike.last ▸ h.clock
  have hcalls := h.advanced_calls halike frame
  have hsublist := Row.left_sublist w.now frame rows
  have hattends := h.attends hup
  obtain ⟨-, -, -, hhandle⟩ := htracks.advance_rest hclock frame
  refine
    { tolerant := h.tolerant
      tracks := (htracks.advance hclock frame).2
      clock := Nat.le_refl w.now
      metered := h.advanced_metered halike frame
      next := ?_
      named := ?_
      handled := ?_
      tickets := h.tickets
      stands := ?_
      callers := h.callers
      held := h.held
      ends := h.fair_ends (fun _ => id) (fun _ => id) rfl
        (by rw [hcalls]; exact List.prefix_append _ _) id
      attends := fun _ => ⟨?_, ?_, hattends.queued⟩
      nobody := h.nobody
      patient := h.patient }
  · rw [hcalls, List.countP_append]
    simp only [List.countP_singleton, ProtocolCall.isWaiting, Bool.false_eq_true, if_false,
      Nat.add_zero]
    have hmeter : v.protocol = w.meter := halike.protocol
    rw [← h.next, ← hmeter]
    exact hhandle
  · intro r hr
    refine (h.named r (hsublist.subset hr)).kept hcalls ?_
    rw [List.flatMap_singleton, ProtocolCall.ends, Worker.ends_turnEvents]
    have hhandles := (Row.gone_perm w.now frame rows).map Row.handle
    rw [List.map_append] at hhandles
    have hdisjoint := (List.nodup_append.mp (hhandles.nodup_iff.mpr h.tracks.distinct)).2.2
    intro hgone
    exact hdisjoint _ hgone _ (List.mem_map_of_mem hr) rfl
  · intro r hr
    exact (h.handled r (hsublist.subset hr)).mono (by rw [hcalls]; exact List.prefix_append _ _)
  · intro r hr
    obtain ⟨hsince, q, hq, hstands⟩ := h.stands r (hsublist.subset hr)
    exact ⟨hsince.trans h.clock, q, hq, hstands⟩
  · have hperm := (Row.gone_perm w.now frame rows).map Row.ticket
    rw [List.map_append] at hperm
    rw [← List.append_assoc]
    exact hattends.callers.trans (hperm.symm.append_right _)
  · intro r hr
    exact hattends.inTime r (hsublist.subset hr)

/-- What callers are told then is fair. -/
theorem advanced_fair : ∀ verdict ∈ (Worker.turnNotices w.now frame rows).filterMap Notice.verdict?,
    ∀ caller ∈ w.controller.callers, caller.ticket = verdict.ticket →
      ∃ q ∈ w.asked, q.ticket = verdict.ticket ∧
        (w.advanced v frame).FairEnd q w.now (verdict.result caller) := by
  intro verdict hverdict caller hcaller hticket
  obtain ⟨notice, hnotice, hsome⟩ := List.mem_filterMap.mp hverdict
  have hcall := h.advanced_at halike frame
  have haccepted (r : Row) (hr : r ∈ rows) (q : Asked) (hstands : Stands q r) :
      (w.advanced v frame).meter.At w.start q.time
        (.queried q.did q.request q.timeout (.waiting r.handle)) := by
    have hbefore := (h.handled r hr).mono
      ⟨_, (h.advanced_calls halike frame).symm⟩
    rwa [← hstands.time, ← hstands.did, ← hstands.request, ← hstands.due, Asked.due,
      Nat.add_sub_cancel_left] at hbefore
  obtain ⟨asked, hasked, hsame, htimeout, -⟩ := h.callers caller hcaller
  have hattends := h.attends hup
  rcases Worker.mem_turnNotices hnotice with
    ⟨f, rfl⟩ | ⟨f, r, hanswered, rfl⟩ | ⟨r, hexpired, rfl⟩
  · cases hsome
  · cases hsome
    obtain ⟨hframe, hr, hdid, hanswers⟩ := Row.mem_of_answered hanswered
    obtain ⟨hsince, q, hq, hstands⟩ := h.stands r hr
    have hevent : .completed r.handle (Arbiter.answerStatus f) (some f) ∈
        Worker.turnEvents w.now frame rows :=
      Worker.mem_turnEvents.mpr (.inl ⟨f, r, hanswered, rfl, rfl, rfl⟩)
    have hreply : Controller.replyOf (.completed (Arbiter.answerStatus f) (some f))
        (w.now - q.time) caller =
          .ok
            { status := if f.isError then .answeredWithError else .answered
              response := some f
              elapsed := w.now - q.time } := by
      unfold Arbiter.answerStatus
      cases f.isError <;> rfl
    subst hframe
    refine ⟨q, hq, hstands.ticket, ?_⟩
    change FairEnd _ q w.now (Controller.replyOf _ (w.now - r.submitted) caller)
    rw [← hstands.time, hreply]
    exact .answered (h.waits hr hstands) (hstands.time ▸ hsince.trans h.clock)
      (hstands.due ▸ hattends.inTime r hr) (haccepted r hr q hstands) hcall hevent
      (hdid.symm.trans hstands.did.symm) (hstands.request ▸ hanswers)
  · cases hsome
    obtain ⟨hr, hdue⟩ := Row.mem_expired hexpired
    obtain ⟨hsince, q, hq, hstands⟩ := h.stands r hr
    have hevent : .completed r.handle .timedOut none ∈ Worker.turnEvents w.now frame rows :=
      Worker.mem_turnEvents.mpr (.inr ⟨r, hexpired, rfl, rfl, rfl⟩)
    have hjust : w.now = q.due :=
      (Nat.le_antisymm (hattends.inTime r hr) hdue).trans hstands.due.symm
    have hasker : asked = q :=
      h.eq_of_ticket hasked hq (hsame.trans (hticket.trans hstands.ticket.symm))
    refine ⟨q, hq, hstands.ticket, ?_⟩
    change FairEnd _ q w.now (.error (.timedOut caller.timeoutMs))
    rw [← htimeout, hasker]
    exact .timedOut (h.waits hr hstands) hjust (haccepted r hr q hstands) hcall hevent

end Advance

/-- A submission was taken out of the queue; a query waits, or its caller is to be told. -/
theorem accepted {submission : Submission} {worker : Worker Metered} {more : List ProtocolCall}
    {added : List Row} (h : w.Keeps rows (submission :: queue) [])
    (htracks : worker.Tracks (rows ++ added)) (hlast : worker.last = w.controller.worker.last)
    (hcalls : worker.protocol.calls = w.meter.calls ++ more)
    (hmore : ∀ call ∈ more, call.elapsed = 0 ∧ call.ends = [])
    (hnext : worker.protocol.arbiter.nextHandle =
      handleOf (worker.protocol.calls.countP ProtocolCall.isWaiting))
    (hadded : ∀ r ∈ added, worker.protocol.Named r.handle ∧
      worker.protocol.At w.start r.submitted
          (.queried r.did r.request (r.due - r.submitted) (.waiting r.handle)) ∧
        r.submitted ≤ w.controller.worker.last ∧ w.now ≤ r.due ∧ ∃ q ∈ w.asked, Stands q r)
    (htickets : submission.ticket?.toList.Perm (gone ++ added.map Row.ticket)) :
    Keeps { w with controller := { w.controller with worker } } (rows ++ added) queue gone := by
  have hends : more.flatMap ProtocolCall.ends = [] :=
    List.flatMap_eq_nil_iff.mpr fun call hcall => (hmore call hcall).2
  have helapsed : ProtocolCall.total more = 0 := by
    apply List.sum_eq_zero
    intro elapsed hin
    obtain ⟨call, hcall, rfl⟩ := List.mem_map.mp hin
    exact (hmore call hcall).1
  refine
    { tolerant := h.tolerant
      tracks := htracks
      clock := hlast ▸ h.clock
      metered := ?_
      next := hnext
      named := ?_
      handled := ?_
      tickets := h.tickets
      stands := ?_
      callers := h.callers
      held := h.held
      ends := h.fair_ends (fun _ => id) (fun _ => id) rfl ⟨more, hcalls.symm⟩ id
      attends := fun hup => ⟨?_, ?_, ?_⟩
      nobody := h.nobody
      patient := h.patient }
  · change w.start + ProtocolCall.total worker.protocol.calls = worker.last
    rw [hcalls, ProtocolCall.total_append, helapsed, Nat.add_zero, hlast]
    exact h.metered
  · intro r hr
    rcases List.mem_append.mp hr with hold | hnew
    · exact (h.named r hold).kept hcalls (by simp [hends])
    · exact (hadded r hnew).1
  · intro r hr
    rcases List.mem_append.mp hr with hold | hnew
    · exact (h.handled r hold).mono ⟨more, hcalls.symm⟩
    · exact (hadded r hnew).2.1
  · intro r hr
    rw [hlast]
    rcases List.mem_append.mp hr with hold | hnew
    · exact h.stands r hold
    · exact ⟨(hadded r hnew).2.2.1, (hadded r hnew).2.2.2.2⟩
  · have hperm := (h.attends hup).callers
    have hhead : (submission :: queue).filterMap Submission.ticket? =
        submission.ticket?.toList ++ queue.filterMap Submission.ticket? := by
      cases hticket : submission.ticket? <;> simp [hticket]
    rw [hhead, List.nil_append] at hperm
    refine hperm.trans ?_
    rw [List.map_append]
    calc rows.map Row.ticket ++
          (submission.ticket?.toList ++ queue.filterMap Submission.ticket?)
        _ = rows.map Row.ticket ++ submission.ticket?.toList ++
              queue.filterMap Submission.ticket? := (List.append_assoc _ _ _).symm
        List.Perm _ (rows.map Row.ticket ++ (gone ++ added.map Row.ticket) ++
              queue.filterMap Submission.ticket?) := (htickets.append_left _).append_right _
        List.Perm _ (gone ++ (rows.map Row.ticket ++ added.map Row.ticket ++
              queue.filterMap Submission.ticket?)) := by
          simp only [← List.append_assoc]
          exact ((List.perm_append_comm.append_right _).append_right _)
  · intro r hr
    rcases List.mem_append.mp hr with hold | hnew
    · exact (h.attends hup).inTime r hold
    · exact (hadded r hnew).2.2.2.1
  · intro later hlater
    exact (h.attends hup).queued later (List.mem_cons_of_mem submission hlater)

section Acceptance

variable {q : Asked} {worker : Worker Metered} {start : QueryStart}

/-- A query that does not wait is over when it was accepted. -/
theorem ends_at_once {outcome : Outcome} (h : w.Keeps rows (q.submission :: queue) [])
    (hup : w.controller.running = true) (hq : q ∈ w.asked)
    (htold : w.controller.worker.last = w.now) (htracks : worker.Tracks rows)
    (hlast : worker.last = w.controller.worker.last)
    (hcalls : worker.protocol.calls =
      w.meter.calls ++ [.queried q.did q.request q.timeout start])
    (hstart : (ProtocolCall.queried q.did q.request q.timeout start).isWaiting = false)
    (hnext : worker.protocol.arbiter.nextHandle = w.meter.arbiter.nextHandle)
    (hfair : worker.protocol.At w.start w.now (.queried q.did q.request q.timeout start) →
      ∀ caller, FairEnd { w with controller := { w.controller with worker } } q w.now
        (Controller.replyOf outcome (w.now - q.time) caller)) :
    (Watch.notify forward [.completion q.ticket outcome (w.now - q.time)]
      { w with controller := { w.controller with worker } }).Keeps rows queue [] := by
  have hcount : worker.protocol.arbiter.nextHandle =
      handleOf (worker.protocol.calls.countP ProtocolCall.isWaiting) := by
    rw [hnext, h.next, hcalls, List.countP_append, List.countP_singleton, hstart]
    rfl
  rw [← List.append_nil rows] at htracks
  have hticket : q.submission.ticket?.toList.Perm ([q.ticket] ++ ([] : List Row).map Row.ticket) :=
    List.Perm.refl [q.ticket]
  have hkeeps := h.accepted htracks hlast hcalls
    (by simp [ProtocolCall.elapsed, ProtocolCall.ends]) hcount (by simp) hticket
  rw [List.append_nil] at hkeeps
  have hcall := Metered.At.last hcalls (hkeeps.metered.trans (hlast.trans htold))
  refine hkeeps.notify hup forward rfl ?_
  intro v hv caller _ _
  rw [List.mem_singleton.mp hv]
  exact ⟨q, hq, rfl, hfair hcall caller⟩

/-- A query that comes to wait has all its time left. -/
theorem comes_to_wait (h : w.Keeps rows (q.submission :: queue) [])
    (hup : w.controller.running = true) (hq : q ∈ w.asked) (hnow : q.time = w.now)
    (htold : w.controller.worker.last = w.now)
    (htracks : worker.Tracks (rows ++
      [w.controller.worker.newRow q.ticket q.did q.request q.timeout q.time]))
    (hlast : worker.last = w.controller.worker.last)
    (hcalls : worker.protocol.calls = w.meter.calls ++
      [.queried q.did q.request q.timeout (.waiting w.meter.arbiter.nextHandle)])
    (hnext : worker.protocol.arbiter.nextHandle =
      Arbiter.handleAfter w.meter.arbiter.nextHandle) :
    (Watch.notify forward [] { w with controller := { w.controller with worker } }).Keeps
      (rows ++ [w.controller.worker.newRow q.ticket q.did q.request q.timeout q.time])
      queue [] := by
  have hcount : worker.protocol.arbiter.nextHandle =
      handleOf (worker.protocol.calls.countP ProtocolCall.isWaiting) := by
    rw [hnext, h.next, handleAfter_handleOf, hcalls, List.countP_append, List.countP_singleton]
    rfl
  have hstands : Stands q
      (w.controller.worker.newRow q.ticket q.did q.request q.timeout q.time) :=
    ⟨rfl, rfl, rfl, rfl, by rw [Asked.due, hnow, ← htold]; rfl⟩
  refine (h.accepted htracks hlast hcalls (by simp [ProtocolCall.elapsed, ProtocolCall.ends])
    hcount ?_ (by simp [Asked.submission, Submission.ticket?, Worker.newRow])).notify hup forward
      rfl (by simp)
  intro r hr
  rw [List.mem_singleton.mp hr]
  refine ⟨.new hcalls h.next, ?_, ?_, ?_, q, hq, hstands⟩
  · rw [← hstands.time, ← hstands.due, Asked.due, Nat.add_sub_cancel_left]
    refine .last hcalls ?_
    rw [hcalls, ProtocolCall.total_append, ← Nat.add_assoc, h.metered, htold, hnow]
    rfl
  · rw [htold, ← hnow]
    exact Nat.le_refl q.time
  · rw [← htold]
    exact Nat.le_add_right _ _

end Acceptance

theorem accept_query {q : Asked} (hq : q ∈ w.asked) (hnow : q.time = w.now)
    (h : w.Keeps rows (q.submission :: queue) []) (hup : w.controller.running = true)
    (hlast : w.controller.worker.last = w.now)
    (hunlapped : (w.acceptNext forward (some q.submission)).meter.Unlapped) :
    ∃ rows, (w.acceptNext forward (some q.submission)).Keeps rows queue [] := by
  have hfinal : (w.acceptNext forward (some q.submission)).meter.calls = w.meter.calls ++
      [.queried q.did q.request q.timeout (w.meter.query q.did q.request q.timeout).1] := by
    rw [acceptNext_meter hup]
    rfl
  have hfresh : (w.meter.query q.did q.request q.timeout).1 =
        .waiting w.meter.arbiter.nextHandle →
      w.meter.arbiter.nextHandle ∉ rows.map Row.handle := by
    intro hstart hin
    obtain ⟨r, hr, hhandle⟩ := List.mem_map.mp hin
    refine (h.named r hr).ne_next hfinal ?_ hunlapped (hhandle.trans h.next)
    rw [hstart]
    rfl
  have haccept := h.tracks.accept_query w.now q.ticket q.did q.request q.timeout q.time hfresh
  have hprotocol := w.controller.worker.accept_query_protocol w.now q.ticket q.did q.request
    q.timeout q.time
  generalize hanswer : w.controller.worker.accept w.now
    (.query q.ticket q.did q.request q.timeout q.time) = accepted at haccept hprotocol
  obtain ⟨notices, worker, survives⟩ := accepted
  obtain ⟨rfl, hsame, -, -, added, haccepts, htracks⟩ := haccept
  have hcalls : worker.protocol.calls = w.meter.calls ++
      [.queried q.did q.request q.timeout (w.meter.query q.did q.request q.timeout).1] := by
    rw [hprotocol]
    rfl
  have hpassed : w.acceptNext forward (some q.submission) =
      Watch.notify forward notices { w with controller := { w.controller with worker } } :=
    acceptNext_eq hup hanswer
  rw [hpassed]
  change w.controller.worker.Accepts w.now q.ticket q.did q.request q.timeout q.time
    (w.meter.query q.did q.request q.timeout).1 notices added
      worker.protocol.arbiter.nextHandle at haccepts
  generalize (w.meter.query q.did q.request q.timeout).1 = start at haccepts hcalls
  generalize hnext : worker.protocol.arbiter.nextHandle = handle at haccepts
  cases haccepts with
  | refused code =>
    rw [List.append_nil] at htracks
    exact ⟨rows, h.ends_at_once hup hq hlast htracks hsame hcalls rfl hnext fun hcall _ =>
      .refused hnow.symm hcall⟩
  | sent hzero =>
    rw [List.append_nil] at htracks
    refine ⟨rows, h.ends_at_once hup hq hlast htracks hsame hcalls rfl hnext fun hcall _ => ?_⟩
    have hnone : w.now - q.time = 0 := by rw [hnow, Nat.sub_self]
    rw [hnone]
    exact .sent ((Nat.mul_eq_zero.mp hzero).resolve_right (by decide)) hnow.symm hcall
  | waiting hpositive =>
    exact ⟨_, h.comes_to_wait hup hq hnow hlast htracks hsame hcalls hnext⟩

theorem accept_send {did : BusDeviceId} {request : BusFrame}
    (h : w.Keeps rows (.send did request :: queue) []) (hup : w.controller.running = true) :
    (w.acceptNext forward (some (.send did request))).Keeps rows queue [] := by
  have hsend := h.tracks.accept_send w.now did request
  generalize hanswer : w.controller.worker.accept w.now (.send did request) = accepted at hsend
  obtain ⟨notices, worker, survives⟩ := accepted
  obtain ⟨rfl, rfl, htracks, hlast, -, -, hnext⟩ := hsend
  have hcalls : worker.protocol.calls = w.meter.calls ++ [] := by
    have hworker := congrArg (fun answer => answer.2.1.protocol.calls) hanswer
    rw [List.append_nil]
    exact hworker.symm
  have hcount : worker.protocol.arbiter.nextHandle =
      handleOf (worker.protocol.calls.countP ProtocolCall.isWaiting) := by
    rw [hcalls, List.append_nil]
    exact hnext.trans h.next
  rw [acceptNext_eq hup hanswer]
  rw [← List.append_nil rows] at htracks ⊢
  exact (h.accepted htracks hlast hcalls (by simp) hcount (by simp)
    (by simp [Submission.ticket?])).notify hup forward rfl (by simp)

theorem acceptNext {submission : Option Submission}
    (h : w.Keeps rows (submission.toList ++ queue) [])
    (htold : w.controller.worker.last = w.now)
    (hunlapped : (w.acceptNext forward submission).meter.Unlapped) :
    ∃ rows, (w.acceptNext forward submission).Keeps rows queue [] := by
  cases submission with
  | none => exact ⟨rows, h⟩
  | some submission =>
    cases hup : w.controller.running with
    | false =>
      have hidle : w.acceptNext forward (some submission) = w := by
        simp [Watch.acceptNext, Controller.acceptNext, hup]
      rw [hidle]
      exact ⟨rows, { h with attends := fun hup' => by rw [hup] at hup'; cases hup' }⟩
    | true =>
      rcases (h.attends hup).queued submission List.mem_cons_self with hnone | ⟨q, hq, hnow, rfl⟩
      · cases submission with
        | query => cases hnone
        | send did request => exact ⟨rows, h.accept_send hup⟩
      · exact h.accept_query hq hnow hup htold hunlapped

/-- The first part of a turn, up to when everybody is told whose row is gone. -/
theorem processed {v : Worker Metered} (h : w.Keeps rows queue [])
    (hup : w.controller.running = true) (halike : v.Alike w.controller.worker)
    (forward : BusFrame → S → Option S) (frame : Option BusFrame) :
    (w.processed forward v frame).Keeps (Row.left w.now frame rows) queue [] := by
  have htracks := h.tracks.congr halike
  obtain ⟨hnotices, -⟩ := htracks.advance (halike.last ▸ h.clock) frame
  have hadvanced := h.advanced hup halike frame
  have hfair := h.advanced_fair hup halike frame
  have hgone := verdicts_turnNotices w.now frame rows
  rw [← hnotices] at hfair hgone
  exact hadvanced.notify hup forward hgone hfair

/-- Everybody hears what the protocol says of his row, as long as the worker runs. -/
theorem processed_told {v : Worker Metered} (h : w.Keeps rows queue [])
    (hup : w.controller.running = true) (halike : v.Alike w.controller.worker)
    {frame : Option BusFrame}
    (hstill : (w.processed forward v frame).controller.running = true) {verdict : Verdict}
    (hverdict : verdict ∈ (Worker.turnNotices w.now frame rows).filterMap Notice.verdict?)
    {caller : Caller} (hcaller : caller ∈ w.controller.callers)
    (hticket : caller.ticket = verdict.ticket) :
    (verdict.ticket, verdict.result caller) ∈
      (w.processed forward v frame).controller.ended := by
  have htracks := h.tracks.congr halike
  obtain ⟨hnotices, -⟩ := htracks.advance (halike.last ▸ h.clock) frame
  have hadvanced := h.advanced hup halike frame
  have honce := ((hadvanced.attends hup).callers.nodup_iff.mp hadvanced.callers_nodup)
  rw [← verdicts_turnNotices, ← hnotices] at honce
  rw [← hnotices] at hverdict
  rcases Controller.pass_finished hadvanced.callers_nodup forward (v.advance w.now frame).1
    w.hub with hfinished | ⟨-, verdicts, hfinished, -⟩
  · exact hfinished.told hadvanced.held_nodup (List.nodup_append.mp honce).1 hverdict hcaller
      hticket
  · have hdown : (w.processed forward v frame).controller.running = false := hfinished.running
    rw [hdown] at hstill
    cases hstill

theorem turn (h : w.Keeps rows w.controller.worker.submissions [])
    (hunlapped : (w.turn forward).meter.Unlapped) :
    ∃ rows, (w.turn forward).Keeps rows (w.turn forward).controller.worker.submissions [] := by
  rcases turn_cases forward w with
    ⟨hturn, -⟩ | ⟨hup, v, frame, submission, halike, hqueue, hturn⟩
  · rw [hturn]
    exact ⟨rows, h⟩
  · obtain ⟨hsubmissions, -⟩ := acceptNext_rest forward submission (w.processed forward v frame)
    rw [hqueue] at h
    have hprocessed := h.processed hup halike forward frame
    rw [hturn] at hunlapped ⊢
    rw [hsubmissions, processed_worker]
    refine hprocessed.acceptNext ?_ hunlapped
    rw [processed_worker]
    rfl

end Keeps

end Watch

end HomeGateway
