import Mathlib
import HomeGateway.Proofs.Bus.Attendance
import HomeGateway.Proofs.Bus.RoundTrip

/-!
Deadlines of queries. Whatever happens in between, a query ends with its answer when the worker
deals with that, or with the end of its time, neither earlier nor later; its caller never has to
give up. This holds as long as the handle of no query that waits is given out again.
-/

namespace HomeGateway

namespace Watch

variable {S : Type} {w next : Watch S} {rows : List Row} {queue : List Submission}
  {gone : List Nat} {forward : BusFrame → S → Option S}

/-- What is promised in every state. -/
structure Timely (forward : BusFrame → S → Option S) (w : Watch S) : Prop where
  /-- The protocol was told of all the time up to when it was last told. -/
  metered : w.start + ProtocolCall.total w.meter.calls = w.controller.worker.last
  /-- And is told of the rest whenever the worker takes a turn. -/
  told : w.controller.isWoken w.now = true → ∃ elapsed frame events rest,
    (w.step forward .turn).meter.calls =
        w.meter.calls ++ .processed elapsed frame events :: rest ∧
      w.start + ProtocolCall.total w.meter.calls + elapsed = w.now
  /-- Of a query's time, just the time since it was asked is gone. -/
  charged : ∀ o ∈ w.meter.arbiter.outstanding,
    ∃ p ∈ w.controller.worker.parked, p.handle = o.handle ∧
      ∃ q ∈ w.asked, q.ticket = p.ticket ∧ q.did = o.did ∧ q.request = o.request ∧
        q.time ≤ w.controller.worker.last ∧
          o.remaining + (w.controller.worker.last - q.time) = q.timeout
  distinct : (w.asked.map Asked.ticket).Nodup
  once : (w.ended.map Ending.ticket).Nodup
  ends : ∀ e ∈ w.ended, ∃ q ∈ w.asked, q.ticket = e.ticket ∧ w.FairEnd q e.time e.result
  inTime : ∀ q ∈ w.asked, q.ticket ∉ w.ended.map Ending.ticket →
    w.controller.running = true ∧ w.now ≤ q.due
  /-- A query that is due wakes the worker, and is over with its next turn. -/
  prompt : ∀ q ∈ w.asked, q.ticket ∉ w.ended.map Ending.ticket → 0 < q.timeoutMs →
    w.now = q.due → w.controller.isWoken w.now = true ∧
      q.ticket ∈ (w.step forward .turn).ended.map Ending.ticket
  /-- Whatever the protocol reports of a query in the next turn, its caller is told then, unless
  telemetry brings the worker down. -/
  attributed : ∀ elapsed frame events rest handle status response,
    (w.step forward .turn).meter.calls =
        w.meter.calls ++ .processed elapsed frame events :: rest →
      .completed handle status response ∈ events →
        ∃ p ∈ w.controller.worker.parked, p.handle = handle ∧
          ∃ caller ∈ w.controller.callers, caller.ticket = p.ticket ∧
            ∃ q ∈ w.asked, q.ticket = p.ticket ∧ q.time = p.submitted ∧
              q.timeoutMs = caller.timeoutMs ∧
                ((w.step forward .turn).controller.running = true →
                  { time := w.now
                    ticket := q.ticket
                    result :=
                      Controller.replyOf (.completed status response) (w.now - q.time) caller } ∈
                    (w.step forward .turn).ended)
  patient : ∀ timeoutMs, .unresponsive timeoutMs ∉ w.refused

namespace Keeps

/-- Whoever waits has a row, or a submission in the queue. -/
theorem asked_cases (h : w.Keeps rows queue []) {q : Asked} (hq : q ∈ w.asked)
    (hwaits : q.ticket ∈ w.controller.callers.map Caller.ticket) :
    w.controller.running = true ∧ ((∃ r ∈ rows, Stands q r) ∨ q.time = w.now) := by
  have hup : w.controller.running = true := by
    by_contra hdown
    rw [h.nobody (by simpa using hdown)] at hwaits
    cases hwaits
  have hattends := h.attends hup
  have hin := hattends.callers.subset hwaits
  rw [List.nil_append, List.mem_append] at hin
  refine ⟨hup, ?_⟩
  rcases hin with hrow | hqueued
  · obtain ⟨r, hr, hticket⟩ := List.mem_map.mp hrow
    obtain ⟨-, q', hq', hstands⟩ := h.stands r hr
    rw [h.eq_of_ticket hq' hq (hstands.ticket.trans hticket)] at hstands
    exact .inl ⟨r, hr, hstands⟩
  · obtain ⟨submission, hsubmission, hticket⟩ := List.mem_filterMap.mp hqueued
    rcases hattends.queued submission hsubmission with hnone | ⟨q', hq', hnow, rfl⟩
    · rw [hnone] at hticket
      cases hticket
    · rw [← h.eq_of_ticket hq' hq (Option.some.inj hticket)]
      exact .inr hnow

/-- Whoever waits has time left. -/
theorem in_time (h : w.Keeps rows queue []) {q : Asked} (hq : q ∈ w.asked)
    (hwaits : q.ticket ∈ w.controller.callers.map Caller.ticket) :
    w.controller.running = true ∧ w.now ≤ q.due := by
  obtain ⟨hup, ⟨r, hr, hstands⟩ | hnow⟩ := h.asked_cases hq hwaits
  · exact ⟨hup, hstands.due ▸ (h.attends hup).inTime r hr⟩
  · exact ⟨hup, hnow ▸ Nat.le_add_right _ _⟩

theorem early (h : w.Keeps rows queue []) :
    ∀ caller ∈ w.controller.callers, w.now < caller.deadline := by
  intro caller hcaller
  obtain ⟨q, hq, hticket, -, hdeadline⟩ := h.callers caller hcaller
  obtain ⟨-, hdue⟩ := h.in_time hq (hticket ▸ List.mem_map_of_mem hcaller)
  rw [hdeadline]
  exact Nat.lt_of_le_of_lt hdue (Nat.lt_add_of_pos_right h.tolerant)

/-- Nobody ever gives up. -/
theorem act_giveUp (h : w.Keeps rows queue []) : w.act forward .giveUp = w := by
  change { w with controller := w.controller.giveUp w.now } = w
  rw [Controller.giveUp_eq_self h.early]

/-- A query is taken in. -/
theorem query (did : BusDeviceId) (request : BusFrame) (timeoutMs : Nat)
    (h : w.Keeps rows w.controller.worker.submissions []) :
    (w.query did request timeoutMs).Keeps rows
      (w.query did request timeoutMs).controller.worker.submissions [] := by
  unfold Watch.query
  rcases Controller.query_cases did request timeoutMs w.now h.tolerant with
    ⟨e, hclear, hrefused⟩ | ⟨hup, slot, pending, hqueued⟩
  · rw [hrefused]
    refine
      { h with
        ends := h.fair_ends (fun _ => id) (fun _ => id) rfl (List.prefix_refl _) id
        attends := fun hup => (h.attends hup).congr rfl rfl rfl
        patient := ?_ }
    intro ms hin
    rcases List.mem_append.mp hin with hold | hnew
    · exact h.patient ms hold
    · exact hclear ms (List.mem_singleton.mp hnew).symm
  · rw [hqueued]
    have hattends := h.attends hup
    refine
      { h with
        tracks := h.tracks.congr ⟨rfl, rfl, rfl⟩
        tickets := ?_
        stands := ?_
        callers := ?_
        held := ?_
        ends := h.fair_ends (fun _ => id) (fun _ => List.mem_append_left _) rfl
          (List.prefix_refl _) id
        attends := fun _ => ⟨?_, hattends.inTime, ?_⟩
        nobody := fun hdown => ?_ }
    · rw [List.map_append, h.tickets]
      exact List.range_succ.symm
    · intro r hr
      obtain ⟨hsince, q, hq, hstands⟩ := h.stands r hr
      exact ⟨hsince, q, List.mem_append_left _ hq, hstands⟩
    · intro caller hcaller
      rcases List.mem_append.mp hcaller with hold | hnew
      · obtain ⟨q, hq, hrest⟩ := h.callers caller hold
        exact ⟨q, List.mem_append_left _ hq, hrest⟩
      · rw [List.mem_singleton.mp hnew]
        exact ⟨_, List.mem_append_right _ (List.mem_singleton.mpr rfl), rfl, rfl,
          (Nat.add_assoc _ _ _).symm⟩
    · have hperm := h.held
      simp only [Controller.held, List.map_append, List.map_singleton, List.append_assoc,
        List.singleton_append] at hperm ⊢
      exact List.perm_middle.trans
        ((hperm.cons _).trans (List.perm_append_singleton _ _).symm)
    · have hperm := hattends.callers
      simp only [List.map_append, List.filterMap_append, List.nil_append, List.map_singleton]
        at hperm ⊢
      rw [← List.append_assoc]
      exact hperm.append_right _
    · intro submission hsubmission
      rcases List.mem_append.mp hsubmission with hold | hnew
      · refine (hattends.queued submission hold).imp_right ?_
        rintro ⟨q, hq, hrest⟩
        exact ⟨q, List.mem_append_left _ hq, hrest⟩
      · rw [List.mem_singleton.mp hnew]
        exact .inr ⟨_, List.mem_append_right _ (List.mem_singleton.mpr rfl), rfl, rfl⟩
    · rw [hup] at hdown
      cases hdown

theorem of_mayPass {time : Duration} (hmay : w.mayPass time = true)
    (hup : w.controller.running = true) :
    w.controller.worker.submissions = [] ∧
      ∀ alarm, w.controller.worker.deadline = some alarm → w.now + time ≤ alarm := by
  unfold Watch.mayPass Controller.isWoken Worker.isWoken at hmay
  simp only [hup, if_true, Bool.true_and, Bool.and_eq_true, Bool.not_eq_true',
    Bool.or_eq_false_iff, Bool.not_eq_false', List.isEmpty_iff] at hmay
  obtain ⟨⟨⟨-, hqueue⟩, -⟩, halarm⟩ := hmay
  refine ⟨hqueue, ?_⟩
  intro alarm hdeadline
  rw [hdeadline] at halarm
  simpa using halarm

/-- Time passes. -/
theorem pass {time : Duration} (hmay : w.mayPass time = true)
    (hsettled : w.controller.ended = []) (h : w.Keeps rows w.controller.worker.submissions []) :
    Keeps { w with now := w.now + time } rows w.controller.worker.submissions [] := by
  have hendings : ∀ e ∈ Watch.endings { w with now := w.now + time }, e ∈ w.endings := by
    simp [Watch.endings, Controller.takeEnded, hsettled]
  refine
    { h with
      clock := h.clock.trans (Nat.le_add_right _ _)
      ends := h.fair_ends hendings (fun _ => id) rfl (List.prefix_refl _) id
      attends := fun hup => ⟨(h.attends hup).callers, ?_, ?_⟩ }
  · intro r hr
    obtain ⟨alarm, hdeadline, hdue⟩ := h.tracks.deadline hr
    exact ((of_mayPass hmay hup).2 alarm hdeadline).trans hdue
  · rw [(of_mayPass hmay hup).1]
    simp

theorem onArbiter {f : Arbiter → Arbiter} (houtstanding : ∀ a, (f a).outstanding = a.outstanding)
    (hnext : ∀ a, (f a).nextHandle = a.nextHandle) (h : w.Keeps rows queue []) :
    (w.onArbiter f).Keeps rows queue [] :=
  { h with
    tracks :=
      { h.tracks with outstanding := (houtstanding _).trans h.tracks.outstanding }
    next := (hnext _).trans h.next
    ends := h.fair_ends (fun _ => id) (fun _ => id) rfl (List.prefix_refl _) id
    attends := fun hup => (h.attends hup).congr rfl rfl rfl }

theorem send (did : BusDeviceId) (request : BusFrame)
    (h : w.Keeps rows w.controller.worker.submissions []) :
    Keeps { w with controller := (w.controller.send did request).2 } rows
      (w.controller.send did request).2.worker.submissions [] := by
  rcases w.controller.send_cases did request with hsame | hqueued
  · rw [hsame]
    exact h
  · rw [hqueued]
    refine
      { h with
        tracks := h.tracks.congr ⟨rfl, rfl, rfl⟩
        ends := h.fair_ends (fun _ => id) (fun _ => id) rfl (List.prefix_refl _) id
        attends := fun hup => ⟨?_, (h.attends hup).inTime, ?_⟩ }
    · have hnone : [Submission.send did request].filterMap Submission.ticket? = [] := rfl
      rw [List.filterMap_append, hnone, List.append_nil]
      exact (h.attends hup).callers
    · intro submission hsubmission
      rcases List.mem_append.mp hsubmission with hold | hnew
      · exact (h.attends hup).queued submission hold
      · rw [List.mem_singleton.mp hnew]
        exact .inl rfl

theorem deliver (frame : RawFrame) (h : w.Keeps rows w.controller.worker.submissions []) :
    Keeps { w with controller := (w.controller.deliver frame).2 } rows
      (w.controller.deliver frame).2.worker.submissions [] := by
  rcases w.controller.deliver_cases frame with hsame | hqueued
  · rw [hsame]
    exact h
  · rw [hqueued]
    exact
      { h with
        tracks := h.tracks.congr ⟨rfl, rfl, rfl⟩
        ends := h.fair_ends (fun _ => id) (fun _ => id) rfl (List.prefix_refl _) id
        attends := fun hup => (h.attends hup).congr rfl rfl rfl }

/-- Somebody asks what ended. -/
theorem collect (h : w.Keeps rows queue []) :
    Keeps { w with controller := w.controller.takeEnded.2, ended := w.endings } rows queue [] := by
  have hendings : ∀ e ∈ Watch.endings
      { w with controller := w.controller.takeEnded.2, ended := w.endings }, e ∈ w.endings := by
    simp [Watch.endings, Controller.takeEnded]
  refine
    { h with
      held := ?_
      ends := h.fair_ends hendings (fun _ => id) rfl (List.prefix_refl _) id
      attends := fun hup => (h.attends hup).congr rfl rfl rfl }
  refine List.Perm.trans ?_ h.held
  simp only [Controller.held, Controller.takeEnded, Watch.endings, List.map_append, List.map_map,
    List.map_nil, List.append_nil, List.append_assoc, Function.comp_def]
  exact List.perm_append_comm.append_left _

/-- Each step keeps the invariant. -/
theorem step (event : WatchStep) (hsettled : w.controller.ended = [])
    (h : w.Keeps rows w.controller.worker.submissions [])
    (hunlapped : (w.step forward event).meter.Unlapped) :
    ∃ rows, (w.step forward event).Keeps rows
      (w.step forward event).controller.worker.submissions [] := by
  have hact : ∃ rows, (w.act forward event).Keeps rows
      (w.act forward event).controller.worker.submissions [] := by
    cases event with
    | query did request timeoutMs => exact ⟨rows, h.query did request timeoutMs⟩
    | send did request => exact ⟨rows, h.send did request⟩
    | deliver frame => exact ⟨rows, h.deliver frame⟩
    | pass time =>
      by_cases hmay : w.mayPass time = true
      · have hpassed : w.act forward (.pass time) = { w with now := w.now + time } := if_pos hmay
        rw [hpassed]
        exact ⟨rows, h.pass hmay hsettled⟩
      · have hstays : w.act forward (.pass time) = w := if_neg hmay
        rw [hstays]
        exact ⟨rows, h⟩
    | turn => exact h.turn hunlapped
    | giveUp =>
      rw [h.act_giveUp]
      exact ⟨rows, h⟩
    | drain => exact ⟨rows, h.onArbiter (f := fun a => a.drain.2) (fun _ => rfl) fun _ => rfl⟩
    | disconnect => exact ⟨rows, h.onArbiter (fun _ => rfl) fun _ => rfl⟩
    | shutdown =>
      have hstopped := h.stop
      rw [← w.controller.stop_later.worker] at hstopped
      exact ⟨rows, hstopped⟩
  obtain ⟨rows, hkeeps⟩ := hact
  exact ⟨rows, hkeeps.collect⟩

/-- Who is not over waits. -/
theorem waits_of_not_ended (h : w.Keeps rows queue gone) {q : Asked} (hq : q ∈ w.asked)
    (hopen : q.ticket ∉ w.endings.map Ending.ticket) :
    q.ticket ∈ w.controller.callers.map Caller.ticket := by
  have hin := h.held.symm.subset (List.mem_map_of_mem hq)
  simp only [Controller.held, List.mem_append] at hin
  rcases hin with (hwaits | hover) | hended
  · exact hwaits
  · refine absurd ?_ hopen
    obtain ⟨⟨ticket, result⟩, hpair, hticket⟩ := List.mem_map.mp hover
    exact List.mem_map.mpr
      ⟨{ time := w.now, ticket, result }, mem_endings.mpr (.inr ⟨rfl, hpair⟩), hticket⟩
  · refine absurd ?_ hopen
    obtain ⟨e, he, hticket⟩ := List.mem_map.mp hended
    exact List.mem_map.mpr ⟨e, mem_endings.mpr (.inl he), hticket⟩

/-- A query that is due is over once the worker dealt with that time. -/
theorem due_ended {v : Worker Metered} (h : w.Keeps rows queue [])
    (hup : w.controller.running = true) (halike : v.Alike w.controller.worker)
    (forward : BusFrame → S → Option S) (frame : Option BusFrame) {q : Asked}
    (hq : q ∈ w.asked) (hwaits : 0 < q.timeoutMs) (hdue : w.now = q.due) :
    q.ticket ∈ (w.processed forward v frame).endings.map Ending.ticket := by
  by_contra hopen
  have hprocessed := h.processed hup halike forward frame
  obtain ⟨-, ⟨r, hr, hstands⟩ | hnow⟩ :=
    hprocessed.asked_cases hq (hprocessed.waits_of_not_ended hq hopen)
  · have hlater := of_decide_eq_true (List.mem_filter.mp hr).2
    rw [← hstands.due, hdue] at hlater
    exact Nat.lt_irrefl _ hlater
  · change q.time = w.now at hnow
    exact absurd (hnow.trans hdue) (Nat.ne_of_lt (Asked.time_lt_due hwaits))

/-- The protocol is told first of all. -/
theorem turn_calls {v : Worker Metered} {frame : Option BusFrame}
    {submission : Option Submission} (h : w.Keeps rows queue [])
    (halike : v.Alike w.controller.worker)
    (hturn : w.turn forward = (w.processed forward v frame).acceptNext forward submission) :
    ∃ rest, (w.step forward .turn).meter.calls = w.meter.calls ++
      .processed (w.now - w.controller.worker.last) frame
        (Worker.turnEvents w.now frame rows) :: rest := by
  obtain ⟨-, -, ⟨rest, hrest, -⟩, -⟩ :=
    acceptNext_rest forward submission (w.processed forward v frame)
  have hprocessed : (w.processed forward v frame).meter = (w.advanced v frame).meter :=
    congrArg Worker.protocol (processed_worker forward w v frame)
  have hsame : (w.step forward .turn).meter = (w.turn forward).meter := rfl
  rw [hprocessed, h.advanced_calls halike frame, ← hturn, ← hsame,
    List.append_assoc] at hrest
  exact ⟨rest, hrest⟩

/-- What ended in the first part of a turn did end. -/
theorem turn_endings {v : Worker Metered} {frame : Option BusFrame}
    {submission : Option Submission}
    (hturn : w.turn forward = (w.processed forward v frame).acceptNext forward submission)
    {e : Ending} (he : e ∈ (w.processed forward v frame).endings) :
    e ∈ (w.step forward .turn).ended := by
  obtain ⟨-, -, -, -, hended⟩ := acceptNext_rest forward submission (w.processed forward v frame)
  change e ∈ (w.turn forward).endings
  rw [hturn]
  rcases mem_endings.mp he with hold | ⟨htime, hnew⟩
  · exact mem_endings.mpr (.inl hold)
  · exact mem_endings.mpr (.inr ⟨htime, hended _ hnew⟩)

/-- A query that is due wakes the worker. -/
theorem due_wakes (h : w.Keeps rows queue []) {q : Asked} (hq : q ∈ w.asked)
    (hwaits : q.ticket ∈ w.controller.callers.map Caller.ticket) (hpositive : 0 < q.timeoutMs)
    (hdue : w.now = q.due) : w.controller.isWoken w.now = true := by
  obtain ⟨hup, ⟨r, hr, hstands⟩ | hnow⟩ := h.asked_cases hq hwaits
  · obtain ⟨alarm, hdeadline, hle⟩ := h.tracks.deadline hr
    rw [← hstands.due, ← hdue] at hle
    simp [Controller.isWoken, Worker.isWoken, hup, hdeadline, hle]
  · exact absurd (hnow.trans hdue) (Nat.ne_of_lt (Asked.time_lt_due hpositive))

/-- Whatever keeps the invariant is timely. -/
theorem timely (h : w.Keeps rows w.controller.worker.submissions [])
    (hsettled : w.controller.ended = []) : w.Timely forward where
  metered := h.metered
  told := by
    intro hwoken
    rcases turn_cases forward w with
      ⟨-, hasleep⟩ | ⟨-, v, frame, submission, halike, -, hturn⟩
    · rw [hasleep] at hwoken
      cases hwoken
    · obtain ⟨rest, hcalls⟩ := h.turn_calls halike hturn
      refine ⟨_, _, _, rest, hcalls, ?_⟩
      rw [h.metered]
      exact Nat.add_sub_of_le h.clock
  charged := by
    intro o ho
    have houtstanding := h.tracks.outstanding
    change w.meter.arbiter.outstanding = _ at houtstanding
    rw [houtstanding] at ho
    obtain ⟨r, hr, rfl⟩ := List.mem_map.mp ho
    obtain ⟨hsince, q, hq, hstands⟩ := h.stands r hr
    have hahead := h.tracks.ahead r hr
    have hparked : r.parked ∈ w.controller.worker.parked := by
      rw [h.tracks.parked]
      exact List.mem_map_of_mem hr
    refine ⟨r.parked, hparked, rfl, q, hq, hstands.ticket, hstands.did, hstands.request,
      hstands.time ▸ hsince, ?_⟩
    have hdue := hstands.due
    rw [← hstands.time] at hsince
    simp only [Row.outstanding, Asked.due] at hdue ⊢
    lia
  distinct := h.distinct
  once := (List.nodup_append.mp (h.held.nodup_iff.mpr h.distinct)).2.1
  ends e he := h.ends e (mem_endings.mpr (.inl he))
  inTime := by
    intro q hq hopen
    refine h.in_time hq (h.waits_of_not_ended hq ?_)
    simpa [Watch.endings, Controller.takeEnded, hsettled] using hopen
  prompt := by
    intro q hq hopen hpositive hdue
    have hwaits := h.waits_of_not_ended hq
      (by simpa [Watch.endings, Controller.takeEnded, hsettled] using hopen)
    have hwoken := h.due_wakes hq hwaits hpositive hdue
    refine ⟨hwoken, ?_⟩
    rcases turn_cases forward w with
      ⟨-, hasleep⟩ | ⟨hup, v, frame, submission, halike, -, hturn⟩
    · rw [hasleep] at hwoken
      cases hwoken
    · have hended := h.due_ended hup halike forward frame hq hpositive hdue
      obtain ⟨e, he, hticket⟩ := List.mem_map.mp hended
      exact List.mem_map.mpr ⟨e, turn_endings hturn he, hticket⟩
  attributed := by
    intro elapsed frame events rest handle status response hcalls hevent
    rcases turn_cases forward w with
      ⟨hturn, -⟩ | ⟨hup, v, frame', submission, halike, -, hturn⟩
    · change (w.turn forward).meter.calls = _ at hcalls
      rw [hturn] at hcalls
      simp at hcalls
    · obtain ⟨rest', hcalls'⟩ := h.turn_calls halike hturn
      rw [hcalls] at hcalls'
      obtain ⟨hcall, -⟩ := List.cons.inj (List.append_cancel_left hcalls')
      cases hcall
      obtain ⟨r, hr, rfl, hnotice⟩ := Worker.completion_of_event hevent
      obtain ⟨-, q, hq, hstands⟩ := h.stands r hr
      have hticket : r.ticket ∈ w.controller.callers.map Caller.ticket :=
        (h.attends hup).callers.symm.subset
          (List.mem_append_right [] (List.mem_append_left _ (List.mem_map_of_mem hr)))
      obtain ⟨caller, hcaller, hsame⟩ := List.mem_map.mp hticket
      obtain ⟨q', hq', hticket', htimeout, -⟩ := h.callers caller hcaller
      have hasker : q' = q :=
        h.eq_of_ticket hq' hq (hticket'.trans (hsame.trans hstands.ticket.symm))
      refine ⟨r.parked, ?_, rfl, caller, hcaller, hsame, q, hq, hstands.ticket, hstands.time,
        hasker ▸ htimeout, ?_⟩
      · rw [h.tracks.parked]
        exact List.mem_map_of_mem hr
      · intro hstill
        obtain ⟨-, -, -, hrunning, -⟩ :=
          acceptNext_rest forward submission (w.processed forward v frame)
        have hstill' : (w.turn forward).controller.running = true := hstill
        rw [hturn] at hstill'
        have htold := h.processed_told hup halike (hrunning hstill')
          (List.mem_filterMap.mpr ⟨_, hnotice, rfl⟩) hcaller hsame
        refine turn_endings hturn (mem_endings.mpr (.inr ⟨rfl, ?_⟩))
        rw [hstands.ticket, hstands.time]
        exact htold
  patient := h.patient

end Keeps

theorem open_keeps {depth : Nat} {config : BusConfig} {hub : S} {now : Instant}
    (hopen : open? depth config hub now = .ok w) (htolerant : 0 < config.toleranceMs) :
    w.Keeps [] w.controller.worker.submissions [] ∧ w.controller.ended = [] := by
  unfold Watch.open? Controller.start at hopen
  cases hcheck : config.check with
  | error e =>
    rw [hcheck] at hopen
    cases hopen
  | ok checked =>
    rw [hcheck] at hopen
    cases hopen
    have htolerant' : 0 < config.toleranceMs.toNat := htolerant
    refine ⟨?_, rfl⟩
    exact
      { tolerant := Nat.mul_pos htolerant' (by decide)
        tracks := Worker.start_tracks rfl now
        clock := Nat.le_refl now
        metered := rfl
        next := rfl
        named := by simp
        handled := by simp
        tickets := rfl
        stands := by simp
        callers := by simp
        held := List.Perm.refl []
        ends := by simp [Watch.endings, Controller.takeEnded]
        attends := fun _ => ⟨List.Perm.refl [], by simp, by simp [Worker.start]⟩
        nobody := fun _ => rfl
        patient := by simp }

theorem run_append (first second : List WatchStep) (w : Watch S) :
    run forward (first ++ second) w = run forward second (run forward first w) :=
  List.foldl_append

/-- Whole runs keep the invariant, as long as no query is lapped. -/
theorem run_keeps {depth : Nat} {config : BusConfig} {hub : S} {now : Instant}
    (hopen : open? depth config hub now = .ok w) (htolerant : 0 < config.toleranceMs)
    (steps : List WatchStep)
    (hunlapped : ∀ first, first <+: steps → (run forward first w).meter.Unlapped) :
    (∃ rows, (run forward steps w).Keeps rows
        (run forward steps w).controller.worker.submissions []) ∧
      (run forward steps w).controller.ended = [] := by
  induction steps using List.reverseRecOn with
  | nil =>
    obtain ⟨hkeeps, hsettled⟩ := open_keeps hopen htolerant
    exact ⟨⟨[], hkeeps⟩, hsettled⟩
  | append_singleton steps event ih =>
    obtain ⟨⟨rows, hkeeps⟩, hsettled⟩ := ih fun first hfirst =>
      hunlapped first (hfirst.trans (List.prefix_append steps [event]))
    have hlast := hunlapped (steps ++ [event]) (List.prefix_refl _)
    rw [run_append] at hlast ⊢
    exact ⟨hkeeps.step event hsettled hlast, rfl⟩

/-- A turn calls the protocol twice at most. -/
theorem turn_calls_le (forward : BusFrame → S → Option S) (w : Watch S) :
    (w.turn forward).meter.calls.length ≤ w.meter.calls.length + 2 := by
  rcases turn_cases forward w with
    ⟨hturn, -⟩ | ⟨-, v, frame, submission, halike, -, hturn⟩
  · rw [hturn]
    exact Nat.le_add_right _ 2
  · obtain ⟨-, -, ⟨more, hmore, hlength⟩, -⟩ :=
      acceptNext_rest forward submission (w.processed forward v frame)
    have hprocessed : (w.processed forward v frame).meter.calls.length =
        w.meter.calls.length + 1 := by
      unfold Watch.meter
      rw [processed_worker]
      change (v.protocol.calls ++ [_]).length = _
      rw [halike.protocol, List.length_append, List.length_singleton]
    rw [hturn, hmore, List.length_append, hprocessed]
    omega

/-- Nothing else calls it. -/
theorem step_calls_le (forward : BusFrame → S → Option S) (w : Watch S) (event : WatchStep) :
    (w.step forward event).meter.calls.length ≤ w.meter.calls.length + 2 := by
  have hidle {next : Watch S}
      (hsame : next.controller.worker.protocol.calls = w.controller.worker.protocol.calls) :
      next.meter.calls.length ≤ w.meter.calls.length + 2 := by
    unfold Watch.meter
    rw [hsame]
    exact Nat.le_add_right _ 2
  change (w.act forward event).meter.calls.length ≤ _
  cases event with
  | query did request timeoutMs =>
    have hprotocol := w.controller.query_protocol did request timeoutMs w.now
    apply hidle
    change (w.query did request timeoutMs).controller.worker.protocol.calls = _
    rw [← hprotocol]
    unfold Watch.query
    split <;> rename_i hquery <;> rw [hquery]
  | send did request =>
    apply hidle
    rcases w.controller.send_cases did request with hsame | hqueued
    · exact congrArg (fun c => c.worker.protocol.calls) hsame
    · exact congrArg (fun c => c.worker.protocol.calls) hqueued
  | deliver frame =>
    apply hidle
    rcases w.controller.deliver_cases frame with hsame | hqueued
    · exact congrArg (fun c => c.worker.protocol.calls) hsame
    · exact congrArg (fun c => c.worker.protocol.calls) hqueued
  | pass time =>
    apply hidle
    unfold Watch.act
    dsimp only
    split <;> rfl
  | turn => exact w.turn_calls_le forward
  | giveUp =>
    apply hidle
    change (w.controller.giveUp w.now).worker.protocol.calls = _
    rw [Controller.giveUp_eq, (Controller.finishAll_later _ _).worker]
  | shutdown => exact hidle (congrArg (fun v => v.protocol.calls) w.controller.stop_later.worker)
  | drain => exact Nat.le_add_right _ 2
  | disconnect => exact Nat.le_add_right _ 2

theorem run_calls_le (forward : BusFrame → S → Option S) (steps : List WatchStep) (w : Watch S) :
    (run forward steps w).meter.calls.length ≤ w.meter.calls.length + 2 * steps.length := by
  induction steps generalizing w with
  | nil => exact Nat.le_refl _
  | cons event rest ih =>
    have hrest := ih (w.step forward event)
    have hfirst := w.step_calls_le forward event
    change (run forward rest (w.step forward event)).meter.calls.length ≤ _
    rw [List.length_cons]
    omega

/-- It takes very many steps to lap a query. -/
theorem run_unlapped {depth : Nat} {config : BusConfig} {hub : S} {now : Instant}
    (hopen : open? depth config hub now = .ok w) (forward : BusFrame → S → Option S)
    {steps : List WatchStep} (hshort : 2 * steps.length < 0xFFFFFFFF) :
    ∀ first, first <+: steps → (run forward first w).meter.Unlapped := by
  intro first hfirst
  apply Metered.unlapped_of_length
  have hnew : w.meter.calls = [] := by
    unfold Watch.open? Controller.start at hopen
    split at hopen
    · cases hopen
    · cases hopen
      rfl
  have hcalls := run_calls_le forward first w
  have hcount : (run forward first w).meter.calls.countP ProtocolCall.isWaiting ≤ _ :=
    List.countP_le_length
  have hlength := hfirst.length_le
  rw [hnew, List.length_nil] at hcalls
  omega

/-- Every query of every run ends in time, as long as none is lapped. -/
theorem run_timely {depth : Nat} {config : BusConfig} {hub : S} {now : Instant}
    (hopen : open? depth config hub now = .ok w) (htolerant : 0 < config.toleranceMs)
    (forward : BusFrame → S → Option S) (steps : List WatchStep)
    (hunlapped : ∀ first, first <+: steps → (run forward first w).meter.Unlapped) :
    (run forward steps w).Timely forward := by
  obtain ⟨⟨rows, hkeeps⟩, hsettled⟩ := run_keeps hopen htolerant steps hunlapped
  exact hkeeps.timely hsettled

/-- The bus was idle for long; of two queries then, one gets an answer. -/
def idleThenBusy : List WatchStep :=
  [.query ⟨1⟩ (.telemetryQuery ⟨1⟩ .app0) 0, .turn, .pass 10000000000,
    .query ⟨1⟩ (.telemetryQuery ⟨1⟩ .app0) 100, .turn, .pass 40000000,
    .query ⟨2⟩ (.telemetryQuery ⟨2⟩ .app0) 80, .turn, .pass 30000000,
    .deliver { id := 21, data := [] }, .turn, .pass 30000000, .turn, .giveUp]

theorem run_timely_idleThenBusy : ∃ w, open? 4 {} () 0 = .ok w ∧
    0 < ({} : BusConfig).toleranceMs ∧
      (run (fun _ s => some s) idleThenBusy w).Timely fun _ s => some s := by
  have hopen : open? 4 {} () 0 = .ok _ := rfl
  have htolerant : 0 < ({} : BusConfig).toleranceMs := by decide
  exact ⟨_, hopen, htolerant, run_timely hopen htolerant _ idleThenBusy
    (run_unlapped hopen _ (by decide))⟩

example : ∃ w, open? 4 {} () 0 = .ok w ∧
    (run (fun _ s => some s) idleThenBusy w).ended.map (fun e => (e.time, e.ticket)) =
      [(0, 0), (10070000000, 2), (10100000000, 1)] :=
  ⟨_, rfl, by decide⟩

/-! A query that is lapped. One device does not answer; another is asked meanwhile, again and again,
and answers at once. -/

/-- A request for telemetry that no hub takes. -/
def poll (did : BusDeviceId) : BusFrame := .telemetryQuery did .app0

/-- The answer of the other device. -/
def pollAnswer : RawFrame := { id := 21, data := [] }

def lap : List WatchStep :=
  [.query ⟨2⟩ (poll ⟨2⟩) 100, .turn, .drain, .deliver pollAnswer, .turn]

/-- The silent device is asked, and then the other one, `laps` times and once more. -/
def lapping (laps : Nat) : List WatchStep :=
  [.query ⟨1⟩ (poll ⟨1⟩) 100, .turn, .drain] ++ (List.replicate laps lap).flatten ++
    [.query ⟨2⟩ (poll ⟨2⟩) 100, .turn]

/-- The query of the silent device. -/
def silentQuery : Asked :=
  { ticket := 0, did := ⟨1⟩, request := poll ⟨1⟩, timeoutMs := 100, time := 0 }

/-- The controller at first. -/
def unasked : Controller Arbiter :=
  { config := {}
    pending := .new "pending query" 4
    worker := .start (.new 1) 0
    running := true
    callers := []
    nextTicket := 0
    ended := [] }

def onTheWay (did : BusDeviceId) : TransmitQueue :=
  { depth := 1, frames := [(poll did).toRaw], isOpen := true }

/-- The controller while only the silent device is asked. -/
def unanswered : Controller Arbiter :=
  (unasked.asking 0 0 [1, 2, 3] ⟨1⟩ (poll ⟨1⟩) 100 (onTheWay ⟨1⟩)).drained

theorem unasked_rests : unasked.Rests 0 0 [1, 2, 3] where
  running := rfl
  frames := rfl
  submissions := rfl
  last := rfl
  ahead := by simp [unasked, Worker.start, Arbiter.new]
  free := rfl
  submissionDepth := by decide
  frameDepth := by decide

theorem unanswered_rests (handle : QueryHandle) (ticket : Nat) :
    (unanswered.renamed handle ticket).Rests 0 1 [2, 3] where
  running := rfl
  frames := rfl
  submissions := rfl
  last := rfl
  ahead := by
    have hahead : Duration.ofMillis 100 ≠ 0 := by decide
    intro o ho
    rw [List.mem_singleton.mp ho]
    exact hahead
  free := rfl
  submissionDepth := unasked_rests.submissionDepth
  frameDepth := unasked_rests.frameDepth

/-- The other device was asked so often, and the first query still waits. -/
structure Laps (w : Watch S) (k : Nat) : Prop where
  now : w.now = 0
  plain : w.controller.plain = unanswered.renamed (handleOf (k + 1)) (k + 1)
  asked : silentQuery ∈ w.asked

theorem unasked_roomy : 100 ≤ unasked.config.maxQueryTimeoutMs.toNat := by decide

section Lapped

variable {c : Controller Arbiter} {slot k : Nat} {free : List Nat} {transmit : TransmitQueue}
  {did : BusDeviceId}

theorem query_now (w : Watch S) (did : BusDeviceId) (request : BusFrame) (timeoutMs : Nat) :
    (w.query did request timeoutMs).now = w.now := by
  unfold Watch.query
  split <;> rfl

theorem mem_query_asked {q : Asked} (h : q ∈ w.asked) (did : BusDeviceId) (request : BusFrame)
    (timeoutMs : Nat) : q ∈ (w.query did request timeoutMs).asked := by
  unfold Watch.query
  split
  · exact List.mem_append_left _ h
  · exact h

/-- Looking at what ended changes nothing if nothing did. -/
theorem step_plain {event : WatchStep} (hact : (w.act forward event).controller.plain = c)
    (hended : c.ended = []) : (w.step forward event).controller.plain = c := by
  change (w.act forward event).controller.plain.takeEnded.2 = c
  rw [hact, Controller.takeEnded, ← hended]

/-- A query is in the submission queue. -/
theorem step_poll (forward : BusFrame → S → Option S) (hnow : w.now = 0)
    (hplain : w.controller.plain = c) (hrests : c.Rests 0 slot free) (hended : c.ended = [])
    (hshort : 100 ≤ c.config.maxQueryTimeoutMs.toNat) (did : BusDeviceId) :
    let next := w.step forward (.query did (poll did) 100)
    next.now = 0 ∧ next.controller.plain = c.submitted 0 slot free did (poll did) 100 := by
  refine ⟨(query_now ..).trans hnow, ?_⟩
  have hact := w.act_plain forward (.query did (poll did) 100)
  dsimp only at hact
  rw [hplain, hnow, hrests.query_eq did (poll did) (by decide) hshort] at hact
  exact step_plain hact hended

/-- The worker takes the query in. -/
theorem act_turn_poll (forward : BusFrame → S → Option S) (hrests : c.Rests 0 slot free)
    (hroom : c.worker.protocol.transmit.push? (poll did).toRaw = some transmit)
    (hsubmitted : w.now = 0 ∧
      w.controller.plain = c.submitted 0 slot free did (poll did) 100) :
    (w.act forward .turn).controller.plain =
      (Controller.pass forward (Worker.park (c.nextParked 0) c.worker.parked).1
        (c.asking 0 slot free did (poll did) 100 transmit) w.hub).1 := by
  have hact := w.act_plain forward .turn
  dsimp only at hact
  rw [hsubmitted.1, hsubmitted.2,
    hrests.run_submitted did (poll did) (by decide) rfl rfl hroom] at hact
  exact hact

/-- A query comes to wait. -/
theorem run_poll (forward : BusFrame → S → Option S) (hnow : w.now = 0)
    (hplain : w.controller.plain = c) (hrests : c.Rests 0 slot free) (hended : c.ended = [])
    (hshort : 100 ≤ c.config.maxQueryTimeoutMs.toNat)
    (hfresh : ∀ p ∈ c.worker.parked, p.handle ≠ (c.nextParked 0).handle)
    (hroom : c.worker.protocol.transmit.push? (poll did).toRaw = some transmit) :
    (run forward [.query did (poll did) 100, .turn, .drain] w).controller.plain =
      (c.asking 0 slot free did (poll did) 100 transmit).drained := by
  let w₁ := w.step forward (.query did (poll did) 100)
  let w₂ := w₁.step forward .turn
  have hturn := act_turn_poll forward hrests hroom
    (step_poll forward hnow hplain hrests hended hshort did)
  rw [Worker.park_fresh hfresh] at hturn
  have h₂ : w₂.controller.plain = c.asking 0 slot free did (poll did) 100 transmit :=
    step_plain hturn hended
  have hact := w₂.act_plain forward .drain
  dsimp only at hact
  rw [h₂] at hact
  exact step_plain hact hended

/-- Nothing has changed after a lap but the names that are next. -/
theorem Laps.lap (h : w.Laps k) (forward : BusFrame → S → Option S) (hround : k + 1 < 0xFFFFFFFF) :
    (run forward Watch.lap w).Laps (k + 1) := by
  let c := unanswered.renamed (handleOf (k + 1)) (k + 1)
  have hrests : c.Rests 0 1 [2, 3] := unanswered_rests (handleOf (k + 1)) (k + 1)
  have hfresh : ∀ p ∈ c.worker.parked, p.handle ≠ (c.nextParked 0).handle := by
    intro p hp
    rw [List.mem_singleton.mp hp]
    exact handleOf_ne (Nat.succ_pos k) hround
  have hcallers : ∀ caller ∈ c.callers, caller.ticket ≠ c.nextTicket := by
    intro caller hcaller
    rw [List.mem_singleton.mp hcaller]
    exact Nat.ne_of_lt (Nat.succ_pos k)
  have hothers : ∀ o ∈ c.worker.protocol.outstanding, o.did ≠ ⟨2⟩ := by
    intro o ho
    rw [List.mem_singleton.mp ho]
    decide
  have hroom : c.worker.protocol.transmit.push? (poll ⟨2⟩).toRaw = some (onTheWay ⟨2⟩) := rfl
  have hdrained : { onTheWay ⟨2⟩ with frames := [] } = c.worker.protocol.transmit := rfl
  have hanswer : BusFrame.ofRaw? pollAnswer = some { poll ⟨2⟩ with direction := .response } := rfl
  let asked := c.asking 0 1 [2, 3] ⟨2⟩ (poll ⟨2⟩) 100 (onTheWay ⟨2⟩)
  let w₃ := run forward [.query ⟨2⟩ (poll ⟨2⟩) 100, .turn, .drain] w
  let w₄ := w₃.step forward (.deliver pollAnswer)
  have h₃ : w₃.controller.plain = asked.drained :=
    run_poll forward h.now h.plain hrests rfl unasked_roomy hfresh hroom
  have h₄ : w₄.controller.plain = asked.drained.delivered pollAnswer := by
    have hact := w₃.act_plain forward (.deliver pollAnswer)
    dsimp only at hact
    rw [h₃, asked.drained.deliver_eq rfl rfl hrests.frameDepth] at hact
    exact step_plain hact rfl
  have hnow₄ : w₄.now = 0 := (query_now ..).trans h.now
  refine ⟨hnow₄, ?_, mem_query_asked h.asked ..⟩
  have hact := w₄.act_plain forward .turn
  dsimp only at hact
  rw [h₄, hnow₄, hrests.run_delivered ⟨2⟩ (poll ⟨2⟩) 100 hfresh hcallers hdrained hanswer hothers
    rfl rfl rfl] at hact
  refine (congrArg (fun c => c.takeEnded.2) hact).trans ?_
  rw [← handleAfter_handleOf]
  rfl

theorem Laps.laps (h : w.Laps 0) (forward : BusFrame → S → Option S) (n : Nat)
    (hround : n < 0xFFFFFFFF) :
    (run forward (List.replicate n Watch.lap).flatten w).Laps n := by
  induction n with
  | zero => exact h
  | succ n ih =>
    rw [List.replicate_succ', List.flatten_append, List.flatten_singleton, run_append]
    exact (ih (Nat.lt_of_succ_lt hround)).lap forward hround

theorem run_lapping (forward : BusFrame → S → Option S) (laps : Nat) (w : Watch S) :
    run forward (lapping laps) w =
      run forward [.query ⟨2⟩ (poll ⟨2⟩) 100, .turn]
        (run forward (List.replicate laps Watch.lap).flatten
          (run forward [.query ⟨1⟩ (poll ⟨1⟩) 100, .turn, .drain] w)) := by
  rw [lapping, run_append, run_append]

/-- The handle of the query that waits is given out again, and its caller is sent away. -/
theorem Laps.last (h : w.Laps 0xFFFFFFFE) (forward : BusFrame → S → Option S) :
    let next := run forward [.query ⟨2⟩ (poll ⟨2⟩) 100, .turn] w
    silentQuery ∈ next.asked ∧ next.controller.running = true ∧
      { time := 0, ticket := 0, result := .error .workerStopped } ∈ next.ended := by
  let c := unanswered.renamed 1 0xFFFFFFFF
  have hplain : w.controller.plain = c := h.plain
  have hrests : c.Rests 0 1 [2, 3] := unanswered_rests 1 0xFFFFFFFF
  have hroom : c.worker.protocol.transmit.push? (poll ⟨2⟩).toRaw = some (onTheWay ⟨2⟩) := rfl
  have hlost : (Worker.park (c.nextParked 0) c.worker.parked).1 = [.lost 0] := rfl
  let asked := c.asking 0 1 [2, 3] ⟨2⟩ (poll ⟨2⟩) 100 (onTheWay ⟨2⟩)
  let w₁ := w.step forward (.query ⟨2⟩ (poll ⟨2⟩) 100)
  have hsubmitted := step_poll forward h.now hplain hrests rfl unasked_roomy ⟨2⟩
  have hact : (w₁.act forward .turn).controller.plain =
      asked.finish 0 fun _ => .error .workerStopped := by
    have hturn := act_turn_poll forward hrests hroom hsubmitted
    rw [hlost] at hturn
    exact hturn
  refine ⟨mem_query_asked h.asked .., congrArg Controller.running hact,
    mem_endings.mpr (.inr ⟨hsubmitted.1.symm, ?_⟩)⟩
  have hended : (w₁.act forward .turn).controller.ended = [(0, .error .workerStopped)] :=
    congrArg Controller.ended hact
  rw [hended]
  exact List.mem_singleton_self _

theorem open_laps : ∃ w : Watch Unit, open? 1 {} () 0 = .ok w ∧
    (run (fun _ s => some s) [.query ⟨1⟩ (poll ⟨1⟩) 100, .turn, .drain] w).Laps 0 := by
  cases hopen : open? 1 {} () 0 with
  | error e => cases hopen
  | ok w =>
    have hplain : w.controller.plain = unasked := by cases hopen; rfl
    have hnow : w.now = 0 := by cases hopen; rfl
    have hfresh : ∀ p ∈ unasked.worker.parked, p.handle ≠ (unasked.nextParked 0).handle :=
      fun p hp => absurd hp List.not_mem_nil
    have hroom : unasked.worker.protocol.transmit.push? (poll ⟨1⟩).toRaw = some (onTheWay ⟨1⟩) :=
      rfl
    have hpoll := run_poll (fun _ s => some s) hnow hplain unasked_rests rfl unasked_roomy hfresh
      hroom
    refine ⟨w, rfl, (query_now ..).trans hnow, hpoll, ?_⟩
    cases hopen
    exact List.mem_singleton_self _

/-- The last query is given the handle of the first, whose caller is told that the worker stopped. It
still runs, and his time is not up. -/
theorem lapping_not_timely : ∃ w : Watch Unit, open? 1 {} () 0 = .ok w ∧
    0 < ({} : BusConfig).toleranceMs ∧
      let next := run (fun _ s => some s) (lapping 0xFFFFFFFE) w
      silentQuery ∈ next.asked ∧ next.controller.running = true ∧
        { time := 0, ticket := 0, result := .error .workerStopped } ∈ next.ended ∧
          ¬next.Timely fun _ s => some s := by
  obtain ⟨w, hopen, hlaps⟩ := open_laps
  have hlast := (hlaps.laps (fun _ s => some s) 0xFFFFFFFE (by decide)).last fun _ s => some s
  rw [← run_lapping] at hlast
  obtain ⟨hasked, hup, hended⟩ := hlast
  refine ⟨w, hopen, by decide, hasked, hup, hended, ?_⟩
  intro htimely
  obtain ⟨q, -, -, hfair⟩ := htimely.ends _ hended
  cases hfair with
  | stopped hdown =>
    rw [hup] at hdown
    cases hdown

end Lapped

end Watch

end HomeGateway
