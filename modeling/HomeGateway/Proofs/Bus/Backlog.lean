import Mathlib
import HomeGateway.Proofs.Bus.Channel
import HomeGateway.Proofs.Bus.Multiplexer

/-!
A worker that finds a backlog when it wakes, and works it off at one instant. All the time that went
by is charged with the first frame of the backlog: what is due by then is over, unless it is this
frame that answers it. An answer further back in the queue finds its query only if there was time
left when the worker woke.
-/

namespace HomeGateway

namespace Row

variable {rows rest : List Row} {now : Instant} {frame : Option BusFrame} {r : Row}

/-- A row that a frame answers before all others stays in front of what is left of them. -/
theorem find?_sublist {p : Row → Bool} (hsublist : rest.Sublist rows) (hnodup : rows.Nodup)
    (hfind : rows.find? p = some r) (hin : r ∈ rest) : rest.find? p = some r := by
  induction hsublist with
  | slnil => cases hin
  | @cons rest rows first hsublist ih =>
    rw [List.nodup_cons] at hnodup
    rw [List.find?_cons] at hfind
    cases hp : p first with
    | true =>
      simp only [hp, Option.some.injEq] at hfind
      subst hfind
      exact absurd (hsublist.subset hin) hnodup.1
    | false =>
      simp only [hp] at hfind
      exact ih hnodup.2 hfind hin
  | @cons_cons rest rows first hsublist ih =>
    rw [List.nodup_cons] at hnodup
    rw [List.find?_cons] at hfind ⊢
    cases hp : p first with
    | true => simpa only [hp] using hfind
    | false =>
      simp only [hp] at hfind ⊢
      refine ih hnodup.2 hfind ((List.mem_cons.mp hin).resolve_left fun hfirst => ?_)
      have hr := List.find?_some hfind
      rw [hfirst, hp] at hr
      cases hr

theorem mem_gone_of_answered {f : BusFrame} (h : answered frame rows = some (f, r)) :
    r ∈ gone now frame rows :=
  List.mem_append_left _ (List.mem_map.mpr ⟨(f, r), Option.mem_toList.mpr h, rfl⟩)

theorem mem_gone_of_due (honce : rows.Nodup) (hr : r ∈ rows)
    (hother : ∀ f, answered frame rows ≠ some (f, r)) (hdue : r.due ≤ now) :
    r ∈ gone now frame rows :=
  List.mem_append_right _
    (List.mem_filter.mpr ⟨(mem_unanswered honce).mpr ⟨hr, hother⟩, decide_eq_true hdue⟩)

end Row

namespace Worker

variable {rows : List Row} {r : Row}

/-- What a turn tells the caller of a row: the answer, if the frame is the answer to it; else that
time is up, if it is; else nothing. -/
inductive Hears (now : Instant) (frame : Option BusFrame) (rows : List Row) (r : Row) :
    List Notice → Prop where
  | answered {f : BusFrame} (h : Row.answered frame rows = some (f, r)) :
    Hears now frame rows r [r.answer now f]
  | expired (hother : ∀ f, Row.answered frame rows ≠ some (f, r)) (hdue : r.due ≤ now) :
    Hears now frame rows r [r.expiry now]
  | waiting (hother : ∀ f, Row.answered frame rows ≠ some (f, r)) (hleft : now < r.due) :
    Hears now frame rows r []

theorem hears_turnNotices {now : Instant} {frame : Option BusFrame}
    (htickets : (rows.map Row.ticket).Nodup) (hr : r ∈ rows) :
    Hears now frame rows r
      ((turnNotices now frame rows).filter fun n => n.ended? = some r.ticket) := by
  have honce : ((turnNotices now frame rows).filterMap Notice.ended?).Nodup := by
    have hperm := (Row.gone_perm now frame rows).map Row.ticket
    rw [List.map_append] at hperm
    rw [ended_turnNotices]
    exact (List.nodup_append.mp (hperm.nodup_iff.mpr htickets)).1
  by_cases hanswered : ∃ f, Row.answered frame rows = some (f, r)
  · obtain ⟨f, hf⟩ := hanswered
    have hin : r.answer now f ∈ turnNotices now frame rows := by
      refine List.mem_append_left _ (List.mem_append_right _ ?_)
      exact List.mem_map.mpr ⟨(f, r), Option.mem_toList.mpr hf, rfl⟩
    rw [filter_eq_singleton honce hin rfl]
    exact .answered hf
  have hother := not_exists.mp hanswered
  have hunanswered := (Row.mem_unanswered htickets.of_map).mpr ⟨hr, hother⟩
  by_cases hdue : r.due ≤ now
  · have hexpired : r ∈ Row.expired now frame rows :=
      List.mem_filter.mpr ⟨hunanswered, decide_eq_true hdue⟩
    have hin : r.expiry now ∈ turnNotices now frame rows :=
      List.mem_append_right _ (List.mem_map_of_mem hexpired)
    rw [filter_eq_singleton honce hin rfl]
    exact .expired hother hdue
  · have hnone : ((turnNotices now frame rows).filter fun n => n.ended? = some r.ticket) = [] := by
      apply List.filter_eq_nil_iff.mpr
      intro notice hnotice hended
      have hgone : r.ticket ∈ (Row.gone now frame rows).map Row.ticket := by
        rw [← ended_turnNotices]
        exact List.mem_filterMap.mpr ⟨notice, hnotice, of_decide_eq_true hended⟩
      obtain ⟨q, hq, hticket⟩ := List.mem_map.mp hgone
      have hrows := (Row.gone_perm now frame rows).subset (List.mem_append_left _ hq)
      cases List.inj_on_of_nodup_map htickets hrows hr hticket
      rcases List.mem_append.mp hq with htaken | hexpired
      · obtain ⟨⟨f, _⟩, hfound, rfl⟩ := List.mem_map.mp htaken
        exact hother f (Option.mem_toList.mp hfound)
      · exact hdue (Row.mem_expired hexpired).2
    rw [hnone]
    exact .waiting hother (Nat.lt_of_not_le hdue)

end Worker

namespace Traffic

variable {t : Traffic} {ticket : Nat} {rows : List Row} {r : Row}

/-! When the worker is idle. -/

/-- What is still in the queues. -/
def backlog (t : Traffic) : Nat := t.worker.frames.length + t.worker.submissions.length

/-- The worker works off what is in its queues, and then what is due. -/
def settled (t : Traffic) : Traffic := run (List.replicate (t.backlog + 1) .turn) t

/-- The protocol was told the time, and nothing is due. -/
structure Rested (t : Traffic) : Prop where
  told : t.worker.last = t.now
  left : ∀ q ∈ t.worker.protocol.outstanding, q.remaining ≠ 0

theorem rested_advanced (t : Traffic) (v : Worker Arbiter) (frame : Option BusFrame) :
    (t.advanced v frame).Rested := by
  refine ⟨rfl, fun q hq => ?_⟩
  change q ∈ (v.protocol.process (t.now - v.last) frame).2.outstanding at hq
  exact of_decide_eq_true (List.mem_filter.mp hq).2

/-- With empty queues, a worker who has dealt with what is due sleeps on. -/
theorem Rested.asleep (h : t.Rested) (hframes : t.worker.frames = [])
    (hsubmissions : t.worker.submissions = []) : t.worker.isWoken t.now = false := by
  have hdeadline : (t.worker.deadline.any fun due => due ≤ t.now) = false := by
    unfold Worker.deadline
    change ((t.worker.protocol.nextTimeout.map fun d => t.worker.last + d).any fun due =>
      due ≤ t.now) = false
    unfold Arbiter.nextTimeout
    cases hmin : (t.worker.protocol.outstanding.map Outstanding.remaining).min? with
    | none => rfl
    | some least =>
      obtain ⟨q, hq, rfl⟩ := List.mem_map.mp (List.min?_mem hmin)
      have hleft := h.left q hq
      have htold := h.told
      simp only [Option.map_some, Option.any_some, decide_eq_false_iff_not]
      lia
  simp [Worker.isWoken, hframes, hsubmissions, hdeadline]

theorem accept_worker (t : Traffic) (submission : Submission) :
    (t.accept submission).worker = (t.worker.accept t.now submission).2.1 := by
  cases submission <;> rfl

theorem accept_backlog (t : Traffic) (submission : Submission) :
    (t.accept submission).backlog = t.backlog := by
  rw [backlog, accept_worker, Worker.accept_frames, (t.worker.accept_rest t.now submission).1,
    backlog]

theorem empty_of_asleep (h : t.worker.isWoken t.now = false) :
    t.worker.frames = [] ∧ t.worker.submissions = [] := by
  unfold Worker.isWoken at h
  simp only [Bool.or_eq_false_iff, Bool.not_eq_false', List.isEmpty_iff] at h
  exact h.1

/-- A turn takes one thing out of the queues and puts nothing in. -/
theorem turn_backlog (t : Traffic) : t.turn.backlog = t.backlog - 1 := by
  rcases t.turn_cases with ⟨raw, rest, hframes, hturn⟩ | ⟨submission, rest, hframes, hqueue, hturn⟩ |
    ⟨hframes, hqueue, hturn⟩ | ⟨hasleep, hturn⟩
  · rw [hturn, backlog, backlog, hframes]
    change rest.length + t.worker.submissions.length = rest.length + 1 + _ - 1
    omega
  · rw [hturn, accept_backlog, backlog, backlog, hframes, hqueue]
    change t.worker.frames.length + rest.length = _
    rw [hframes]
    rfl
  · rw [hturn, backlog, backlog, hframes, hqueue]
    change t.worker.frames.length + t.worker.submissions.length = _
    rw [hframes, hqueue]
    rfl
  · obtain ⟨hframes, hqueue⟩ := empty_of_asleep hasleep
    rw [hturn, backlog, hframes, hqueue]
    rfl

/-- A turn takes no time. -/
theorem turn_now (t : Traffic) : t.turn.now = t.now := by
  rcases t.turn_cases with ⟨raw, rest, -, hturn⟩ | ⟨submission, rest, -, -, hturn⟩ |
    ⟨-, -, hturn⟩ | ⟨-, hturn⟩
  · rw [hturn]
    rfl
  · rw [hturn]
    cases submission <;> rfl
  · rw [hturn]
    rfl
  · rw [hturn]

/-- A worker without a backlog sleeps after one turn. -/
theorem turn_asleep (h : t.backlog = 0) : t.turn.worker.isWoken t.turn.now = false := by
  unfold backlog at h
  rcases t.turn_cases with ⟨raw, rest, hframes, -⟩ | ⟨submission, rest, -, hqueue, -⟩ |
    ⟨hframes, hqueue, hturn⟩ | ⟨hasleep, hturn⟩
  · rw [hframes, List.length_cons] at h
    omega
  · rw [hqueue, List.length_cons] at h
    omega
  · rw [hturn]
    exact (t.rested_advanced t.worker none).asleep hframes hqueue
  · rw [hturn]
    exact hasleep

theorem run_turns_now (t : Traffic) (n : Nat) :
    (run (List.replicate n .turn) t).now = t.now := by
  induction n generalizing t with
  | zero => rfl
  | succ n ih =>
    rw [List.replicate_succ]
    exact (ih t.turn).trans t.turn_now

/-- As many turns as there are things in the queues, and one more, put the worker to sleep. -/
theorem run_asleep {n : Nat} (h : t.backlog ≤ n) :
    let next := run (List.replicate (n + 1) .turn) t
    next.worker.isWoken next.now = false := by
  induction n generalizing t with
  | zero => exact turn_asleep (by omega)
  | succ n ih =>
    have hless : t.turn.backlog ≤ n := by
      rw [turn_backlog]
      omega
    rw [List.replicate_succ]
    exact ih hless

theorem settled_now (t : Traffic) : t.settled.now = t.now := t.run_turns_now _

theorem settled_asleep (t : Traffic) : t.settled.worker.isWoken t.now = false := by
  rw [← t.settled_now]
  exact run_asleep (Nat.le_refl _)

/-! What becomes of a query. -/

/-- What was said of the query of a ticket when it was over. -/
def verdicts (t : Traffic) (ticket : Nat) : List Notice :=
  (t.log.flatMap BusRecord.notices).filter fun n => n.ended? = some ticket

theorem verdicts_advanced (t : Traffic) (v : Worker Arbiter) (frame : Option BusFrame)
    (ticket : Nat) :
    (t.advanced v frame).verdicts ticket =
      t.verdicts ticket ++ (v.advance t.now frame).1.filter fun n => n.ended? = some ticket := by
  simp [verdicts, advanced, BusRecord.notices]

/-- A query that is neither parked nor queued. -/
structure Forgotten (t : Traffic) (ticket : Nat) : Prop where
  parked : ticket ∉ t.worker.parked.map Parked.ticket
  queued : ticket ∉ t.queued

/-- Time that passes and frames say nothing of it. -/
theorem Forgotten.advanced {v : Worker Arbiter} (h : t.Forgotten ticket)
    (hparked : v.parked = t.worker.parked)
    (hqueued : v.submissions.filterMap Submission.ticket? ⊆ t.queued)
    (frame : Option BusFrame) :
    (t.advanced v frame).Forgotten ticket ∧
      (t.advanced v frame).verdicts ticket = t.verdicts ticket := by
  obtain ⟨-, -, hless, -, hsays⟩ := v.advance_says t.now frame
  rw [hparked] at hless hsays
  refine ⟨⟨?_, fun hin => h.queued (hqueued hin)⟩, ?_⟩
  · intro hin
    obtain ⟨p, hp, hticket⟩ := List.mem_map.mp hin
    exact h.parked (List.mem_map.mpr ⟨p, hless hp, hticket⟩)
  · have hsaid : ((v.advance t.now frame).1.filter fun n => n.ended? = some ticket) = [] := by
      apply List.filter_eq_nil_iff.mpr
      intro notice hnotice hended
      rcases hsays notice hnotice with ⟨f, rfl⟩ | ⟨p, hp, status, response, elapsed, rfl⟩
      · cases of_decide_eq_true hended
      · cases of_decide_eq_true hended
        exact h.parked (List.mem_map_of_mem hp)
    rw [verdicts_advanced, hsaid, List.append_nil]

/-- Nor does the worker as it accepts something else. -/
theorem Forgotten.accept {submission : Submission} (h : t.Forgotten ticket)
    (hother : submission.ticket? ≠ some ticket) :
    (t.accept submission).Forgotten ticket ∧
      (t.accept submission).verdicts ticket = t.verdicts ticket := by
  obtain ⟨-, -, hparked, hsays⟩ := t.worker.accept_says t.now submission
  refine ⟨⟨?_, ?_⟩, ?_⟩
  · rw [accept_worker]
    intro hin
    obtain ⟨p, hp, rfl⟩ := List.mem_map.mp hin
    rcases hparked p hp with hold | ⟨hnew, -⟩
    · exact h.parked (List.mem_map_of_mem hold)
    · exact hother hnew
  · rw [queued_accept]
    exact h.queued
  · cases submission with
    | send did request => rfl
    | query asked did request timeout submitted =>
      have hsaid : ((t.worker.accept t.now
          (.query asked did request timeout submitted)).1.filter
            fun n => n.ended? = some ticket) = [] := by
        apply List.filter_eq_nil_iff.mpr
        intro notice hnotice hended
        cases hsays notice hnotice with
        | sent hticket _ => exact hother (hticket.trans (of_decide_eq_true hended))
        | rejected hticket _ => exact hother (hticket.trans (of_decide_eq_true hended))
        | lost => cases of_decide_eq_true hended
      simp only [verdicts, Traffic.accept, List.flatMap_append, List.flatMap_singleton,
        BusRecord.notices, List.filter_append, hsaid, List.append_nil]

/-- Nothing more is said of a query that is over. -/
theorem Forgotten.turn (h : t.Forgotten ticket) :
    t.turn.Forgotten ticket ∧ t.turn.verdicts ticket = t.verdicts ticket := by
  rcases t.turn_cases with ⟨raw, rest, -, hturn⟩ | ⟨submission, rest, -, hqueue, hturn⟩ |
    ⟨-, -, hturn⟩ | ⟨-, hturn⟩
  · rw [hturn]
    exact h.advanced (v := { t.worker with frames := rest }) rfl (List.Subset.refl _) _
  · have hqueued : t.queued =
        submission.ticket?.toList ++ rest.filterMap Submission.ticket? := by
      unfold Traffic.queued
      rw [hqueue]
      cases submission <;> rfl
    have hother : submission.ticket? ≠ some ticket := by
      intro hsame
      have hnot := h.queued
      rw [hqueued, hsame] at hnot
      exact hnot List.mem_cons_self
    obtain ⟨hforgotten, hsame⟩ := h.advanced (v := { t.worker with submissions := rest }) rfl
      (by rw [hqueued]; exact List.subset_append_right _ _) none
    obtain ⟨hafter, hverdicts⟩ := hforgotten.accept hother
    rw [hturn]
    exact ⟨hafter, hverdicts.trans hsame⟩
  · rw [hturn]
    exact h.advanced rfl (List.Subset.refl _) none
  · rw [hturn]
    exact ⟨h, rfl⟩

theorem Forgotten.turns (h : t.Forgotten ticket) (n : Nat) :
    (run (List.replicate n .turn) t).verdicts ticket = t.verdicts ticket := by
  induction n generalizing t with
  | zero => rfl
  | succ n ih =>
    obtain ⟨hturn, hsame⟩ := h.turn
    rw [List.replicate_succ]
    exact (ih hturn).trans hsame

/-! What becomes of a query whose answer is in the queue. -/

/-- A worker at any moment, whatever is in its queues: those who wait for answers belong to these
rows, and no ticket is given twice. -/
structure Poised (t : Traffic) (rows : List Row) : Prop where
  tracks : t.worker.Tracks rows
  clock : t.worker.last ≤ t.now
  distinct : (rows.map Row.ticket ++ t.queued).Nodup

theorem Keeps.poised (h : t.Keeps rows t.queued) : t.Poised rows := by
  refine ⟨h.tracks, h.clock, h.distinct.sublist (List.Sublist.append_right ?_ _)⟩
  rw [h.waiting]
  exact List.filter_sublist.trans t.waiting_sublist

theorem Poised.tickets (h : t.Poised rows) : (rows.map Row.ticket).Nodup :=
  (List.nodup_append.mp h.distinct).1

theorem turn_frame {raw : RawFrame} {rest : List RawFrame} (h : t.worker.frames = raw :: rest) :
    t.turn = t.advanced { t.worker with frames := rest } t.nextFrame := by
  obtain ⟨⟨protocol, frames, submissions, parked, last⟩, now, tickets, log⟩ := t
  cases h
  rfl

/-- The next frame, and what is due by the time it is dealt with. -/
theorem Poised.turn {raw : RawFrame} {rest : List RawFrame} (h : t.Poised rows)
    (hframes : t.worker.frames = raw :: rest) :
    t.turn.Poised (Row.left t.now t.nextFrame rows) ∧ t.turn.worker.frames = rest ∧
      ∀ r ∈ rows, ∃ said, t.turn.verdicts r.ticket = t.verdicts r.ticket ++ said ∧
        Worker.Hears t.now t.nextFrame rows r said := by
  have htracks : Worker.Tracks { t.worker with frames := rest } rows :=
    h.tracks.congr ⟨rfl, rfl, rfl⟩
  obtain ⟨hnotices, hleft⟩ := htracks.advance h.clock t.nextFrame
  have hsublist := (Row.left_sublist t.now t.nextFrame rows).map Row.ticket
  rw [turn_frame hframes]
  refine ⟨⟨hleft, Nat.le_refl t.now, ?_⟩, rfl,
    fun r hr => ⟨_, ?_, Worker.hears_turnNotices h.tickets hr⟩⟩
  · exact h.distinct.sublist (hsublist.append_right _)
  · rw [verdicts_advanced, hnotices]

/-- A query that is out of the rows is over. -/
theorem Poised.forgotten (h : t.Poised rows) {ticket : Nat} (hgone : ticket ∉ rows.map Row.ticket)
    (hqueued : ticket ∉ t.queued) : t.Forgotten ticket := by
  refine ⟨?_, hqueued⟩
  rw [h.tracks.parked, List.map_map]
  exact hgone

/-- After a turn that tells a caller something, the query is over. -/
theorem Poised.turn_over {raw : RawFrame} {rest : List RawFrame} (h : t.Poised rows)
    (hframes : t.worker.frames = raw :: rest) (hr : r ∈ rows)
    (hover : r ∈ Row.gone t.now t.nextFrame rows) : t.turn.Forgotten r.ticket := by
  obtain ⟨hturn, -⟩ := h.turn hframes
  refine hturn.forgotten ?_ ?_
  · rw [← Row.filter_gone h.tickets, List.mem_filter]
    intro hleft
    exact of_decide_eq_true hleft.2 (List.mem_map_of_mem hover)
  · have hqueued : t.turn.queued = t.queued := by
      rw [turn_frame hframes]
      rfl
    rw [hqueued]
    intro hin
    exact (List.nodup_append.mp h.distinct).2.2 _ (List.mem_map_of_mem hr) _ hin rfl

theorem nextFrame_eq {raw : RawFrame} {rest : List RawFrame}
    (h : t.worker.frames = raw :: rest) : t.nextFrame = BusFrame.ofRaw? raw := by
  simp [nextFrame, h]

/-- Whatever else is in the queues: as long as there is time, an answer is an answer. -/
theorem Poised.answered_in_time {raw : RawFrame} {f : BusFrame} (h : t.Poised rows)
    (hraw : raw ∈ t.worker.frames) (hdecodes : BusFrame.ofRaw? raw = some f)
    (hfirst : rows.find? (Row.answeredBy f) = some r) (htime : t.now < r.due) {n : Nat}
    (hn : t.worker.frames.length ≤ n) :
    ∃ g ∈ t.worker.frames.filterMap BusFrame.ofRaw?, r.answeredBy g = true ∧
      (run (List.replicate n .turn) t).verdicts r.ticket =
        t.verdicts r.ticket ++ [r.answer t.now g] := by
  induction n generalizing t rows with
  | zero =>
    rw [List.length_eq_zero_iff.mp (Nat.le_zero.mp hn)] at hraw
    cases hraw
  | succ n ih =>
    have hr := List.mem_of_find?_eq_some hfirst
    obtain ⟨first, rest, hframes⟩ := List.exists_cons_of_ne_nil (List.ne_nil_of_mem hraw)
    obtain ⟨hturn, hrest, hsaid⟩ := h.turn hframes
    obtain ⟨said, hverdicts, hhears⟩ := hsaid r hr
    have hhead := nextFrame_eq hframes
    rw [List.replicate_succ]
    change ∃ g ∈ _, _ ∧ (run (List.replicate n .turn) t.turn).verdicts _ = _
    cases hhears with
    | @answered g hanswered =>
      obtain ⟨hg, -, hanswers⟩ := Row.mem_of_answered hanswered
      refine ⟨g, ?_, decide_eq_true hanswers, ?_⟩
      · rw [hframes, List.mem_filterMap]
        exact ⟨first, List.mem_cons_self, hhead.symm.trans hg⟩
      · rw [(h.turn_over hframes hr (Row.mem_gone_of_answered hanswered)).turns n, hverdicts]
    | expired _ hdue => exact absurd htime (Nat.not_lt_of_le hdue)
    | waiting hother hleft =>
      have hstill : r ∈ Row.left t.now t.nextFrame rows :=
        List.mem_filter.mpr
          ⟨(Row.mem_unanswered h.tickets.of_map).mpr ⟨hr, hother⟩, decide_eq_true hleft⟩
      have hbehind : raw ∈ t.turn.worker.frames := by
        rw [hframes] at hraw
        rw [hrest]
        refine (List.mem_cons.mp hraw).resolve_left ?_
        rintro rfl
        exact hother f (by simp [Row.answered, hhead, hdecodes, hfirst])
      obtain ⟨g, hg, hanswers, hends⟩ := ih hturn hbehind
        (Row.find?_sublist (Row.left_sublist _ _ rows) h.tickets.of_map hfirst hstill)
        (t.turn_now ▸ htime) (by rw [hrest]; rw [hframes, List.length_cons] at hn; omega)
      rw [hverdicts, List.append_nil, turn_now] at hends
      refine ⟨g, ?_, hanswers, hends⟩
      rw [hrest] at hg
      rw [hframes]
      exact ((List.sublist_cons_self first rest).filterMap _).subset hg

/-- Whether there is time left for a query, or else the frame at the head of the queue is the answer
to it. -/
def inTime (t : Traffic) (rows : List Row) (r : Row) : Prop :=
  t.now < r.due ∨ ∃ f, Row.answered t.nextFrame rows = some (f, r)

/-- A query whose answer is among the frames is over once the worker has worked them off. -/
theorem Poised.settles {raw : RawFrame} {f : BusFrame} (h : t.Poised rows)
    (hraw : raw ∈ t.worker.frames) (hdecodes : BusFrame.ofRaw? raw = some f)
    (hfirst : rows.find? (Row.answeredBy f) = some r) :
    ∃ notice, t.settled.verdicts r.ticket = t.verdicts r.ticket ++ [notice] ∧
      (t.inTime rows r → ∃ g ∈ t.worker.frames.filterMap BusFrame.ofRaw?,
        r.answeredBy g = true ∧ notice = r.answer t.now g) ∧
      (¬ t.inTime rows r → notice = r.expiry t.now) := by
  have hr := List.mem_of_find?_eq_some hfirst
  obtain ⟨first, rest, hframes⟩ := List.exists_cons_of_ne_nil (List.ne_nil_of_mem hraw)
  by_cases htime : t.now < r.due
  · have henough : t.worker.frames.length ≤ t.backlog + 1 := by
      unfold backlog
      omega
    obtain ⟨g, hg, hanswers, hends⟩ := h.answered_in_time hraw hdecodes hfirst htime henough
    exact ⟨_, hends, fun _ => ⟨g, hg, hanswers, rfl⟩, fun hlate => absurd (.inl htime) hlate⟩
  obtain ⟨-, -, hsaid⟩ := h.turn hframes
  obtain ⟨said, hverdicts, hhears⟩ := hsaid r hr
  have hends (hover : r ∈ Row.gone t.now t.nextFrame rows) :
      t.settled.verdicts r.ticket = t.verdicts r.ticket ++ said := by
    rw [settled, List.replicate_succ]
    exact ((h.turn_over hframes hr hover).turns _).trans hverdicts
  cases hhears with
  | @answered g hanswered =>
    obtain ⟨hg, -, hanswers⟩ := Row.mem_of_answered hanswered
    refine ⟨_, hends (Row.mem_gone_of_answered hanswered),
      fun _ => ⟨g, ?_, decide_eq_true hanswers, rfl⟩,
      fun hlate => absurd (.inr ⟨g, hanswered⟩) hlate⟩
    rw [hframes, List.mem_filterMap]
    exact ⟨first, List.mem_cons_self, (nextFrame_eq hframes).symm.trans hg⟩
  | expired hother hdue =>
    refine ⟨_, hends (Row.mem_gone_of_due h.tickets.of_map hr hother hdue), ?_, fun _ => rfl⟩
    rintro (hleft | ⟨g, hanswered⟩)
    · exact absurd hleft htime
    · exact absurd hanswered (hother g)
  | waiting _ hleft => exact absurd hleft htime

/-- Nothing was said yet of a query that waits for its answer. -/
theorem Keeps.unsaid (h : t.Keeps rows t.queued) (hr : r ∈ rows) : t.verdicts r.ticket = [] := by
  refine List.filter_eq_nil_iff.mpr fun notice hnotice hended => ?_
  obtain ⟨record, hrecord, hsaid⟩ := List.mem_flatMap.mp hnotice
  refine (h.open_of_mem (List.mem_map_of_mem hr)).2 ?_
  exact List.mem_flatMap.mpr
    ⟨record, hrecord, List.mem_filterMap.mpr ⟨notice, hsaid, of_decide_eq_true hended⟩⟩

/-- So it is in every state of a run in which no query is lapped, where nothing was said of the query
before. -/
theorem run_settles (depth : Nat) (now : Instant) (steps : List BusStep)
    (hunlapped : ∀ first, first <+: steps → (run first (.start depth now)).Unlapped) :
    let t := run steps (.start depth now)
    ∃ rows, t.Poised rows ∧ ∀ raw ∈ t.worker.frames, ∀ f r, BusFrame.ofRaw? raw = some f →
      rows.find? (Row.answeredBy f) = some r →
        t.settled.worker.isWoken t.now = false ∧
          ∃ notice, t.settled.verdicts r.ticket = [notice] ∧
            (t.inTime rows r → ∃ g ∈ t.worker.frames.filterMap BusFrame.ofRaw?,
              r.answeredBy g = true ∧ notice = r.answer t.now g) ∧
            (¬ t.inTime rows r → notice = r.expiry t.now) := by
  obtain ⟨rows, hkeeps⟩ := run_keeps depth now steps hunlapped
  refine ⟨rows, hkeeps.poised, fun raw hraw f r hdecodes hfirst => ⟨settled_asleep _, ?_⟩⟩
  obtain ⟨notice, hends, hhow⟩ := hkeeps.poised.settles hraw hdecodes hfirst
  rw [hkeeps.unsaid (List.mem_of_find?_eq_some hfirst)] at hends
  exact ⟨notice, hends, hhow⟩

/-- A worker wakes at any moment and works off what is in its queues. A query whose answer is among
the frames, and is the answer to no older query, ends with an answer if there is time left for it,
or if the answer is the first of the frames; else it is too late. -/
theorem settled_verdict {raw : RawFrame} {f : BusFrame} (h : t.Poised rows)
    (hraw : raw ∈ t.worker.frames) (hdecodes : BusFrame.ofRaw? raw = some f)
    (hfirst : rows.find? (Row.answeredBy f) = some r) :
    t.settled.now = t.now ∧ t.settled.worker.isWoken t.now = false ∧
      ∃ notice, t.settled.verdicts r.ticket = t.verdicts r.ticket ++ [notice] ∧
        (t.inTime rows r → ∃ g ∈ t.worker.frames.filterMap BusFrame.ofRaw?,
          r.answeredBy g = true ∧ notice = r.answer t.now g) ∧
        (¬ t.inTime rows r → notice = r.expiry t.now) :=
  ⟨t.settled_now, t.settled_asleep, h.settles hraw hdecodes hfirst⟩

/-- A board is asked. After some time, its answer waits behind a frame of another board. -/
def behindAnother (time : Duration) : Traffic :=
  run
    [.query ⟨1⟩ (.telemetryQuery ⟨1⟩ .app0) 50, .turn, .wait time,
      .receive { id := 21, data := [] }, .receive { id := 13, data := [] }]
    (.start 4 0)

/-- The row of its query. -/
def behindAnotherRow : Row :=
  { ticket := 0, submitted := 0, handle := 1, did := ⟨1⟩, request := .telemetryQuery ⟨1⟩ .app0,
    due := 50 }

theorem behindAnother_poised (time : Duration) :
    (behindAnother time).Poised [behindAnotherRow] where
  tracks :=
    { parked := rfl
      outstanding := rfl
      distinct := List.nodup_singleton _
      ahead := fun r hr => by
        rw [List.mem_singleton.mp hr]
        exact Nat.lt_of_lt_of_eq (Nat.succ_pos 49) rfl }
  clock := Nat.zero_le _
  distinct := List.nodup_singleton _

theorem settled_verdict_behind :
    let t := behindAnother 20
    t.inTime [behindAnotherRow] behindAnotherRow ∧ t.settled.worker.isWoken t.now = false ∧
      ∃ g, t.settled.verdicts 0 = [behindAnotherRow.answer 20 g] := by
  intro t
  have htime : t.inTime [behindAnotherRow] behindAnotherRow := .inl (by decide)
  have hwaits : ({ id := 13, data := [] } : RawFrame) ∈ t.worker.frames :=
    List.mem_cons_of_mem _ List.mem_cons_self
  obtain ⟨-, hasleep, notice, hends, hanswered, -⟩ :=
    settled_verdict (behindAnother_poised 20) hwaits rfl rfl
  obtain ⟨g, -, -, rfl⟩ := hanswered htime
  exact ⟨htime, hasleep, g, hends⟩

/-- When the worker wakes as the query is due, the answer is in its queue all the same, and the
caller hears that time is up. -/
theorem not_settled_by_answer :
    let t := behindAnother 50
    t.Poised [behindAnotherRow] ∧
      (∃ raw ∈ t.worker.frames, ∃ f, BusFrame.ofRaw? raw = some f ∧
        [behindAnotherRow].find? (Row.answeredBy f) = some behindAnotherRow) ∧
      t.settled.worker.isWoken t.now = false ∧
      t.settled.verdicts 0 = [.completion 0 (.completed .timedOut none) 50] :=
  ⟨behindAnother_poised 50,
    ⟨{ id := 13, data := [] }, List.mem_cons_of_mem _ List.mem_cons_self, _, rfl, rfl⟩, rfl, rfl⟩

end Traffic

end HomeGateway
