import Mathlib
import HomeGateway.Proofs.Bus.Ledger

/-!
The queries of the bus protocol against the clock. An agenda has the time and, for every query
that waits, the instant at which it is due; nothing in it is counted down. The protocol counts
down what is left of each query's time and knows no clock, and yet it keeps the agenda: it reports
in every call just the queries that are due by then, and how a stretch of time is cut into calls
does not matter to it.
-/

namespace HomeGateway

/-- An element of a list that grew at its end is the new one, or it was there before. -/
theorem concat_eq_append_cons {α : Type} {l before later : List α} {a b : α}
    (h : l ++ [a] = before ++ b :: later) :
    (l = before ∧ a = b) ∨ ∃ earlier, l = before ++ b :: earlier ∧ later = earlier ++ [a] := by
  rcases List.eq_nil_or_concat later with rfl | ⟨earlier, last, rfl⟩
  · obtain ⟨rfl, hlast⟩ := List.append_inj' h rfl
    exact .inl ⟨rfl, List.singleton_inj.mp hlast⟩
  · rw [List.concat_eq_append, ← List.cons_append, ← List.append_assoc] at h
    obtain ⟨rfl, hlast⟩ := List.append_inj' h rfl
    exact .inr ⟨earlier, rfl, by rw [List.concat_eq_append, List.singleton_inj.mp hlast]⟩

namespace Row

/-- What is due by some time was due by an earlier one, or falls due in between. -/
theorem due_perm {mid now : Instant} (h : mid ≤ now) (rows : List Row) :
    ((rows.filter fun r => r.due ≤ mid) ++
      (rows.filter fun r => mid < r.due).filter fun r => r.due ≤ now).Perm
        (rows.filter fun r => r.due ≤ now) := by
  have hearly : (rows.filter fun r => r.due ≤ mid) =
      (rows.filter fun r => r.due ≤ now).filter fun r => r.due ≤ mid := by
    rw [List.filter_filter]
    refine List.filter_congr fun r _ => ?_
    rw [← Bool.decide_and, decide_eq_decide]
    exact ⟨fun hdue => ⟨hdue, Nat.le_trans hdue h⟩, And.left⟩
  have hlate : ((rows.filter fun r => mid < r.due).filter fun r => r.due ≤ now) =
      (rows.filter fun r => r.due ≤ now).filter fun r => !decide (r.due ≤ mid) := by
    rw [List.filter_filter, List.filter_filter]
    refine List.filter_congr fun r _ => ?_
    rw [← decide_not, ← Bool.decide_and, ← Bool.decide_and, decide_eq_decide, Nat.not_le]
    exact and_comm
  rw [hearly, hlate]
  exact List.filter_append_perm _ _

theorem filter_ahead {mid now : Instant} (h : mid ≤ now) (rows : List Row) :
    ((rows.filter fun r => mid < r.due).filter fun r => now < r.due) =
      rows.filter fun r => now < r.due := by
  rw [List.filter_filter]
  refine List.filter_congr fun r _ => ?_
  rw [← Bool.decide_and, decide_eq_decide]
  exact ⟨And.left, fun hdue => ⟨hdue, Nat.lt_of_le_of_lt h hdue⟩⟩

end Row

namespace ProtocolCall

variable {calls : List ProtocolCall}

theorem row?_ticket {c : ProtocolCall} {ticket : Nat} {time : Instant} {row : Row}
    (h : c.row? ticket time = some row) : row.ticket = ticket := by
  unfold row? at h
  split at h
  · cases h
    rfl
  · cases h

/-- Queries are numbered as they come. -/
theorem admitted_tickets (calls : List ProtocolCall) :
    (admitted calls).map Row.ticket = List.range (admitted calls).length := by
  induction calls using List.reverseRecOn with
  | nil => rfl
  | append_singleton calls c ih =>
    rw [admitted_append]
    cases hrow : c.row? (admitted calls).length (total calls) with
    | none => simpa using ih
    | some row => simp [ih, List.range_succ, row?_ticket hrow]

theorem admitted_nodup (calls : List ProtocolCall) : (admitted calls).Nodup :=
  List.Nodup.of_map Row.ticket (admitted_tickets calls ▸ List.nodup_range)

theorem admitted_prefix (calls more : List ProtocolCall) :
    admitted calls <+: admitted (calls ++ more) := by
  unfold admitted
  rw [rowsFrom_append]
  exact List.prefix_append _ _

theorem ticket_lt {r : Row} (h : r ∈ admitted calls) : r.ticket < (admitted calls).length := by
  have hticket : r.ticket ∈ (admitted calls).map Row.ticket := List.mem_map_of_mem h
  rwa [admitted_tickets, List.mem_range] at hticket

end ProtocolCall

/-- `made` is the number of queries that came to wait so far. -/
structure Agenda where
  time : Instant
  made : Nat
  waiting : List Row

namespace Agenda

/-- What a call does to the agenda, whatever was reported in it. -/
def call (a : Agenda) (c : ProtocolCall) : Agenda where
  time := a.time + c.elapsed
  made := a.made + (c.row? a.made a.time).toList.length
  waiting :=
    match c with
    | .queried .. => a.waiting ++ (c.row? a.made a.time).toList
    | .processed elapsed frame _ => Row.left (a.time + elapsed) frame a.waiting

/-- The agenda after some calls, from an empty one at time zero. -/
def after (calls : List ProtocolCall) : Agenda := calls.foldl call ⟨0, 0, []⟩

/-- A frame answered a query in one of the calls. -/
def Answered (calls : List ProtocolCall) (r : Row) : Prop :=
  ∃ before elapsed frame events later f,
    calls = before ++ .processed elapsed frame events :: later ∧
      Row.answered frame (after before).waiting = some (f, r)

/-- The queries that come to wait in these calls have time to wait. -/
def Paced (calls : List ProtocolCall) : Prop :=
  ∀ did request timeout handle, .queried did request timeout (.waiting handle) ∈ calls →
    0 < timeout

variable {calls : List ProtocolCall} {c : ProtocolCall} {r : Row}

theorem after_concat (calls : List ProtocolCall) (c : ProtocolCall) :
    after (calls ++ [c]) = (after calls).call c := by
  simp [after]

theorem after_time (calls : List ProtocolCall) :
    (after calls).time = ProtocolCall.total calls := by
  induction calls using List.reverseRecOn with
  | nil => rfl
  | append_singleton calls c ih =>
    rw [after_concat, ProtocolCall.total_append, ← ih]
    simp [call, ProtocolCall.total]

theorem after_made (calls : List ProtocolCall) :
    (after calls).made = (ProtocolCall.admitted calls).length := by
  induction calls using List.reverseRecOn with
  | nil => rfl
  | append_singleton calls c ih =>
    rw [after_concat, ProtocolCall.admitted_append, List.length_append, ← ih, ← after_time]
    rfl

theorem waiting_sublist (calls : List ProtocolCall) :
    (after calls).waiting.Sublist (ProtocolCall.admitted calls) := by
  induction calls using List.reverseRecOn with
  | nil => exact .refl []
  | append_singleton calls c ih =>
    rw [after_concat, ProtocolCall.admitted_append, ← after_made, ← after_time]
    cases c with
    | queried did request timeout start => exact ih.append_right _
    | processed elapsed frame events =>
      exact ((Row.left_sublist _ frame _).trans ih).trans (List.sublist_append_left _ _)

theorem waiting_nodup (calls : List ProtocolCall) : (after calls).waiting.Nodup :=
  (ProtocolCall.admitted_nodup calls).sublist (waiting_sublist calls)

/-- Only queries that came to wait are answered. -/
theorem Answered.admitted (h : Answered calls r) : r ∈ ProtocolCall.admitted calls := by
  obtain ⟨before, elapsed, frame, events, later, f, rfl, hanswered⟩ := h
  have hwaits := (Row.mem_of_answered hanswered).2.1
  exact (ProtocolCall.admitted_prefix before _).subset ((waiting_sublist before).subset hwaits)

theorem answered_concat :
    Answered (calls ++ [c]) r ↔ Answered calls r ∨ ∃ elapsed frame events f,
      c = .processed elapsed frame events ∧
        Row.answered frame (after calls).waiting = some (f, r) := by
  constructor
  · rintro ⟨before, elapsed, frame, events, later, f, hsplit, hanswered⟩
    rcases concat_eq_append_cons hsplit with ⟨rfl, rfl⟩ | ⟨earlier, rfl, -⟩
    · exact .inr ⟨elapsed, frame, events, f, rfl, hanswered⟩
    · exact .inl ⟨before, elapsed, frame, events, earlier, f, rfl, hanswered⟩
  · rintro (⟨before, elapsed, frame, events, later, f, rfl, hanswered⟩ |
      ⟨elapsed, frame, events, f, rfl, hanswered⟩)
    · exact ⟨before, elapsed, frame, events, later ++ [c], f, by simp, hanswered⟩
    · exact ⟨calls, elapsed, frame, events, [], f, rfl, hanswered⟩

/-- A query that comes to wait is due later, and nobody has answered it. -/
theorem row?_waits {did : BusDeviceId} {request : BusFrame} {timeout : Duration}
    {start : QueryStart} {row : Row}
    (hpaced : Paced (calls ++ [.queried did request timeout start]))
    (hrow : (ProtocolCall.queried did request timeout start).row? (after calls).made
      (after calls).time = some row) :
    (after calls).time < row.due ∧ ¬Answered calls row := by
  constructor
  · unfold ProtocolCall.row? at hrow
    split at hrow
    · rename_i hcall
      cases hcall
      cases hrow
      exact Nat.lt_add_of_pos_right
        (hpaced _ _ _ _ (List.mem_append_right _ List.mem_cons_self))
    · cases hrow
  · intro hanswered
    have hticket := ProtocolCall.ticket_lt hanswered.admitted
    rw [ProtocolCall.row?_ticket hrow, after_made] at hticket
    exact Nat.lt_irrefl _ hticket

/-- A query waits from when it was made until it is due or answered. -/
theorem mem_waiting (hpaced : Paced calls) :
    r ∈ (after calls).waiting ↔ r ∈ ProtocolCall.admitted calls ∧
      ProtocolCall.total calls < r.due ∧ ¬Answered calls r := by
  induction calls using List.reverseRecOn with
  | nil => simp [after, ProtocolCall.admitted, ProtocolCall.rowsFrom]
  | append_singleton calls c ih =>
    have ih := ih fun did request timeout handle hin =>
      hpaced did request timeout handle (List.mem_append_left _ hin)
    rw [← after_time] at ih ⊢
    rw [answered_concat, ProtocolCall.admitted_append, ← after_made, ← after_time, after_concat]
    cases c with
    | queried did request timeout start =>
      have hnew (row : Row)
          (hrow : (ProtocolCall.queried did request timeout start).row? (after calls).made
            (after calls).time = some row) := row?_waits hpaced hrow
      simp only [call, ProtocolCall.elapsed, Nat.add_zero, List.mem_append, ih, reduceCtorEq,
        false_and, exists_const, exists_false, or_false]
      constructor
      · rintro (⟨hin, hahead, hopen⟩ | hrow)
        · exact ⟨.inl hin, hahead, hopen⟩
        · exact ⟨.inr hrow, hnew r (Option.mem_toList.mp hrow)⟩
      · rintro ⟨hin | hrow, hahead, hopen⟩
        · exact .inl ⟨hin, hahead, hopen⟩
        · exact .inr hrow
    | processed elapsed frame events =>
      simp only [call, ProtocolCall.elapsed, ProtocolCall.row?, Option.toList_none, List.append_nil,
        Row.left, List.mem_filter, decide_eq_true_eq, Row.mem_unanswered (waiting_nodup calls), ih,
        ProtocolCall.processed.injEq, not_or]
      constructor
      · rintro ⟨⟨⟨hin, -, hopen⟩, hnow⟩, hahead⟩
        refine ⟨hin, hahead, hopen, ?_⟩
        rintro ⟨_, _, _, f, ⟨_, rfl, _⟩, hanswered⟩
        exact hnow f hanswered
      · rintro ⟨hin, hahead, hopen, hnow⟩
        refine ⟨⟨⟨hin, Nat.lt_of_le_of_lt (Nat.le_add_right _ _) hahead, hopen⟩, ?_⟩, hahead⟩
        intro f hanswered
        exact hnow ⟨elapsed, frame, events, f, ⟨rfl, rfl, rfl⟩, hanswered⟩

/-- The queries that a call finds due, which no frame answered before or in that call. -/
theorem mem_expired {elapsed : Duration} {frame : Option BusFrame} {events : List ProtocolEvent}
    (hpaced : Paced calls) :
    r ∈ Row.expired (ProtocolCall.total calls + elapsed) frame (after calls).waiting ↔
      r ∈ ProtocolCall.admitted calls ∧ ProtocolCall.total calls < r.due ∧
        r.due ≤ ProtocolCall.total calls + elapsed ∧
          ¬Answered (calls ++ [.processed elapsed frame events]) r := by
  simp only [Row.expired, List.mem_filter, decide_eq_true_eq,
    Row.mem_unanswered (waiting_nodup calls), mem_waiting hpaced, answered_concat,
    ProtocolCall.processed.injEq, not_or]
  constructor
  · rintro ⟨⟨⟨hin, hahead, hopen⟩, hnow⟩, hdue⟩
    refine ⟨hin, hahead, hdue, hopen, ?_⟩
    rintro ⟨_, _, _, f, ⟨_, rfl, _⟩, hanswered⟩
    exact hnow f hanswered
  · rintro ⟨hin, hahead, hdue, hopen, hnow⟩
    refine ⟨⟨⟨hin, hahead, hopen⟩, ?_⟩, hdue⟩
    intro f hanswered
    exact hnow ⟨elapsed, frame, events, f, ⟨rfl, rfl, rfl⟩, hanswered⟩

end Agenda

/-! The protocol. -/

namespace Arbiter

/-- Queries that wait have time to. -/
theorem query_paced {a : Arbiter} {did : BusDeviceId} {request : BusFrame} {timeout : Duration}
    {handle : QueryHandle} (h : (a.query did request timeout).1 = .waiting handle) :
    0 < timeout := by
  rcases a.query_cases did request timeout with
    ⟨code, hcase⟩ | ⟨transmit, hzero, hcase⟩ | ⟨transmit, hpositive, hcase⟩
  · rw [hcase] at h
    cases h
  · rw [hcase] at h
    cases h
  · exact Nat.pos_of_ne_zero hpositive

/-- Lets time pass without frames, in several calls. -/
def lapse : List Duration → Arbiter → List ProtocolEvent × Arbiter
  | [], a => ([], a)
  | elapsed :: rest, a =>
    let (events, next) := a.process elapsed none
    let (more, last) := lapse rest next
    (events ++ more, last)

/-- However a stretch of time is cut, the queries that are due at its end have come to theirs. -/
theorem lapse_rows {a : Arbiter} {rows : List Row} {last : Instant} (stretches : List Duration)
    (hrows : a.outstanding = rows.map (Row.outstanding last)) (hahead : ∀ r ∈ rows, last < r.due) :
    (a.lapse stretches).1.Perm
        ((rows.filter fun r => r.due ≤ last + stretches.sum).map
          fun r => .completed r.handle .timedOut none) ∧
      (a.lapse stretches).2 =
        { a with
          outstanding := (rows.filter fun r => last + stretches.sum < r.due).map
            (Row.outstanding (last + stretches.sum)) } := by
  induction stretches generalizing a rows last with
  | nil =>
    have hnone : rows.filter (fun r => r.due ≤ last) = [] := by
      apply List.filter_eq_nil_iff.mpr
      intro r hr
      simpa using hahead r hr
    have hall : rows.filter (fun r => last < r.due) = rows := by
      apply List.filter_eq_self.mpr
      intro r hr
      simpa using hahead r hr
    simp [lapse, hnone, hall, ← hrows]
  | cons elapsed rest ih =>
    have hprocess := Row.process_rows hrows (Nat.le_add_right last elapsed) none
    rw [Nat.add_sub_cancel_left] at hprocess
    have hstill : (a.process elapsed none).2.outstanding =
        (rows.filter fun r => last + elapsed < r.due).map (Row.outstanding (last + elapsed)) := by
      rw [hprocess]
      rfl
    obtain ⟨hmore, hlast⟩ := ih hstill fun r hr => of_decide_eq_true (List.mem_filter.mp hr).2
    have hmid : last + elapsed ≤ last + elapsed + rest.sum := Nat.le_add_right _ _
    rw [Row.filter_ahead hmid] at hlast
    rw [List.sum_cons, ← Nat.add_assoc]
    constructor
    · refine List.Perm.trans ?_ ((Row.due_perm hmid rows).map _)
      rw [List.map_append]
      unfold lapse
      rw [hprocess] at hmore ⊢
      exact hmore.append_left _
    · unfold lapse
      rw [hprocess] at hlast ⊢
      exact hlast

end Arbiter

namespace Metered

/-- The agenda that the calls so far make. -/
def agenda (m : Metered) : Agenda := .after m.calls

/-- The protocol and the agenda agree: on the queries that wait, on the time that is left to them
and on what was reported in every call. -/
structure Follows (m : Metered) : Prop where
  parts : ∃ gone, m.Parts gone m.agenda.waiting
  paced : Agenda.Paced m.calls
  reported : ∀ before elapsed frame events later,
    m.calls = before ++ .processed elapsed frame events :: later →
      events = Worker.turnEvents (ProtocolCall.total before + elapsed) frame
        (Agenda.after before).waiting

variable {m : Metered}

theorem agenda_time (m : Metered) : m.agenda.time = m.time := Agenda.after_time m.calls

theorem agenda_made (m : Metered) : m.agenda.made = m.admitted.length := Agenda.after_made m.calls

theorem new_follows (depth : Nat) : (new depth).Follows where
  parts := ⟨[], new_parts depth⟩
  paced _ _ _ _ hin := nomatch hin
  reported before elapsed frame events later hcalls := by simp [new] at hcalls

/-- Only a query with time to wait comes to wait. -/
theorem Follows.query (h : m.Follows) (did : BusDeviceId) (request : BusFrame)
    (timeout : Duration) : (m.query did request timeout).2.Follows := by
  obtain ⟨gone, hparts⟩ := h.parts
  have hparts := hparts.query did request timeout
  constructor
  · refine ⟨gone, ?_⟩
    have hagenda : (m.query did request timeout).2.agenda = m.agenda.call
        (.queried did request timeout (m.arbiter.query did request timeout).1) :=
      Agenda.after_concat _ _
    rw [← agenda_made, ← agenda_time] at hparts
    rw [hagenda]
    exact hparts
  · intro did' request' timeout' handle hin
    rcases List.mem_append.mp hin with hin | hin
    · exact h.paced _ _ _ _ hin
    · have hcall := List.mem_singleton.mp hin
      injection hcall with _ _ htimeout hstart
      exact htimeout ▸ Arbiter.query_paced hstart.symm
  · intro before elapsed frame events later hsplit
    rcases concat_eq_append_cons hsplit with ⟨-, hcall⟩ | ⟨earlier, hcalls, -⟩
    · cases hcall
    · exact h.reported before elapsed frame events earlier hcalls

theorem Follows.process (h : m.Follows) (elapsed : Duration) (frame : Option BusFrame) :
    (m.process elapsed frame).2.Follows := by
  obtain ⟨gone, hparts⟩ := h.parts
  have hprocess := Row.process_rows hparts.outstanding (Nat.le_add_right m.time elapsed) frame
  rw [Nat.add_sub_cancel_left] at hprocess
  have hparts := hparts.process elapsed frame
  constructor
  · have hagenda : (m.process elapsed frame).2.agenda = m.agenda.call
        (.processed elapsed frame (m.arbiter.process elapsed frame).1) :=
      Agenda.after_concat _ _
    have hwaiting : (m.process elapsed frame).2.agenda.waiting =
        Row.left (m.time + elapsed) frame m.agenda.waiting := by
      rw [hagenda, ← agenda_time]
      rfl
    rw [hwaiting]
    exact ⟨_, hparts⟩
  · intro did request timeout handle hin
    rcases List.mem_append.mp hin with hin | hin
    · exact h.paced _ _ _ _ hin
    · cases List.mem_singleton.mp hin
  · intro before elapsed' frame' events later hsplit
    rcases concat_eq_append_cons hsplit with ⟨hcalls, hcall⟩ | ⟨earlier, hcalls, -⟩
    · injection hcall with helapsed hframe hevents
      subst helapsed hframe hevents hcalls
      exact congrArg Prod.fst hprocess
    · exact h.reported before elapsed' frame' events earlier hcalls

/-- Whatever calls nothing and leaves the queries alone. -/
theorem Follows.congr {next : Metered} (h : m.Follows) (hcalls : next.calls = m.calls)
    (houtstanding : next.arbiter.outstanding = m.arbiter.outstanding) : next.Follows := by
  obtain ⟨gone, hparts⟩ := h.parts
  have hagenda : next.agenda = m.agenda := congrArg Agenda.after hcalls
  constructor
  · rw [hagenda]
    exact ⟨gone, hparts.congr (congrArg ProtocolCall.admitted hcalls)
      (congrArg ProtocolCall.ended hcalls) (congrArg ProtocolCall.total hcalls) houtstanding⟩
  · exact hcalls ▸ h.paced
  · exact hcalls ▸ h.reported

theorem Follows.step (h : m.Follows) (event : ProtocolStep) : (m.step event).Follows := by
  cases event with
  | query did request timeout => exact h.query did request timeout
  | send did request =>
    have hrest := congrArg Arbiter.outstanding (m.arbiter.send_rest did request)
    exact h.congr rfl hrest
  | process elapsed frame => exact h.process elapsed frame
  | drive transmit => exact h.congr rfl rfl

theorem run_follows (depth : Nat) (steps : List ProtocolStep) :
    (run steps (new depth)).Follows :=
  run_keeps (fun _ event h => h.step event) (new_follows depth) steps

/-- What counting down comes to in absolute time: every query ends at the first call that finds it
due, and the protocol knows how long nothing is due. -/
structure Punctual (m : Metered) : Prop where
  /-- A query waits from when it was made until it is due or answered. -/
  waiting : ∀ r, r ∈ m.agenda.waiting ↔
    r ∈ m.admitted ∧ m.time < r.due ∧ ¬Agenda.Answered m.calls r
  ordered : m.agenda.waiting.Sublist m.admitted
  /-- Of each query that waits the protocol has the time up to when it is due. -/
  outstanding : m.arbiter.outstanding = m.agenda.waiting.map (Row.outstanding m.time)
  remaining : ∀ q ∈ m.arbiter.outstanding, 0 < q.remaining
  /-- After what its frame came to, a call reports the queries that it is the first to find due,
  but for those that a frame answered, be it the one of this call. -/
  reported : ∀ before elapsed frame events later,
    m.calls = before ++ .processed elapsed frame events :: later →
      ∃ late : List Row, late.Sublist (ProtocolCall.admitted before) ∧
        events = Row.answerEvents frame (Agenda.after before).waiting ++
          late.map (fun r => .completed r.handle .timedOut none) ∧
        ∀ r, r ∈ late ↔ r ∈ ProtocolCall.admitted before ∧ ProtocolCall.total before < r.due ∧
          r.due ≤ ProtocolCall.total before + elapsed ∧
            ¬Agenda.Answered (before ++ [.processed elapsed frame events]) r
  idle : m.arbiter.nextTimeout = none ↔ m.arbiter.outstanding = []
  /-- The next timeout is the time up to when a query is due, and none is due before. -/
  next : ∀ pause, m.arbiter.nextTimeout = some pause →
    (∃ r ∈ m.agenda.waiting, r.due = m.time + pause) ∧
      ∀ r ∈ m.agenda.waiting, m.time + pause ≤ r.due
  quiet : ∀ elapsed, (∀ pause, m.arbiter.nextTimeout = some pause → elapsed < pause) →
    (m.arbiter.process elapsed none).1 = []
  due : ∀ pause elapsed, m.arbiter.nextTimeout = some pause → pause ≤ elapsed →
    ∃ handle, .completed handle .timedOut none ∈ (m.arbiter.process elapsed none).1
  /-- A stretch of time may come in several calls. -/
  divided : ∀ stretches,
    (m.arbiter.lapse stretches).1.Perm (m.arbiter.process stretches.sum none).1 ∧
      (m.arbiter.lapse stretches).2 = (m.arbiter.process stretches.sum none).2

/-- The least of what is left of the queries, seen from the rows. -/
theorem nextTimeout_rows {a : Arbiter} {rows : List Row} {last : Instant} {pause : Duration}
    (hrows : a.outstanding = rows.map (Row.outstanding last)) (hahead : ∀ r ∈ rows, last < r.due)
    (hnext : a.nextTimeout = some pause) :
    (∃ r ∈ rows, r.due = last + pause) ∧ ∀ r ∈ rows, last + pause ≤ r.due := by
  unfold Arbiter.nextTimeout at hnext
  rw [hrows, List.map_map, List.min?_eq_some_iff] at hnext
  obtain ⟨hin, hleast⟩ := hnext
  constructor
  · obtain ⟨r, hr, rfl⟩ := List.mem_map.mp hin
    exact ⟨r, hr, (Nat.add_sub_of_le (Nat.le_of_lt (hahead r hr))).symm⟩
  · intro r hr
    have hle : pause ≤ r.due - last := hleast _ (List.mem_map_of_mem hr)
    exact Nat.add_comm last pause ▸ (Nat.le_sub_iff_add_le (Nat.le_of_lt (hahead r hr))).mp hle

theorem Follows.punctual (h : m.Follows) : m.Punctual := by
  obtain ⟨gone, hparts⟩ := h.parts
  have hahead := hparts.ahead
  have hprocess (elapsed : Duration) :=
    Row.process_rows hparts.outstanding (Nat.le_add_right m.time elapsed) none
  simp only [Nat.add_sub_cancel_left] at hprocess
  constructor
  case waiting => exact fun r => Agenda.mem_waiting h.paced
  case ordered => exact hparts.ordered
  case outstanding => exact hparts.outstanding
  case remaining =>
    intro q hq
    rw [hparts.outstanding] at hq
    obtain ⟨r, hr, rfl⟩ := List.mem_map.mp hq
    exact Nat.sub_pos_of_lt (hahead r hr)
  case reported =>
    intro before elapsed frame events later hcalls
    refine ⟨Row.expired (ProtocolCall.total before + elapsed) frame (Agenda.after before).waiting,
      ?_, h.reported before elapsed frame events later hcalls, fun r => Agenda.mem_expired ?_⟩
    · exact (List.filter_sublist.trans (Row.unanswered_sublist frame _)).trans
        (Agenda.waiting_sublist before)
    · intro did request timeout handle hin
      exact h.paced did request timeout handle (hcalls ▸ List.mem_append_left _ hin)
  case idle =>
    unfold Arbiter.nextTimeout
    rw [List.min?_eq_none_iff, List.map_eq_nil_iff]
  case next => exact fun pause hnext => nextTimeout_rows hparts.outstanding hahead hnext
  case quiet =>
    intro elapsed hearly
    have hnone : m.agenda.waiting.filter (fun r => r.due ≤ m.time + elapsed) = [] := by
      apply List.filter_eq_nil_iff.mpr
      intro r hr hdue
      cases hnext : m.arbiter.nextTimeout with
      | none =>
        unfold Arbiter.nextTimeout at hnext
        rw [List.min?_eq_none_iff, List.map_eq_nil_iff, hparts.outstanding,
          List.map_eq_nil_iff] at hnext
        exact List.not_mem_nil (hnext ▸ hr)
      | some pause =>
        have hnotdue := (nextTimeout_rows hparts.outstanding hahead hnext).2 r hr
        have hlater := Nat.add_lt_add_left (hearly pause hnext) m.time
        exact Nat.not_lt_of_le (hnotdue.trans (of_decide_eq_true hdue)) hlater
    rw [hprocess]
    simp [Row.answerEvents, Row.expired, Row.unanswered, hnone]
  case due =>
    intro pause elapsed hnext hpause
    obtain ⟨⟨r, hr, hdue⟩, -⟩ := nextTimeout_rows hparts.outstanding hahead hnext
    have hlate : r ∈ Row.expired (m.time + elapsed) none m.agenda.waiting :=
      List.mem_filter.mpr ⟨hr, decide_eq_true (hdue ▸ Nat.add_le_add_left hpause _)⟩
    rw [hprocess]
    exact ⟨r.handle, List.mem_append_right _ (List.mem_map_of_mem hlate)⟩
  case divided =>
    intro stretches
    have hlapse := Arbiter.lapse_rows stretches hparts.outstanding hahead
    rw [hprocess]
    exact hlapse

/-- However the protocol was used, its countdowns come to the agenda. -/
theorem run_punctual (depth : Nat) (steps : List ProtocolStep) :
    (run steps (new depth)).Punctual :=
  (run_follows depth steps).punctual

end Metered

end HomeGateway
