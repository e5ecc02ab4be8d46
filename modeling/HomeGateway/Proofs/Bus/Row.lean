import Mathlib
import HomeGateway.Bus.Arbiter
import HomeGateway.Bus.Worker

/-!
Queries that wait, seen from outside. The protocol keeps what is left of each query's time, the
worker who is to be told; both lists come from one list of rows with the instant at which each
query is due. A turn of the worker is what it does to the rows.
-/

namespace HomeGateway

/-- A protocol with an arbiter in it that does all the work. -/
class Arbitrated (π : Type) extends BusProtocol π where
  arbiter : π → Arbiter
  query_eq : ∀ p did request timeout,
    (arbiter p).query did request timeout =
      ((query p did request timeout).1, arbiter (query p did request timeout).2)
  send_eq : ∀ p did request,
    (arbiter p).send did request = ((send p did request).1, arbiter (send p did request).2)
  process_eq : ∀ p elapsed frame,
    (arbiter p).process elapsed frame =
      ((process p elapsed frame).1, arbiter (process p elapsed frame).2)
  nextTimeout_eq : ∀ p, (arbiter p).nextTimeout = nextTimeout p

instance : Arbitrated Arbiter where
  arbiter a := a
  query_eq _ _ _ _ := rfl
  send_eq _ _ _ := rfl
  process_eq _ _ _ := rfl
  nextTimeout_eq _ := rfl

/-- A query that waits for its answer until it is due. -/
structure Row where
  ticket : Nat
  submitted : Instant
  handle : QueryHandle
  did : BusDeviceId
  request : BusFrame
  due : Instant

namespace Row

/-- What the worker keeps of it. -/
def parked (r : Row) : Parked :=
  { handle := r.handle, ticket := r.ticket, submitted := r.submitted }

/-- What the protocol keeps of it, which was last told the time at `last`. -/
def outstanding (last : Instant) (r : Row) : Outstanding :=
  { handle := r.handle, did := r.did, request := r.request, remaining := r.due - last }

def answeredBy (frame : BusFrame) (r : Row) : Bool := r.did = frame.did ∧ frame.answers r.request

/-- The end of a query with an answer. -/
def answer (now : Instant) (frame : BusFrame) (r : Row) : Notice :=
  .completion r.ticket (.completed (Arbiter.answerStatus frame) (some frame)) (now - r.submitted)

/-- The end of a query without one. -/
def expiry (now : Instant) (r : Row) : Notice :=
  .completion r.ticket (.completed .timedOut none) (now - r.submitted)

/-- The query that a frame answers, the oldest one if there are several. -/
def answered (frame : Option BusFrame) (rows : List Row) : Option (BusFrame × Row) :=
  frame.bind fun f => (rows.find? (answeredBy f)).map fun r => (f, r)

/-- The others. -/
def unanswered (frame : Option BusFrame) (rows : List Row) : List Row :=
  match frame with
  | some f => rows.eraseP (answeredBy f)
  | none => rows

/-- Those that are due, once a frame was dealt with. -/
def expired (now : Instant) (frame : Option BusFrame) (rows : List Row) : List Row :=
  (unanswered frame rows).filter fun r => r.due ≤ now

/-- Those that wait on. -/
def left (now : Instant) (frame : Option BusFrame) (rows : List Row) : List Row :=
  (unanswered frame rows).filter fun r => now < r.due

/-- Those that come to their end. -/
def gone (now : Instant) (frame : Option BusFrame) (rows : List Row) : List Row :=
  (answered frame rows).toList.map Prod.snd ++ expired now frame rows

variable {rows : List Row} {now last : Instant}

theorem unanswered_sublist (frame : Option BusFrame) (rows : List Row) :
    (unanswered frame rows).Sublist rows := by
  cases frame with
  | none => exact List.Sublist.refl rows
  | some f => exact List.eraseP_sublist

theorem left_sublist (now : Instant) (frame : Option BusFrame) (rows : List Row) :
    (left now frame rows).Sublist rows :=
  List.filter_sublist.trans (unanswered_sublist frame rows)

theorem mem_of_answered {frame : Option BusFrame} {f : BusFrame} {r : Row}
    (h : answered frame rows = some (f, r)) :
    frame = some f ∧ r ∈ rows ∧ r.did = f.did ∧ f.answers r.request = true := by
  cases frame with
  | none => cases h
  | some g =>
    simp only [answered, Option.bind_some, Option.map_eq_some_iff, Prod.mk.injEq] at h
    obtain ⟨r, hfind, rfl, rfl⟩ := h
    have hanswers := List.find?_some hfind
    simp only [answeredBy, decide_eq_true_eq] at hanswers
    exact ⟨rfl, List.mem_of_find?_eq_some hfind, hanswers⟩

theorem mem_expired {frame : Option BusFrame} {r : Row} (h : r ∈ expired now frame rows) :
    r ∈ rows ∧ r.due ≤ now := by
  obtain ⟨hmem, hdue⟩ := List.mem_filter.mp h
  exact ⟨(unanswered_sublist frame rows).subset hmem, of_decide_eq_true hdue⟩

/-- Handles tell rows apart. -/
theorem eq_of_handle (hdistinct : (rows.map Row.handle).Nodup) {r s : Row} (hr : r ∈ rows)
    (hs : s ∈ rows) (hhandle : r.handle = s.handle) : r = s :=
  List.inj_on_of_nodup_map hdistinct hr hs hhandle

/-- The row that is found and the rest. -/
theorem eraseP_eq_filter (hdistinct : (rows.map Row.handle).Nodup) {p : Row → Bool} {r : Row}
    (hfind : rows.find? p = some r) : rows.eraseP p = rows.filter fun s => s.handle ≠ r.handle := by
  induction rows with
  | nil => cases hfind
  | cons first rest ih =>
    rw [List.map_cons, List.nodup_cons] at hdistinct
    rw [List.find?_cons] at hfind
    cases hp : p first with
    | true =>
      simp only [hp, Option.some.injEq] at hfind
      subst hfind
      have hrest : rest.filter (fun s => s.handle ≠ first.handle) = rest := by
        apply List.filter_eq_self.mpr
        intro s hs
        have hne : s.handle ≠ first.handle := fun heq =>
          hdistinct.1 (heq ▸ List.mem_map_of_mem hs)
        simpa using hne
      rw [List.eraseP_cons_of_pos hp, List.filter_cons_of_neg (by simp), hrest]
    | false =>
      simp only [hp] at hfind
      have hne : first.handle ≠ r.handle := fun heq =>
        hdistinct.1 (heq ▸ List.mem_map_of_mem (List.mem_of_find?_eq_some hfind))
      rw [List.eraseP_cons_of_neg (by simp [hp]), List.filter_cons_of_pos (by simpa using hne),
        ih hdistinct.2 hfind]

theorem unanswered_perm (frame : Option BusFrame) (rows : List Row) :
    ((answered frame rows).toList.map Prod.snd ++ unanswered frame rows).Perm rows := by
  cases frame with
  | none => exact List.Perm.refl rows
  | some f =>
    simp only [answered, unanswered, Option.bind_some]
    induction rows with
    | nil => exact List.Perm.refl []
    | cons first rest ih =>
      rw [List.find?_cons]
      cases hp : answeredBy f first with
      | true =>
        rw [List.eraseP_cons_of_pos hp]
        exact List.Perm.refl _
      | false =>
        rw [List.eraseP_cons_of_neg (by simp [hp])]
        exact List.perm_middle.trans (ih.cons first)

theorem mem_unanswered {frame : Option BusFrame} {r : Row} (honce : rows.Nodup) :
    r ∈ unanswered frame rows ↔ r ∈ rows ∧ ∀ f, answered frame rows ≠ some (f, r) := by
  have hperm := unanswered_perm frame rows
  have hdisjoint := (List.nodup_append.mp (hperm.nodup_iff.mpr honce)).2.2
  rw [← hperm.mem_iff, List.mem_append]
  constructor
  · intro hwaits
    refine ⟨.inr hwaits, fun f hanswered => hdisjoint r ?_ r hwaits rfl⟩
    simp [hanswered]
  · rintro ⟨hgone | hwaits, hunanswered⟩
    · obtain ⟨⟨f, other⟩, hanswered, rfl⟩ := List.mem_map.mp hgone
      exact absurd (Option.mem_toList.mp hanswered) (hunanswered f)
    · exact hwaits

/-- Every row comes to its end or waits on. -/
theorem gone_perm (now : Instant) (frame : Option BusFrame) (rows : List Row) :
    (gone now frame rows ++ left now frame rows).Perm rows := by
  have hleft : left now frame rows =
      (unanswered frame rows).filter fun r => !decide (r.due ≤ now) := by
    apply List.filter_congr
    intro r _
    simp only [← decide_not, Nat.not_le]
  unfold gone expired
  rw [hleft, List.append_assoc]
  exact ((List.filter_append_perm _ _).append_left _).trans (unanswered_perm frame rows)

/-- The rows that wait on are those whose tickets are not among the ended ones. -/
theorem filter_gone {now : Instant} {frame : Option BusFrame} {rows : List Row}
    (honce : (rows.map Row.ticket).Nodup) :
    (rows.map Row.ticket).filter (fun ticket => ticket ∉ (gone now frame rows).map Row.ticket) =
      (left now frame rows).map Row.ticket := by
  have hperm := (gone_perm now frame rows).map Row.ticket
  rw [List.map_append] at hperm
  have hdisjoint := (List.nodup_append.mp (hperm.nodup_iff.mpr honce)).2.2
  have hsublist := (left_sublist now frame rows).map Row.ticket
  have hself : ((left now frame rows).map Row.ticket).filter
      (fun ticket => ticket ∉ (gone now frame rows).map Row.ticket) =
        (left now frame rows).map Row.ticket := by
    apply List.filter_eq_self.mpr
    intro ticket hticket
    exact decide_eq_true fun hgone => hdisjoint ticket hgone ticket hticket rfl
  symm
  refine List.Sublist.eq_of_length ?_ ?_
  · rw [← hself]
    exact hsublist.filter _
  · apply List.Perm.length_eq
    rw [List.perm_ext_iff_of_nodup (honce.sublist hsublist) (honce.filter _)]
    intro ticket
    rw [List.mem_filter, decide_eq_true_eq]
    constructor
    · intro hleft
      refine ⟨hsublist.subset hleft, fun hgone => hdisjoint ticket hgone ticket hleft rfl⟩
    · rintro ⟨hin, hout⟩
      exact (List.mem_append.mp (hperm.mem_iff.mpr hin)).resolve_left hout

/-! What the protocol does to its part of the rows. -/

theorem takeAnswered_rows (frame : BusFrame) (rows : List Row) (last : Instant) :
    Arbiter.takeAnswered frame (rows.map (outstanding last)) =
      (rows.find? (answeredBy frame)).map fun r =>
        (r.outstanding last, (rows.eraseP (answeredBy frame)).map (outstanding last)) := by
  induction rows with
  | nil => rfl
  | cons first rest ih =>
    rw [List.map_cons, Arbiter.takeAnswered, List.find?_cons]
    by_cases hanswers : first.did = frame.did ∧ frame.answers first.request
    · have hp : answeredBy frame first = true := by simpa [answeredBy] using hanswers
      rw [if_pos (by exact hanswers), hp, List.eraseP_cons_of_pos hp]
      rfl
    · have hp : answeredBy frame first = false := by simpa [answeredBy] using hanswers
      rw [if_neg (by exact hanswers), hp, List.eraseP_cons_of_neg (by simp [hp]), ih]
      cases rest.find? (answeredBy frame) <;> rfl

/-- Only a response answers anything. -/
theorem find?_answeredBy_query {frame : BusFrame} (hquery : frame.isResponse = false)
    (rows : List Row) : rows.find? (answeredBy frame) = none := by
  apply List.find?_eq_none.mpr
  intro r _
  simp [answeredBy, BusFrame.answers, hquery]

/-- What the protocol reports of a frame. -/
def answerEvents (frame : Option BusFrame) (rows : List Row) : List ProtocolEvent :=
  match frame with
  | none => []
  | some f =>
    match rows.find? (answeredBy f) with
    | some r => [.completed r.handle (Arbiter.answerStatus f) (some f)]
    | none => if f.isResponse then [.unsolicited f] else []

theorem resolve_rows (frame : BusFrame) (rows : List Row) (last : Instant) :
    Arbiter.resolve frame (rows.map (outstanding last)) =
      (answerEvents (some frame) rows, (unanswered (some frame) rows).map (outstanding last)) := by
  unfold Arbiter.resolve answerEvents unanswered
  rw [takeAnswered_rows]
  cases hfind : rows.find? (answeredBy frame) with
  | none =>
    have hrows : rows.eraseP (answeredBy frame) = rows := by
      apply List.eraseP_of_forall_not
      intro r hr
      simpa using List.find?_eq_none.mp hfind r hr
    cases hresponse : frame.isResponse <;> simp [hfind, hresponse, hrows]
  | some r =>
    have hresponse : frame.isResponse = true := by
      by_contra hquery
      rw [Bool.not_eq_true] at hquery
      rw [find?_answeredBy_query hquery] at hfind
      cases hfind
    simp only [hfind, hresponse, if_true, Option.map_some]
    rfl

/-- Time that passes is taken off what is left. -/
theorem age_outstanding (hnow : last ≤ now) (r : Row) :
    Arbiter.age (now - last) (r.outstanding last) = r.outstanding now := by
  simp only [Arbiter.age, outstanding, tsub_tsub_tsub_cancel_right hnow]

theorem expire_rows (hnow : last ≤ now) (rows : List Row) :
    Arbiter.expire (now - last) (rows.map (outstanding last)) =
      ((rows.filter fun r => r.due ≤ now).map fun r => .completed r.handle .timedOut none,
        (rows.filter fun r => now < r.due).map (outstanding now)) := by
  have haged : (rows.map (outstanding last)).map (Arbiter.age (now - last)) =
      rows.map (outstanding now) := by
    rw [List.map_map]
    exact List.map_congr_left fun r _ => age_outstanding hnow r
  have hdue (r : Row) : r.due - now = 0 ↔ r.due ≤ now := Nat.sub_eq_zero_iff_le
  unfold Arbiter.expire
  rw [haged]
  simp only [List.filter_map, List.map_map, Function.comp_def, outstanding, ne_eq, hdue, Nat.not_le]

theorem process_rows {a : Arbiter} (hrows : a.outstanding = rows.map (outstanding last))
    (hnow : last ≤ now) (frame : Option BusFrame) :
    a.process (now - last) frame =
      (answerEvents frame rows ++
          (expired now frame rows).map fun r => .completed r.handle .timedOut none,
        { a with outstanding := (left now frame rows).map (outstanding now) }) := by
  unfold Arbiter.process expired left
  cases frame with
  | none => simp [hrows, expire_rows hnow, answerEvents, unanswered]
  | some f => simp [hrows, resolve_rows, expire_rows hnow]

/-! What the worker does with it. -/

theorem handle_completed (hdistinct : (rows.map Row.handle).Nodup) {r : Row} (hr : r ∈ rows)
    (now : Instant) (status : CompletionStatus) (response : Option BusFrame) :
    Worker.handle (rows.map parked) now (.completed r.handle status response) =
      (Worker.telemetryOf response ++
          [.completion r.ticket (.completed status response) (now - r.submitted)],
        (rows.filter fun s => s.handle ≠ r.handle).map parked) := by
  have hfind : (rows.map parked).find? (fun p => p.handle = r.handle) = some r.parked := by
    rw [List.find?_map]
    have hsome : (rows.find? fun s => s.parked.handle = r.handle).isSome :=
      List.find?_isSome.mpr ⟨r, hr, by simp [parked]⟩
    obtain ⟨s, hs⟩ := Option.isSome_iff_exists.mp hsome
    have hfound := List.find?_some hs
    have hhandle : s.handle = r.handle := of_decide_eq_true hfound
    have hsame := eq_of_handle hdistinct (List.mem_of_find?_eq_some hs) hr hhandle
    simp only [Function.comp_def, hs, hsame, Option.map_some]
  unfold Worker.handle
  simp only [hfind, List.filter_map, Function.comp_def]
  rfl

theorem handleAll_append (now : Instant) (first second : List ProtocolEvent)
    (parked : List Parked) :
    Worker.handleAll now (first ++ second) parked =
      ((Worker.handleAll now first parked).1 ++
          (Worker.handleAll now second (Worker.handleAll now first parked).2).1,
        (Worker.handleAll now second (Worker.handleAll now first parked).2).2) := by
  induction first generalizing parked with
  | nil => rfl
  | cons event rest ih =>
    simp only [List.cons_append, Worker.handleAll, ih, List.append_assoc]

theorem handleAll_answer (hdistinct : (rows.map Row.handle).Nodup) (now : Instant)
    (frame : Option BusFrame) :
    Worker.handleAll now (answerEvents frame rows) (rows.map parked) =
      (Worker.telemetryOf frame ++
          (answered frame rows).toList.map fun found => found.2.answer now found.1,
        (unanswered frame rows).map parked) := by
  cases frame with
  | none => rfl
  | some f =>
    unfold answerEvents answered unanswered
    simp only [Option.bind_some]
    cases hfind : rows.find? (answeredBy f) with
    | none =>
      have hrows : rows.eraseP (answeredBy f) = rows := by
        apply List.eraseP_of_forall_not
        intro r hr
        simpa using List.find?_eq_none.mp hfind r hr
      rw [hrows]
      cases hresponse : f.isResponse <;>
        simp [Worker.handleAll, Worker.handle, Worker.telemetryOf, BusFrame.isBoardTelemetry,
          hresponse]
    | some r =>
      simp only [Worker.handleAll,
        handle_completed hdistinct (List.mem_of_find?_eq_some hfind),
        eraseP_eq_filter hdistinct hfind]
      simp [answer]

theorem handleAll_expired (now : Instant) (gone : List Row)
    (hgone : (gone.map Row.handle).Nodup) (hdistinct : (rows.map Row.handle).Nodup)
    (hsubset : ∀ r ∈ gone, r ∈ rows) :
    Worker.handleAll now (gone.map fun r => .completed r.handle .timedOut none)
        (rows.map parked) =
      (gone.map (expiry now),
        (rows.filter fun r => r.handle ∉ gone.map Row.handle).map parked) := by
  induction gone generalizing rows with
  | nil => simp [Worker.handleAll]
  | cons r rest ih =>
    rw [List.map_cons, List.nodup_cons] at hgone
    have hstill : ∀ s ∈ rest, s ∈ rows.filter fun s => s.handle ≠ r.handle := by
      intro s hs
      have hne : s.handle ≠ r.handle := fun heq => hgone.1 (heq ▸ List.mem_map_of_mem hs)
      exact List.mem_filter.mpr ⟨hsubset s (List.mem_cons_of_mem r hs), by simpa using hne⟩
    have hrest := ih hgone.2 (hdistinct.sublist (List.filter_sublist.map _)) hstill
    simp only [List.map_cons, Worker.handleAll,
      handle_completed hdistinct (hsubset r List.mem_cons_self), hrest]
    simp only [Worker.telemetryOf, List.nil_append, List.singleton_append, List.filter_filter,
      Prod.mk.injEq]
    refine ⟨rfl, ?_⟩
    congr 2
    funext s
    by_cases heq : s.handle = r.handle <;> simp [heq]

end Row

end HomeGateway
