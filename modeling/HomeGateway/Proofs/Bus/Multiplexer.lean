import Mathlib
import HomeGateway.Proofs.Bus.Turn

/-!
Runs of the bus worker over the field-bus protocol, in any order of frames, submissions, turns
and passing time. Every query that is accepted ends once, just when both the worker and the
protocol have done with it, and gets no answer but its own.
-/

namespace HomeGateway

/-- What happens at a bus. Time passes without regard to what the worker has to do. -/
inductive BusStep where
  | receive (raw : RawFrame)
  | query (did : BusDeviceId) (request : BusFrame) (timeout : Duration)
  | send (did : BusDeviceId) (request : BusFrame)
  | wait (time : Duration)
  | turn
  | drain
  | disconnect

/-- What the worker did: it dealt with a frame and with passing time, or accepted a query. -/
inductive BusRecord where
  | advanced (frame : Option BusFrame) (notices : List Notice)
  | accepted (ticket : Nat) (did : BusDeviceId) (request : BusFrame) (start : QueryStart)
      (notices : List Notice)

/-- Whether a caller is handed a frame. -/
def Notice.carriesFrame : Notice → Bool
  | .completion _ (.completed _ (some _)) _ => true
  | _ => false

namespace BusRecord

def notices : BusRecord → List Notice
  | .advanced _ notices => notices
  | .accepted _ _ _ _ notices => notices

def accepted? : BusRecord → Option Nat
  | .accepted ticket .. => some ticket
  | _ => none

/-- The ticket of a query that the protocol gave a handle. -/
def waiting? : BusRecord → Option Nat
  | .accepted ticket _ _ (.waiting _) _ => some ticket
  | _ => none

def ended (r : BusRecord) : List Nat := r.notices.filterMap Notice.ended?

end BusRecord

/-- A bus worker and what it did so far. Queries are numbered as they are made. -/
structure Traffic where
  worker : Worker Arbiter
  now : Instant
  tickets : Nat
  log : List BusRecord

namespace Traffic

/-- A worker without anything to do. -/
def start (depth : Nat) (now : Instant) : Traffic :=
  { worker := .start (.new depth) now, now, tickets := 0, log := [] }

def submit (t : Traffic) (submission : Submission) : Traffic :=
  { t with worker := { t.worker with submissions := t.worker.submissions ++ [submission] } }

/-- The frame that the worker takes in next, if it can be decoded. -/
def nextFrame (t : Traffic) : Option BusFrame := t.worker.frames.head?.bind BusFrame.ofRaw?

def accept (t : Traffic) (submission : Submission) : Traffic :=
  let (notices, worker, _) := t.worker.accept t.now submission
  match submission with
  | .send .. => { t with worker }
  | .query ticket did request timeout _ =>
    let start := (t.worker.protocol.query did request timeout).1
    { t with worker, log := t.log ++ [.accepted ticket did request start notices] }

/-- The worker takes a turn, if it is woken. -/
def turn (t : Traffic) : Traffic :=
  match t.worker.wake? t.now with
  | none => t
  | some (notices, worker, submission) =>
    let advanced := { t with worker, log := t.log ++ [.advanced t.nextFrame notices] }
    match submission with
    | none => advanced
    | some submission => advanced.accept submission

def step (t : Traffic) : BusStep → Traffic
  | .receive raw => { t with worker := { t.worker with frames := t.worker.frames ++ [raw] } }
  | .query did request timeout =>
    { t.submit (.query t.tickets did request timeout t.now) with tickets := t.tickets + 1 }
  | .send did request => t.submit (.send did request)
  | .wait time => { t with now := t.now + time }
  | .turn => t.turn
  | .drain => { t with worker := { t.worker with protocol := t.worker.protocol.drain.2 } }
  | .disconnect => { t with worker := { t.worker with protocol := t.worker.protocol.disconnect } }

def run (steps : List BusStep) (t : Traffic) : Traffic := steps.foldl step t

/-! What the log tells, by tickets. -/

def accepted (t : Traffic) : List Nat := t.log.filterMap BusRecord.accepted?

def waiting (t : Traffic) : List Nat := t.log.filterMap BusRecord.waiting?

def ended (t : Traffic) : List Nat := t.log.flatMap BusRecord.ended

/-- No query waits while so many later ones come to wait that handles start again with its own. -/
def Unlapped (t : Traffic) : Prop :=
  ∀ before ticket after, t.waiting = before ++ ticket :: after → ticket ∉ t.ended →
    after.length < 0xFFFFFFFF

end Traffic

/-- A turn tells callers what they may be told: an answer to their own request, which is the
frame at hand and goes to one caller only, or that time is up. -/
structure FairTurn (log : List BusRecord) (frame : Option BusFrame) (notices : List Notice) :
    Prop where
  own : ∀ ticket status response elapsed,
    .completion ticket (.completed status response) elapsed ∈ notices →
      ∃ did request handle, .accepted ticket did request (.waiting handle) [] ∈ log ∧
        ((status = .timedOut ∧ response = none) ∨
          ∃ f, frame = some f ∧ response = some f ∧ f.did = did ∧ f.answers request = true ∧
            status = if f.isError then .answeredWithError else .answered)
  single : (notices.filter Notice.carriesFrame).length ≤ 1
  complete : ∀ notice ∈ notices, ∀ ticket, notice.ended? = some ticket →
    ∃ status response elapsed, notice = .completion ticket (.completed status response) elapsed
  kept : ∀ ticket, .lost ticket ∉ notices

/-- A query that is accepted waits, or ends at once because it was only sent or was refused. -/
inductive FairAcceptance (ticket : Nat) : QueryStart → List Notice → Prop where
  | waiting (handle : QueryHandle) : FairAcceptance ticket (.waiting handle) []
  | sent (elapsed : Duration) : FairAcceptance ticket .sent [.completion ticket .sent elapsed]
  | refused (code : Int) (elapsed : Duration) :
    FairAcceptance ticket (.refused code) [.completion ticket (.rejected code) elapsed]

/-- What a record says is fair, given all that was recorded. -/
def BusRecord.Fair (log : List BusRecord) : BusRecord → Prop
  | .advanced frame notices => FairTurn log frame notices
  | .accepted ticket _ _ start notices => FairAcceptance ticket start notices

/-- Worker and protocol agree, and callers are told all and only what concerns them. -/
structure Traffic.Safe (t : Traffic) : Prop where
  tables : t.worker.parked.map Parked.handle =
    t.worker.protocol.outstanding.map Outstanding.handle
  distinct : (t.worker.parked.map Parked.handle).Nodup
  admitted : t.accepted.Nodup
  /-- A query that waits is over as soon as its handle is in neither table, and not before. -/
  waiting : t.worker.parked.map Parked.ticket = t.waiting.filter fun ticket => ticket ∉ t.ended
  once : t.ended.Nodup
  accepted : ∀ ticket ∈ t.ended, ticket ∈ t.accepted
  fair : ∀ record ∈ t.log, record.Fair t.log
  /-- Whatever comes next, the protocol ends no query that is not parked, and none twice. -/
  parkedOnly : ∀ elapsed frame,
    ((t.worker.protocol.process elapsed frame).1.filterMap ProtocolEvent.ends?).Nodup ∧
      ∀ handle ∈ (t.worker.protocol.process elapsed frame).1.filterMap ProtocolEvent.ends?,
        handle ∈ t.worker.parked.map Parked.handle

namespace Worker

variable {rows : List Row} {now : Instant}

theorem turnNotices_single (now : Instant) (frame : Option BusFrame) (rows : List Row) :
    ((turnNotices now frame rows).filter Notice.carriesFrame).length ≤ 1 := by
  have htelemetry : (telemetryOf frame).filter Notice.carriesFrame = [] := by
    apply List.filter_eq_nil_iff.mpr
    intro notice hnotice
    obtain ⟨f, rfl⟩ := mem_telemetryOf hnotice
    simp [Notice.carriesFrame]
  have hexpired : ((Row.expired now frame rows).map (Row.expiry now)).filter
      Notice.carriesFrame = [] := by
    apply List.filter_eq_nil_iff.mpr
    intro notice hnotice
    obtain ⟨r, -, rfl⟩ := List.mem_map.mp hnotice
    simp [Notice.carriesFrame, Row.expiry]
  unfold turnNotices
  rw [List.filter_append, List.filter_append, htelemetry, hexpired, List.nil_append,
    List.append_nil]
  refine (List.length_filter_le _ _).trans ?_
  rw [List.length_map]
  cases Row.answered frame rows <;> simp

end Worker

/-- What is fair stays fair as more is recorded. -/
theorem BusRecord.Fair.mono {log more : List BusRecord} {record : BusRecord}
    (h : record.Fair log) : record.Fair (log ++ more) := by
  cases record with
  | accepted ticket did request start notices => exact h
  | advanced frame notices =>
    refine ⟨?_, h.single, h.complete, h.kept⟩
    intro ticket status response elapsed hnotice
    obtain ⟨did, request, handle, hasked, hreply⟩ := h.own ticket status response elapsed hnotice
    exact ⟨did, request, handle, List.mem_append_left more hasked, hreply⟩

namespace Traffic

/-- The tickets of the queries that are queued. -/
def queued (t : Traffic) : List Nat := t.worker.submissions.filterMap Submission.ticket?

/-- The invariant of a run: the rows are the queries that wait, each under the handle of its
number. `queued` are the tickets yet to be accepted. -/
structure Keeps (t : Traffic) (rows : List Row) (queued : List Nat) : Prop where
  tracks : t.worker.Tracks rows
  clock : t.worker.last ≤ t.now
  next : t.worker.protocol.nextHandle = handleOf t.waiting.length
  named : ∀ r ∈ rows, ∃ before after, t.waiting = before ++ r.ticket :: after ∧
    r.handle = handleOf before.length
  asked : ∀ r ∈ rows, .accepted r.ticket r.did r.request (.waiting r.handle) [] ∈ t.log
  waiting : rows.map Row.ticket = t.waiting.filter fun ticket => ticket ∉ t.ended
  once : t.ended.Nodup
  accepted : ∀ ticket ∈ t.ended, ticket ∈ t.accepted
  distinct : (t.accepted ++ queued).Nodup
  fresh : ∀ ticket ∈ t.accepted ++ queued, ticket < t.tickets
  fair : ∀ record ∈ t.log, record.Fair t.log

theorem start_keeps (depth : Nat) (now : Instant) : (Traffic.start depth now).Keeps [] [] where
  tracks := Worker.start_tracks rfl now
  clock := Nat.le_refl now
  next := rfl
  named := by simp
  asked := by simp
  waiting := rfl
  once := List.nodup_nil
  accepted := by simp [ended, Traffic.start]
  distinct := List.nodup_nil
  fresh := by simp [Traffic.accepted, Traffic.start]
  fair := by simp [Traffic.start]

variable {t : Traffic} {rows : List Row} {queued : List Nat}

theorem waiting_sublist (t : Traffic) : t.waiting.Sublist t.accepted := by
  unfold Traffic.waiting Traffic.accepted
  induction t.log with
  | nil => exact List.Sublist.refl _
  | cons record rest ih =>
    cases record with
    | advanced frame notices => exact ih
    | accepted ticket did request start notices =>
      cases start with
      | waiting handle => exact ih.cons_cons ticket
      | sent | refused | abort => exact ih.cons ticket

theorem Keeps.waiting_nodup (h : t.Keeps rows queued) : t.waiting.Nodup :=
  (List.nodup_append.mp h.distinct).1.sublist t.waiting_sublist

theorem Keeps.tickets_nodup (h : t.Keeps rows queued) : (rows.map Row.ticket).Nodup := by
  rw [h.waiting]
  exact h.waiting_nodup.filter _

/-- Who has a row has been told nothing yet. -/
theorem Keeps.open_of_mem (h : t.Keeps rows queued) {ticket : Nat}
    (hticket : ticket ∈ rows.map Row.ticket) : ticket ∈ t.waiting ∧ ticket ∉ t.ended := by
  rwa [h.waiting, List.mem_filter, decide_eq_true_eq] at hticket

/-- Time that passes and a frame, whatever the worker has in its queues. -/
theorem Keeps.advanced (h : t.Keeps rows queued) (v : Worker Arbiter)
    (halike : v.Alike t.worker) (frame : Option BusFrame) :
    Keeps { t with
        worker := (v.advance t.now frame).2
        log := t.log ++ [.advanced frame (v.advance t.now frame).1] }
      (Row.left t.now frame rows) queued := by
  have htracks := h.tracks.congr halike
  have hclock : v.last ≤ t.now := halike.last ▸ h.clock
  obtain ⟨hnotices, hleft⟩ := htracks.advance hclock frame
  obtain ⟨-, -, -, hhandle⟩ := htracks.advance_rest hclock frame
  have hsublist := Row.left_sublist t.now frame rows
  have hperm := (Row.gone_perm t.now frame rows).map Row.ticket
  rw [List.map_append] at hperm
  have hgone := (List.nodup_append.mp (hperm.nodup_iff.mpr h.tickets_nodup)).1
  have hended : ∀ ticket ∈ (Row.gone t.now frame rows).map Row.ticket,
      ticket ∈ t.waiting ∧ ticket ∉ t.ended := by
    intro ticket hticket
    exact h.open_of_mem (hperm.subset (List.mem_append_left _ hticket))
  have hlog : Traffic.ended { t with
      worker := (v.advance t.now frame).2
      log := t.log ++ [.advanced frame (v.advance t.now frame).1] } =
        t.ended ++ (Row.gone t.now frame rows).map Row.ticket := by
    simp [Traffic.ended, BusRecord.ended, BusRecord.notices, hnotices,
      Worker.ended_turnNotices]
  have hwaiting : Traffic.waiting { t with
      worker := (v.advance t.now frame).2
      log := t.log ++ [.advanced frame (v.advance t.now frame).1] } = t.waiting := by
    simp [Traffic.waiting, BusRecord.waiting?]
  have haccepted : Traffic.accepted { t with
      worker := (v.advance t.now frame).2
      log := t.log ++ [.advanced frame (v.advance t.now frame).1] } = t.accepted := by
    simp [Traffic.accepted, BusRecord.accepted?]
  constructor
  · exact hleft
  · exact Nat.le_refl t.now
  · rw [hwaiting, ← h.next, ← halike.protocol]
    exact hhandle
  · rw [hwaiting]
    intro r hr
    exact h.named r (hsublist.subset hr)
  · intro r hr
    exact List.mem_append_left _ (h.asked r (hsublist.subset hr))
  · rw [hwaiting, hlog, ← Row.filter_gone h.tickets_nodup, h.waiting, List.filter_filter]
    apply List.filter_congr
    intro ticket _
    simp only [List.mem_append, not_or, Bool.decide_and, Bool.and_comm]
  · rw [hlog]
    refine List.nodup_append.mpr ⟨h.once, hgone, ?_⟩
    rintro first hfirst second hsecond rfl
    exact (hended first hsecond).2 hfirst
  · rw [hlog, haccepted]
    intro ticket hticket
    rcases List.mem_append.mp hticket with hold | hnew
    · exact h.accepted ticket hold
    · exact t.waiting_sublist.subset (hended ticket hnew).1
  · rw [haccepted]
    exact h.distinct
  · rw [haccepted]
    exact h.fresh
  · intro record hrecord
    rcases List.mem_append.mp hrecord with hold | hnew
    · exact (h.fair record hold).mono
    rw [List.mem_singleton.mp hnew, hnotices]
    constructor
    · intro ticket status response elapsed hnotice
      rcases Worker.mem_turnNotices hnotice with
        ⟨f, hf⟩ | ⟨f, r, hanswered, hf⟩ | ⟨r, hexpired, hf⟩
      · cases hf
      · cases hf
        obtain ⟨hframe, hr, hdid, hanswers⟩ := Row.mem_of_answered hanswered
        exact ⟨r.did, r.request, r.handle, List.mem_append_left _ (h.asked r hr),
          .inr ⟨f, hframe, rfl, hdid.symm, hanswers, rfl⟩⟩
      · cases hf
        have hr := (Row.mem_expired hexpired).1
        exact ⟨r.did, r.request, r.handle, List.mem_append_left _ (h.asked r hr),
          .inl ⟨rfl, rfl⟩⟩
    · exact Worker.turnNotices_single t.now frame rows
    · intro notice hnotice ticket hticket
      rcases Worker.mem_turnNotices hnotice with ⟨f, rfl⟩ | ⟨f, r, -, rfl⟩ | ⟨r, -, rfl⟩
      · cases hticket
      · cases hticket
        exact ⟨_, _, _, rfl⟩
      · cases hticket
        exact ⟨_, _, _, rfl⟩
    · intro ticket hnotice
      rcases Worker.mem_turnNotices hnotice with ⟨f, hf⟩ | ⟨f, r, -, hf⟩ | ⟨r, -, hf⟩ <;>
        cases hf

/-- Whoever loses his place to a query that comes to wait is not told that his own is over. -/
theorem ended_of_waiting (w : Worker Arbiter) (now : Instant) (ticket : Nat) (did : BusDeviceId)
    (request : BusFrame) (timeout : Duration) (submitted : Instant) {handle : QueryHandle}
    (hstart : (w.protocol.query did request timeout).1 = .waiting handle) :
    (w.accept now (.query ticket did request timeout submitted)).1.filterMap Notice.ended? =
      [] := by
  change (BusProtocol.query w.protocol did request timeout).1 = .waiting handle at hstart
  unfold Worker.accept
  dsimp only
  generalize BusProtocol.query w.protocol did request timeout = asked at hstart ⊢
  obtain ⟨start, protocol⟩ := asked
  subst hstart
  simp [Worker.park, List.filterMap_map, Function.comp_def, Notice.ended?]

/-- As long as no query is lapped, the handle for the next one is free. -/
theorem Keeps.handle_free {next : Traffic} {ticket : Nat} (h : t.Keeps rows queued)
    (hwaiting : next.waiting = t.waiting ++ [ticket]) (hended : next.ended = t.ended)
    (hunlapped : next.Unlapped) :
    t.worker.protocol.nextHandle ∉ rows.map Row.handle := by
  intro hin
  obtain ⟨r, hr, hhandle⟩ := List.mem_map.mp hin
  obtain ⟨before, after, hsplit, hname⟩ := h.named r hr
  have hopen := (h.open_of_mem (List.mem_map_of_mem hr)).2
  have hround := hunlapped before r.ticket (after ++ [ticket]) (by simp [hwaiting, hsplit])
    (hended ▸ hopen)
  have hlength : t.waiting.length = before.length + (after.length + 1) := by
    simp [hsplit]
  rw [List.length_append, List.length_singleton] at hround
  have hdiffer : handleOf before.length ≠ handleOf t.waiting.length :=
    handleOf_ne (by omega) (by omega)
  rw [h.next, hname] at hhandle
  exact hdiffer hhandle

section Acceptance

variable {ticket : Nat} {did : BusDeviceId} {request : BusFrame} {worker : Worker Arbiter}

theorem Keeps.ticket_new (h : t.Keeps rows (ticket :: queued)) :
    ticket ∉ t.accepted ∧ (t.accepted ++ [ticket] ++ queued).Nodup ∧
      ∀ other ∈ t.accepted ++ [ticket] ++ queued, other < t.tickets := by
  refine ⟨?_, by simpa using h.distinct, by simpa using h.fresh⟩
  intro hin
  exact (List.nodup_append.mp h.distinct).2.2 ticket hin ticket List.mem_cons_self rfl

/-- A query that does not wait is over when it was accepted. -/
theorem Keeps.ends_at_once {start : QueryStart} {outcome : Outcome} {elapsed : Duration}
    (h : t.Keeps rows (ticket :: queued)) (htracks : worker.Tracks rows)
    (hlast : worker.last = t.worker.last)
    (hnext : worker.protocol.nextHandle = t.worker.protocol.nextHandle)
    (hfair : FairAcceptance ticket start [.completion ticket outcome elapsed]) :
    Keeps { t with
        worker
        log := t.log ++ [.accepted ticket did request start [.completion ticket outcome elapsed]] }
      rows queued := by
  obtain ⟨hnew, hdistinct, hfresh⟩ := h.ticket_new
  have hwaiting : Traffic.waiting { t with
      worker
      log := t.log ++ [.accepted ticket did request start [.completion ticket outcome elapsed]] } =
        t.waiting := by
    cases hfair <;> simp [Traffic.waiting, BusRecord.waiting?]
  have hended : Traffic.ended { t with
      worker
      log := t.log ++ [.accepted ticket did request start [.completion ticket outcome elapsed]] } =
        t.ended ++ [ticket] := by
    simp [Traffic.ended, BusRecord.ended, BusRecord.notices, Notice.ended?]
  have haccepted : Traffic.accepted { t with
      worker
      log := t.log ++ [.accepted ticket did request start [.completion ticket outcome elapsed]] } =
        t.accepted ++ [ticket] := by
    simp [Traffic.accepted, BusRecord.accepted?]
  constructor
  · exact htracks
  · rw [hlast]
    exact h.clock
  · rw [hwaiting, hnext]
    exact h.next
  · rw [hwaiting]
    exact h.named
  · intro r hr
    exact List.mem_append_left _ (h.asked r hr)
  · rw [hwaiting, hended, h.waiting]
    apply List.filter_congr
    intro other hother
    have hne : other ≠ ticket := fun heq => hnew (heq ▸ t.waiting_sublist.subset hother)
    simp [hne]
  · rw [hended]
    refine List.nodup_append.mpr ⟨h.once, List.nodup_singleton _, ?_⟩
    rintro first hfirst second hsecond rfl
    rw [List.mem_singleton.mp hsecond] at hfirst
    exact hnew (h.accepted ticket hfirst)
  · rw [hended, haccepted]
    intro other hother
    rcases List.mem_append.mp hother with hold | hlater
    · exact List.mem_append_left _ (h.accepted other hold)
    · exact List.mem_append_right _ hlater
  · rw [haccepted]
    exact hdistinct
  · rw [haccepted]
    exact hfresh
  · intro record hrecord
    rcases List.mem_append.mp hrecord with hold | hlater
    · exact (h.fair record hold).mono
    · rw [List.mem_singleton.mp hlater]
      exact hfair

/-- A query that comes to wait gets the handle of its number. -/
theorem Keeps.comes_to_wait {timeout : Duration} {submitted : Instant}
    (h : t.Keeps rows (ticket :: queued))
    (htracks : worker.Tracks
      (rows ++ [t.worker.newRow ticket did request timeout submitted]))
    (hlast : worker.last = t.worker.last)
    (hnext : worker.protocol.nextHandle = Arbiter.handleAfter t.worker.protocol.nextHandle) :
    Keeps { t with
        worker
        log := t.log ++
          [.accepted ticket did request (.waiting t.worker.protocol.nextHandle) []] }
      (rows ++ [t.worker.newRow ticket did request timeout submitted]) queued := by
  obtain ⟨hnew, hdistinct, hfresh⟩ := h.ticket_new
  have hwaiting : Traffic.waiting { t with
      worker
      log := t.log ++
        [.accepted ticket did request (.waiting t.worker.protocol.nextHandle) []] } =
        t.waiting ++ [ticket] := by
    simp [Traffic.waiting, BusRecord.waiting?]
  have hended : Traffic.ended { t with
      worker
      log := t.log ++
        [.accepted ticket did request (.waiting t.worker.protocol.nextHandle) []] } =
        t.ended := by
    simp [Traffic.ended, BusRecord.ended, BusRecord.notices]
  have haccepted : Traffic.accepted { t with
      worker
      log := t.log ++
        [.accepted ticket did request (.waiting t.worker.protocol.nextHandle) []] } =
        t.accepted ++ [ticket] := by
    simp [Traffic.accepted, BusRecord.accepted?]
  constructor
  · exact htracks
  · rw [hlast]
    exact h.clock
  · rw [hwaiting, hnext, h.next, handleAfter_handleOf, List.length_append, List.length_singleton]
  · rw [hwaiting]
    intro r hr
    rcases List.mem_append.mp hr with hold | hadded
    · obtain ⟨before, after, hsplit, hname⟩ := h.named r hold
      exact ⟨before, after ++ [ticket], by simp [hsplit], hname⟩
    · rw [List.mem_singleton.mp hadded]
      exact ⟨t.waiting, [], rfl, h.next⟩
  · intro r hr
    rcases List.mem_append.mp hr with hold | hadded
    · exact List.mem_append_left _ (h.asked r hold)
    · rw [List.mem_singleton.mp hadded]
      exact List.mem_append_right _ (List.mem_singleton.mpr rfl)
  · have hopen : ticket ∉ t.ended := fun hin => hnew (h.accepted ticket hin)
    rw [hwaiting, hended, List.map_append, h.waiting, List.filter_append]
    simp [hopen, Worker.newRow]
  · rw [hended]
    exact h.once
  · rw [hended, haccepted]
    intro other hother
    exact List.mem_append_left _ (h.accepted other hother)
  · rw [haccepted]
    exact hdistinct
  · rw [haccepted]
    exact hfresh
  · intro record hrecord
    rcases List.mem_append.mp hrecord with hold | hlater
    · exact (h.fair record hold).mono
    · rw [List.mem_singleton.mp hlater]
      exact .waiting _

end Acceptance

/-- Whatever the protocol makes of a query, as long as none is lapped. -/
theorem Keeps.accept_query {ticket : Nat} (did : BusDeviceId) (request : BusFrame)
    (timeout : Duration) (submitted : Instant) (h : t.Keeps rows (ticket :: queued))
    (hunlapped : (t.accept (.query ticket did request timeout submitted)).Unlapped) :
    ∃ rows, (t.accept (.query ticket did request timeout submitted)).Keeps rows queued := by
  have hfree : (t.worker.protocol.query did request timeout).1 =
        .waiting t.worker.protocol.nextHandle →
      t.worker.protocol.nextHandle ∉ rows.map Row.handle := by
    intro hstart
    have hwaited := ended_of_waiting t.worker t.now ticket did request timeout submitted hstart
    apply h.handle_free _ _ hunlapped
    · exact ticket
    · simp [Traffic.accept, Traffic.waiting, BusRecord.waiting?, hstart]
    · simp [Traffic.accept, Traffic.ended, BusRecord.ended, BusRecord.notices, hwaited]
  have haccept := h.tracks.accept_query t.now ticket did request timeout submitted hfree
  generalize hstart : (BusProtocol.query t.worker.protocol did request timeout).1 = start
    at haccept
  change (t.worker.protocol.query did request timeout).1 = start at hstart
  unfold Traffic.accept
  simp only [hstart]
  generalize t.worker.accept t.now (.query ticket did request timeout submitted) = accepted
    at haccept ⊢
  obtain ⟨notices, worker, survives⟩ := accepted
  obtain ⟨-, hlast, -, -, added, haccepts, htracks⟩ := haccept
  generalize hnext : (Arbitrated.arbiter worker.protocol).nextHandle = handle at haccepts
  cases haccepts with
  | refused code =>
    rw [List.append_nil] at htracks
    exact ⟨rows, h.ends_at_once htracks hlast hnext (.refused code _)⟩
  | sent hzero =>
    rw [List.append_nil] at htracks
    exact ⟨rows, h.ends_at_once htracks hlast hnext (.sent _)⟩
  | waiting hpositive => exact ⟨_, h.comes_to_wait htracks hlast hnext⟩

theorem Keeps.accept_send (did : BusDeviceId) (request : BusFrame) (h : t.Keeps rows queued) :
    (t.accept (.send did request)).Keeps rows queued := by
  obtain ⟨-, -, htracks, hlast, -, -, hnext⟩ := h.tracks.accept_send t.now did request
  exact { h with
    tracks := htracks
    clock := hlast ▸ h.clock
    next := hnext.trans h.next }

theorem queued_submit (t : Traffic) (submission : Submission) :
    (t.submit submission).queued = t.queued ++ submission.ticket?.toList := by
  unfold Traffic.queued Traffic.submit
  rw [List.filterMap_append]
  cases submission <;> rfl

/-- The worker was told of the time and of a frame. -/
def advanced (t : Traffic) (v : Worker Arbiter) (frame : Option BusFrame) : Traffic :=
  { t with
    worker := (v.advance t.now frame).2
    log := t.log ++ [.advanced frame (v.advance t.now frame).1] }

/-- A turn deals with the next frame, else with the next submission, else with a deadline. -/
theorem turn_cases (t : Traffic) :
    (∃ raw rest, t.worker.frames = raw :: rest ∧
      t.turn = t.advanced { t.worker with frames := rest } (BusFrame.ofRaw? raw)) ∨
    (∃ submission rest, t.worker.frames = [] ∧ t.worker.submissions = submission :: rest ∧
      t.turn = (t.advanced { t.worker with submissions := rest } none).accept submission) ∨
    (t.worker.frames = [] ∧ t.worker.submissions = [] ∧ t.turn = t.advanced t.worker none) ∨
    (t.worker.isWoken t.now = false ∧ t.turn = t) := by
  obtain ⟨⟨protocol, frames, submissions, parked, last⟩, now, tickets, log⟩ := t
  cases frames with
  | cons raw rest => exact .inl ⟨raw, rest, rfl, rfl⟩
  | nil =>
    cases submissions with
    | cons submission rest => exact .inr (.inl ⟨submission, rest, rfl, rfl, rfl⟩)
    | nil =>
      unfold Traffic.turn
      dsimp only
      split
      · rename_i hasleep
        rw [← Worker.wake?_isSome, hasleep]
        exact .inr (.inr (.inr ⟨rfl, rfl⟩))
      · rename_i notices worker submission hwoken
        unfold Worker.wake? at hwoken
        dsimp only at hwoken
        split at hwoken
        · cases hwoken
          exact .inr (.inr (.inl ⟨rfl, rfl, rfl⟩))
        · cases hwoken

theorem queued_accept (t : Traffic) (submission : Submission) :
    (t.accept submission).queued = t.queued := by
  obtain ⟨hsame, -⟩ := t.worker.accept_rest t.now submission
  unfold Traffic.queued
  cases submission <;> exact congrArg (List.filterMap _) hsame

theorem Keeps.turn (h : t.Keeps rows t.queued) (hunlapped : t.turn.Unlapped) :
    ∃ rows, t.turn.Keeps rows t.turn.queued := by
  rcases t.turn_cases with ⟨raw, rest, -, hturn⟩ | ⟨submission, rest, -, hqueue, hturn⟩ |
    ⟨-, -, hturn⟩ | ⟨-, hturn⟩
  · rw [hturn]
    exact ⟨_, h.advanced { t.worker with frames := rest } ⟨rfl, rfl, rfl⟩ (BusFrame.ofRaw? raw)⟩
  · rw [hturn] at hunlapped ⊢
    have hadvanced := h.advanced { t.worker with submissions := rest } ⟨rfl, rfl, rfl⟩ none
    rw [queued_accept]
    cases submission with
    | query ticket did request timeout submitted =>
      have hqueued : t.queued = ticket ::
          (t.advanced { t.worker with submissions := rest } none).queued := by
        unfold Traffic.queued
        rw [hqueue]
        rfl
      rw [hqueued] at hadvanced
      exact hadvanced.accept_query did request timeout submitted hunlapped
    | send did request =>
      have hqueued : t.queued = (t.advanced { t.worker with submissions := rest } none).queued := by
        unfold Traffic.queued
        rw [hqueue]
        rfl
      rw [hqueued] at hadvanced
      exact ⟨_, hadvanced.accept_send did request⟩
  · rw [hturn]
    exact ⟨_, h.advanced t.worker ⟨rfl, rfl, rfl⟩ none⟩
  · rw [hturn]
    exact ⟨rows, h⟩

/-- Each step keeps the tables together. -/
theorem Keeps.step (event : BusStep) (h : t.Keeps rows t.queued)
    (hunlapped : (t.step event).Unlapped) :
    ∃ rows, (t.step event).Keeps rows (t.step event).queued := by
  cases event with
  | receive raw => exact ⟨rows, { h with tracks := h.tracks.congr ⟨rfl, rfl, rfl⟩ }⟩
  | query did request timeout =>
    refine ⟨rows, ?_⟩
    change Keeps { t.submit (.query t.tickets did request timeout t.now) with
      tickets := t.tickets + 1 } rows
        (t.submit (.query t.tickets did request timeout t.now)).queued
    rw [queued_submit]
    refine { h with tracks := h.tracks.congr ⟨rfl, rfl, rfl⟩, distinct := ?_, fresh := ?_ }
    · rw [← List.append_assoc]
      refine List.nodup_append.mpr ⟨h.distinct, List.nodup_singleton _, ?_⟩
      rintro first hfirst second hsecond rfl
      have hlt := h.fresh first hfirst
      rw [List.mem_singleton.mp hsecond] at hlt
      exact Nat.lt_irrefl _ hlt
    · intro ticket hticket
      rw [← List.append_assoc] at hticket
      rcases List.mem_append.mp hticket with hold | hnew
      · exact Nat.lt_succ_of_lt (h.fresh ticket hold)
      · rw [List.mem_singleton.mp hnew]
        exact Nat.lt_succ_self _
  | send did request =>
    refine ⟨rows, ?_⟩
    change Keeps (t.submit (.send did request)) rows (t.submit (.send did request)).queued
    rw [queued_submit, Submission.ticket?, Option.toList_none, List.append_nil]
    exact { h with tracks := h.tracks.congr ⟨rfl, rfl, rfl⟩ }
  | wait time => exact ⟨rows, { h with clock := h.clock.trans (Nat.le_add_right _ _) }⟩
  | turn => exact h.turn hunlapped
  | drain =>
    exact ⟨rows, { h with tracks := { h.tracks with outstanding := h.tracks.outstanding } }⟩
  | disconnect =>
    exact ⟨rows, { h with tracks := { h.tracks with outstanding := h.tracks.outstanding } }⟩

theorem run_append (first second : List BusStep) (t : Traffic) :
    run (first ++ second) t = run second (run first t) :=
  List.foldl_append

/-- Whole runs keep the tables together, as long as no query is lapped. -/
theorem run_keeps (depth : Nat) (now : Instant) (steps : List BusStep)
    (hunlapped : ∀ first, first <+: steps → (run first (.start depth now)).Unlapped) :
    ∃ rows, (run steps (.start depth now)).Keeps rows (run steps (.start depth now)).queued := by
  induction steps using List.reverseRecOn with
  | nil => exact ⟨[], start_keeps depth now⟩
  | append_singleton steps event ih =>
    obtain ⟨rows, hkeeps⟩ := ih fun first hfirst =>
      hunlapped first (hfirst.trans (List.prefix_append steps [event]))
    have hlast := hunlapped (steps ++ [event]) (List.prefix_refl _)
    rw [run_append] at hlast ⊢
    exact hkeeps.step event hlast

theorem Keeps.safe (h : t.Keeps rows queued) : t.Safe where
  tables := by
    rw [h.tracks.parked]
    change _ = (Arbitrated.arbiter t.worker.protocol).outstanding.map Outstanding.handle
    rw [h.tracks.outstanding, List.map_map, List.map_map]
    rfl
  distinct := by
    rw [h.tracks.parked, List.map_map]
    exact h.tracks.distinct
  admitted := (List.nodup_append.mp h.distinct).1
  waiting := by
    rw [h.tracks.parked, List.map_map]
    exact h.waiting
  once := h.once
  accepted := h.accepted
  fair := h.fair
  parkedOnly elapsed frame := by
    have hevents := Row.process_rows h.tracks.outstanding
      (Nat.le_add_right t.worker.last elapsed) frame
    rw [Nat.add_sub_cancel_left] at hevents
    have hends : (t.worker.protocol.process elapsed frame).1.filterMap ProtocolEvent.ends? =
        (Row.gone (t.worker.last + elapsed) frame rows).map Row.handle := by
      rw [← Worker.ends_turnEvents]
      exact congrArg (fun answer => answer.1.filterMap ProtocolEvent.ends?) hevents
    have hperm := (Row.gone_perm (t.worker.last + elapsed) frame rows).map Row.handle
    rw [List.map_append] at hperm
    rw [hends, h.tracks.parked, List.map_map]
    refine ⟨(List.nodup_append.mp (hperm.nodup_iff.mpr h.tracks.distinct)).1, ?_⟩
    intro handle hhandle
    exact hperm.subset (List.mem_append_left _ hhandle)

/-- Worker and protocol agree in every state of a run in which no query is lapped. -/
theorem run_safe (depth : Nat) (now : Instant) (steps : List BusStep)
    (hunlapped : ∀ first, first <+: steps → (run first (.start depth now)).Unlapped) :
    (run steps (.start depth now)).Safe := by
  obtain ⟨rows, hkeeps⟩ := run_keeps depth now steps hunlapped
  exact hkeeps.safe

theorem waiting_accept_le (t : Traffic) (submission : Submission) :
    (t.accept submission).waiting.length ≤ t.waiting.length + 1 := by
  cases submission with
  | send did request => exact Nat.le_succ _
  | query ticket did request timeout submitted =>
    simp only [Traffic.accept, Traffic.waiting, List.filterMap_append, List.length_append]
    exact Nat.add_le_add_left (List.length_filterMap_le _ _) _

theorem waiting_step_le (t : Traffic) (event : BusStep) :
    (t.step event).waiting.length ≤ t.waiting.length + 1 := by
  have hadvanced (v : Worker Arbiter) (frame : Option BusFrame) :
      (t.advanced v frame).waiting = t.waiting := by
    simp [Traffic.advanced, Traffic.waiting, BusRecord.waiting?]
  cases event with
  | turn =>
    change t.turn.waiting.length ≤ _
    rcases t.turn_cases with ⟨raw, rest, -, hturn⟩ | ⟨submission, rest, -, -, hturn⟩ |
      ⟨-, -, hturn⟩ | ⟨-, hturn⟩
    · rw [hturn, hadvanced]
      exact Nat.le_succ _
    · rw [hturn]
      refine (waiting_accept_le _ submission).trans ?_
      rw [hadvanced]
    · rw [hturn, hadvanced]
      exact Nat.le_succ _
    · rw [hturn]
      exact Nat.le_succ _
  | receive | query | send | wait | drain | disconnect => exact Nat.le_succ _

/-- A step brings one query to wait at most, so that it takes very many to lap one. -/
theorem waiting_length_le (depth : Nat) (now : Instant) (steps : List BusStep) :
    (run steps (.start depth now)).waiting.length ≤ steps.length := by
  induction steps using List.reverseRecOn with
  | nil => exact Nat.le_refl 0
  | append_singleton steps event ih =>
    rw [run_append, List.length_append, List.length_singleton]
    exact (waiting_step_le _ event).trans (Nat.succ_le_succ ih)

theorem run_unlapped (depth : Nat) (now : Instant) {steps : List BusStep}
    (hshort : steps.length < 0xFFFFFFFF) :
    ∀ first, first <+: steps → (run first (.start depth now)).Unlapped := by
  intro first hfirst before ticket after hsplit _
  have hwaiting := waiting_length_le depth now first
  have hlength := hfirst.length_le
  rw [hsplit, List.length_append, List.length_cons] at hwaiting
  omega

/-- Two boards are asked; one answers, and the other is too late. -/
theorem run_safe_late :
    (run
      [.query ⟨1⟩ (.telemetryQuery ⟨1⟩ .app0) 50, .query ⟨2⟩ (.telemetryQuery ⟨2⟩ .app0) 40,
        .turn, .turn, .wait 20,
        .receive { id := 13, data := [] }, .turn, .wait 40, .turn,
        .receive { id := 21, data := [] }, .turn]
      (.start 4 0)).Safe :=
  run_safe 4 0 _ (run_unlapped 4 0 (by decide))

end Traffic

end HomeGateway
