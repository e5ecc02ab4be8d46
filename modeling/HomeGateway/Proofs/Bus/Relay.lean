import Mathlib
import HomeGateway.Proofs.Bus.Agenda
import HomeGateway.Proofs.Bus.ControllerInUse
import HomeGateway.Session.Basic

/-!
Telemetry on its way from the bus to a hub, while others use the hub too. A relay is a controller
with a hub and a log in which its worker enters every payload that it gives to the hub and every
caller whom it tells. The log is of no use to the controller: without it, the same happens.
-/

namespace HomeGateway

/-- A payload as it is given to a hub. -/
structure Ingestion where
  addr : DeviceAddr
  bytes : List UInt8
  timestamp : UInt32

/-- The payload of a frame, under the address of its board and without a time. -/
def Ingestion.ofFrame (f : BusFrame) : Ingestion :=
  { addr := .bus f.did, bytes := f.payload, timestamp := 0 }

variable {σ : Type}

def Ingestion.run (i : Ingestion) (state : Hub σ × σ) :
    Except (Halt Error) Nat × (Hub σ × σ) :=
  state.1.receive i.addr i.bytes i.timestamp state.2

/-- What a frame does to a hub. Nothing comes back if it brings the worker down. -/
def Hub.relay (frame : BusFrame) (state : Hub σ × σ) : Option (Hub σ × σ) :=
  match (Ingestion.ofFrame frame).run state with
  | (.error .abort, _) => none
  | (_, next) => some next

/-- The gateway feeds its hub in this way. -/
theorem Session.forward_eq : Session.forward (σ := σ) = Hub.relay := by
  funext frame state
  unfold Session.forward Hub.relay Ingestion.run Ingestion.ofFrame
  generalize state.1.receive (.bus frame.did) frame.payload 0 state.2 = received
  obtain ⟨(_ | _) | _, hub, client⟩ := received <;> rfl

/-- What the worker enters into the log. -/
inductive RelayEntry where
  | ingested (ingestion : Ingestion) (result : Except (Halt Error) Nat)
  | told (ticket : Nat) (outcome : Outcome) (elapsed : Duration)
  | lost (ticket : Nat)

def RelayEntry.ingestion? : RelayEntry → Option Ingestion
  | .ingested ingestion _ => some ingestion
  | .told .. | .lost _ => none

/-- The entry of a notice that is for a caller. -/
def Notice.entry? : Notice → Option RelayEntry
  | .telemetry _ => none
  | .completion ticket outcome elapsed => some (.told ticket outcome elapsed)
  | .lost ticket => some (.lost ticket)

/-- A controller, its hub and the log. Of the frames that came it is known which of them were
taken by the worker. -/
structure Relay (σ : Type) where
  controller : Controller Arbiter
  state : Hub σ × σ
  now : Instant
  delivered : List RawFrame
  taken : List RawFrame
  log : List RelayEntry

/-- What happens at a relay. Others may do anything to the hub. -/
inductive RelayStep (σ : Type) where
  | board (event : ControllerStep)
  | meddle (change : Hub σ × σ → Hub σ × σ)

namespace Relay

def start (controller : Controller Arbiter) (state : Hub σ × σ) (now : Instant) : Relay σ :=
  { controller, state, now, delivered := [], taken := [], log := [] }

def ingested (r : Relay σ) (f : BusFrame) (result : Except (Halt Error) Nat)
    (state : Hub σ × σ) : Relay σ :=
  { r with state, log := r.log ++ [.ingested (.ofFrame f) result] }

def tell (r : Relay σ) (ticket : Nat) (outcome : Outcome) (elapsed : Duration) : Relay σ :=
  { r with controller := r.controller.finish ticket (Controller.replyOf outcome elapsed)
           log := r.log ++ [.told ticket outcome elapsed] }

def lose (r : Relay σ) (ticket : Nat) : Relay σ :=
  { r with controller := r.controller.finish ticket fun _ => .error .workerStopped
           log := r.log ++ [.lost ticket] }

def halt (r : Relay σ) : Relay σ := { r with controller := r.controller.stop }

/-- Passes notices on, as the worker does. -/
def pass : List Notice → Relay σ → Relay σ
  | [], r => r
  | .telemetry f :: rest, r =>
    match (Ingestion.ofFrame f).run r.state with
    | (.error .abort, _) => (r.ingested f (.error .abort) r.state).halt
    | (result, next) => pass rest (r.ingested f result next)
  | .completion ticket outcome elapsed :: rest, r => pass rest (r.tell ticket outcome elapsed)
  | .lost ticket :: rest, r => pass rest (r.lose ticket)

def withWorker (r : Relay σ) (worker : Worker Arbiter) : Relay σ :=
  { r with controller := { r.controller with worker } }

/-- Lets the worker accept a submission that woke it, if it still runs. -/
def acceptNext (submission : Option Submission) (r : Relay σ) : Relay σ :=
  match submission with
  | none => r
  | some submission =>
    if !r.controller.running then r
    else
      let (notices, worker, survives) := r.controller.worker.accept r.now submission
      let r := pass notices (r.withWorker worker)
      if survives then r else r.halt

/-- One turn of the worker. It took the frame that is gone from its queue. -/
def turn (r : Relay σ) : Relay σ :=
  if !r.controller.running then r
  else
    match r.controller.worker.wake? r.now with
    | none => r
    | some (notices, worker, submission) =>
      let frames := r.controller.worker.frames
      let taken := frames.take (frames.length - worker.frames.length)
      acceptNext submission
        (pass notices { r.withWorker worker with taken := r.taken ++ taken })

def onArbiter (r : Relay σ) (f : Arbiter → Arbiter) : Relay σ :=
  let worker := r.controller.worker
  r.withWorker { worker with protocol := f worker.protocol }

def act (r : Relay σ) : ControllerStep → Relay σ
  | .query did request timeoutMs =>
    { r with controller := (r.controller.query did request timeoutMs r.now).2 }
  | .send did request => { r with controller := (r.controller.send did request).2 }
  | .deliver frame =>
    let (delivery, controller) := r.controller.deliver frame
    { r with controller
             delivered := r.delivered ++ if delivery = .queued then [frame] else [] }
  | .wait time => { r with now := r.now + time }
  | .turn => r.turn
  | .giveUp => { r with controller := r.controller.giveUp r.now }
  | .collect => { r with controller := r.controller.takeEnded.2 }
  | .carry count =>
    r.onArbiter fun a =>
      { a with transmit := { a.transmit with frames := a.transmit.frames.drop count } }
  | .disconnect => r.onArbiter Arbiter.disconnect
  | .shutdown => r.halt

def step (r : Relay σ) : RelayStep σ → Relay σ
  | .board event => r.act event
  | .meddle change => { r with state := change r.state }

def run (steps : List (RelayStep σ)) (r : Relay σ) : Relay σ := steps.foldl step r

end Relay

/-! What the worker has to say of a frame. -/

/-- A notice that has a frame in it. -/
def Notice.Carries (n : Notice) (f : BusFrame) : Prop :=
  n = .telemetry f ∨
    ∃ ticket status elapsed, n = .completion ticket (.completed status (some f)) elapsed

/-- What comes after the telemetry of a frame: its answer comes first, if it is one, and no other
frame is in it. -/
structure Follow (frame : Option BusFrame) (notices : List Notice) : Prop where
  silent : ∀ f, .telemetry f ∉ notices
  own : ∀ n ∈ notices, ∀ f, n.Carries f → frame = some f
  first : ∀ n ∈ notices.tail, ∀ f, ¬n.Carries f

namespace Arbiter

/-- The frame is in the first event if it is a response, and time only runs out. -/
theorem process_events (a : Arbiter) (elapsed : Duration) (frame : Option BusFrame) :
    ∃ (first : List ProtocolEvent) (late : List QueryHandle),
      (a.process elapsed frame).1 =
        first ++ late.map (fun handle => .completed handle .timedOut none) ∧
      ((first = [] ∧ ∀ f, frame = some f → f.isResponse = false) ∨
        ∃ f, frame = some f ∧ ((∃ handle status, first = [.completed handle status (some f)]) ∨
          first = [.unsolicited f])) := by
  have hlate (outstanding : List Outstanding) : ∃ late : List QueryHandle,
      (expire elapsed outstanding).1 =
        late.map fun handle => .completed handle .timedOut none := by
    refine ⟨((outstanding.map (age elapsed)).filter fun q => q.remaining = 0).map
      Outstanding.handle, ?_⟩
    rw [List.map_map]
    rfl
  unfold Arbiter.process
  cases frame with
  | none =>
    obtain ⟨late, hexpired⟩ := hlate a.outstanding
    refine ⟨[], late, ?_, .inl ⟨rfl, nofun⟩⟩
    dsimp only
    rw [hexpired]
  | some f =>
    obtain ⟨late, hexpired⟩ := hlate (resolve f a.outstanding).2
    refine ⟨(resolve f a.outstanding).1, late, ?_, ?_⟩
    · dsimp only
      rw [hexpired]
    · unfold resolve
      by_cases hresponse : f.isResponse
      · rw [if_pos hresponse]
        right
        refine ⟨f, rfl, ?_⟩
        cases takeAnswered f a.outstanding with
        | none => exact .inr rfl
        | some found => exact .inl ⟨_, _, rfl⟩
      · rw [if_neg hresponse]
        left
        refine ⟨rfl, ?_⟩
        rintro g ⟨rfl⟩
        exact Bool.eq_false_iff.mpr hresponse

end Arbiter

namespace Worker

/-- Of queries whose time has run out, their callers are told. -/
theorem handleAll_late (now : Instant) (late : List QueryHandle) (parked : List Parked) :
    ∀ n ∈ (handleAll now (late.map fun handle => .completed handle .timedOut none) parked).1,
      ∃ ticket elapsed, n = .completion ticket (.completed .timedOut none) elapsed := by
  induction late generalizing parked with
  | nil => exact nofun
  | cons name rest ih =>
    intro n hn
    rcases List.mem_append.mp hn with hfirst | hrest
    · split at hfirst
      · exact ⟨_, _, List.mem_singleton.mp hfirst⟩
      · cases hfirst
    · exact ih _ n hrest

/-- The telemetry of a frame comes before all else that there is to say. -/
theorem advance_follow (w : Worker Arbiter) (now : Instant) (frame : Option BusFrame) :
    ∃ rest, (w.advance now frame).1 = telemetryOf frame ++ rest ∧ Follow frame rest := by
  obtain ⟨first, late, hevents, hfirst⟩ := w.protocol.process_events (now - w.last) frame
  have hnotices : (w.advance now frame).1 =
      (handleAll now (w.protocol.process (now - w.last) frame).1 w.parked).1 := rfl
  have hquiet (parked : List Parked) : ∀ n ∈ (handleAll now
      (late.map fun handle => .completed handle .timedOut none) parked).1, ∀ f, ¬n.Carries f := by
    rintro n hn f (rfl | ⟨ticket, status, elapsed, rfl⟩)
    · obtain ⟨ticket, elapsed, hlate⟩ := handleAll_late now late parked _ hn
      cases hlate
    · obtain ⟨ticket, elapsed, hlate⟩ := handleAll_late now late parked _ hn
      cases hlate
  have hlate (parked : List Parked) : Follow frame
      (handleAll now (late.map fun handle => .completed handle .timedOut none) parked).1 :=
    ⟨fun f hin => hquiet parked _ hin f (.inl rfl),
      fun n hn f hcarries => absurd hcarries (hquiet parked n hn f),
      fun n hn => hquiet parked n (List.mem_of_mem_tail hn)⟩
  rw [hnotices, hevents, Row.handleAll_append]
  rcases hfirst with ⟨rfl, hidle⟩ | ⟨f, rfl, ⟨name, status, rfl⟩ | rfl⟩
  · refine ⟨_, ?_, hlate w.parked⟩
    have hnone : telemetryOf frame = [] := by
      cases frame with
      | none => rfl
      | some f => simp [telemetryOf, BusFrame.isBoardTelemetry, hidle f rfl]
    rw [hnone]
    rfl
  · simp only [handleAll, List.append_nil]
    unfold handle
    dsimp only
    split
    · rename_i p _
      refine ⟨_, List.append_assoc _ _ _, ?_⟩
      refine ⟨?_, ?_, hquiet _⟩
      · intro g hin
        rcases List.mem_append.mp hin with hanswer | htime
        · cases List.mem_singleton.mp hanswer
        · exact (hlate _).silent g htime
      · intro n hn g hcarries
        rcases List.mem_append.mp hn with hanswer | htime
        · rw [List.mem_singleton.mp hanswer] at hcarries
          rcases hcarries with hcase | ⟨ticket, status, elapsed, hcase⟩
          · cases hcase
          · cases hcase
            rfl
        · exact (hlate _).own n htime g hcarries
    · exact ⟨_, rfl, hlate _⟩
  · simp only [handleAll, handle, List.append_nil]
    exact ⟨_, rfl, hlate _⟩

/-- What is said of a submission has no frame in it. -/
theorem accept_quiet (w : Worker Arbiter) (now : Instant) (submission : Submission) :
    ∀ n ∈ (w.accept now submission).1, ∀ f, ¬n.Carries f := by
  obtain ⟨-, -, -, hnotices⟩ := w.accept_says now submission
  rintro n hn f (rfl | ⟨ticket, status, elapsed, rfl⟩)
  · cases hnotices _ hn
  · cases hnotices _ hn

/-- What the worker finds as it wakes: a frame that is taken from its queue, or none. -/
theorem wake?_taken {w next : Worker Arbiter} {now : Instant} {notices : List Notice}
    {submission : Option Submission} (h : w.wake? now = some (notices, next, submission)) :
    ∃ (v : Worker Arbiter) (taken : List RawFrame) (frame : Option BusFrame),
      w.frames = taken ++ v.frames ∧ taken.filterMap BusFrame.ofRaw? = frame.toList ∧
        v.advance now frame = (notices, next) := by
  unfold Worker.wake? at h
  split at h
  · rename_i raw rest hframes
    cases h
    refine ⟨{ w with frames := rest }, [raw], BusFrame.ofRaw? raw, hframes, ?_, rfl⟩
    cases hraw : BusFrame.ofRaw? raw <;> simp [hraw]
  · rename_i rest _ _
    cases h
    exact ⟨{ w with submissions := rest }, [], none, rfl, rfl, rfl⟩
  · split at h
    · cases h
      exact ⟨w, [], none, rfl, rfl, rfl⟩
    · cases h

end Worker

namespace Relay

/-! What happens is what happens to the controller without a log. -/

variable {r : Relay σ} {notices : List Notice}

/-- All that can happen to a relay as notices are passed on. -/
theorem pass_keeps (keeps : Relay σ → Prop)
    (hingested : ∀ r f result state, keeps r → keeps (r.ingested f result state))
    (htell : ∀ r ticket outcome elapsed, keeps r → keeps (r.tell ticket outcome elapsed))
    (hlose : ∀ r ticket, keeps r → keeps (r.lose ticket)) (hhalt : ∀ r, keeps r → keeps r.halt)
    (notices : List Notice) (h : keeps r) : keeps (r.pass notices) := by
  induction notices generalizing r with
  | nil => exact h
  | cons notice rest ih =>
    cases notice with
    | telemetry f =>
      unfold pass
      split
      · exact hhalt _ (hingested r f _ _ h)
      · exact ih (hingested r f _ _ h)
    | completion ticket outcome elapsed => exact ih (htell r ticket outcome elapsed h)
    | lost ticket => exact ih (hlose r ticket h)

/-- What the hub says of a payload that brings the worker down, and of any other. -/
theorem pass_falls {f : BusFrame} {next : Hub σ × σ}
    (hrun : (Ingestion.ofFrame f).run r.state = (.error .abort, next)) (notices : List Notice) :
    r.pass (.telemetry f :: notices) = (r.ingested f (.error .abort) r.state).halt := by
  rw [pass, hrun]

theorem pass_returns {f : BusFrame} {result : Except (Halt Error) Nat} {next : Hub σ × σ}
    (hrun : (Ingestion.ofFrame f).run r.state = (result, next))
    (hreturns : result ≠ .error .abort) (notices : List Notice) :
    r.pass (.telemetry f :: notices) = (r.ingested f result next).pass notices := by
  rw [pass, hrun]
  obtain (cause | _) | matched := result
  · rfl
  · exact absurd rfl hreturns
  · rfl

/-- What notices leave alone. -/
structure Alike (r next : Relay σ) : Prop where
  worker : next.controller.worker = r.controller.worker
  now : next.now = r.now
  delivered : next.delivered = r.delivered
  taken : next.taken = r.taken

theorem pass_alike (notices : List Notice) (r : Relay σ) : r.Alike (r.pass notices) := by
  refine pass_keeps (fun next => r.Alike next) ?_ ?_ ?_ ?_ notices ⟨rfl, rfl, rfl, rfl⟩
  · exact fun next f result state h => ⟨h.worker, h.now, h.delivered, h.taken⟩
  · intro next ticket outcome elapsed h
    have hlater :=
      Controller.finish_later next.controller ticket (Controller.replyOf outcome elapsed)
    exact ⟨hlater.worker.trans h.worker, h.now, h.delivered, h.taken⟩
  · intro next ticket h
    have hlater := Controller.finish_later next.controller ticket fun _ => .error .workerStopped
    exact ⟨hlater.worker.trans h.worker, h.now, h.delivered, h.taken⟩
  · intro next h
    have hlater := Controller.stop_later next.controller
    exact ⟨hlater.worker.trans h.worker, h.now, h.delivered, h.taken⟩

/-! Turns. -/

/-- The worker was told of the time and of a frame, which it took from its queue. -/
def roused (r : Relay σ) (v : Worker Arbiter) (taken : List RawFrame) (frame : Option BusFrame) :
    Relay σ :=
  { r.withWorker (v.advance r.now frame).2 with taken := r.taken ++ taken }

/-- And it has told the hub and the callers. -/
def heard (r : Relay σ) (v : Worker Arbiter) (taken : List RawFrame) (frame : Option BusFrame) :
    Relay σ :=
  (r.roused v taken frame).pass (v.advance r.now frame).1

/-- All that a turn can come to: nothing is due, or the worker deals with a frame or with the time,
and accepts a submission if that woke it. -/
theorem turn_cases (r : Relay σ) :
    r.turn = r ∨ ∃ v taken frame submission,
      r.controller.worker.frames = taken ++ v.frames ∧
        taken.filterMap BusFrame.ofRaw? = frame.toList ∧
          r.turn = (r.heard v taken frame).acceptNext submission := by
  unfold turn
  split
  · exact .inl rfl
  · cases hwake : r.controller.worker.wake? r.now with
    | none => exact .inl rfl
    | some woken =>
      obtain ⟨notices, worker, submission⟩ := woken
      obtain ⟨v, taken, frame, hframes, hdecoded, hadvance⟩ := Worker.wake?_taken hwake
      refine .inr ⟨v, taken, frame, submission, hframes, hdecoded, ?_⟩
      have hleft : worker.frames = v.frames := by
        have hsame : (v.advance r.now frame).2.frames = v.frames := rfl
        rwa [hadvance] at hsame
      have htaken : r.controller.worker.frames.take
          (r.controller.worker.frames.length - worker.frames.length) = taken := by
        rw [hleft, hframes, List.length_append, Nat.add_sub_cancel, List.take_left]
      unfold heard roused
      rw [hadvance]
      dsimp only
      rw [htaken]

/-- The worker says nothing of frames as it accepts a submission. -/
theorem acceptNext_cases (submission : Option Submission) (r : Relay σ) :
    r.acceptNext submission = r ∨ ∃ worker notices,
      worker.frames = r.controller.worker.frames ∧
        (∀ n ∈ notices, ∀ f : BusFrame, ¬n.Carries f) ∧
          r.acceptNext submission = (r.withWorker worker).pass notices := by
  unfold acceptNext
  cases submission with
  | none => exact .inl rfl
  | some submission =>
    dsimp only
    split
    · exact .inl rfl
    · have hsurvives := (r.controller.worker.accept_says r.now submission).1
      have hquiet := r.controller.worker.accept_quiet r.now submission
      have hframes := r.controller.worker.accept_frames r.now submission
      generalize r.controller.worker.accept r.now submission = accepted at *
      obtain ⟨notices, worker, survives⟩ := accepted
      dsimp only at hsurvives
      subst hsurvives
      exact .inr ⟨worker, notices, hframes, hquiet, rfl⟩

theorem acceptNext_alike (submission : Option Submission) (r : Relay σ) :
    (r.acceptNext submission).controller.worker.frames = r.controller.worker.frames ∧
      (r.acceptNext submission).now = r.now ∧
        (r.acceptNext submission).delivered = r.delivered ∧
          (r.acceptNext submission).taken = r.taken := by
  rcases r.acceptNext_cases submission with hsame | ⟨worker, notices, hframes, -, hpass⟩
  · rw [hsame]
    exact ⟨rfl, rfl, rfl, rfl⟩
  · have halike := pass_alike notices (r.withWorker worker)
    rw [hpass]
    exact ⟨(congrArg Worker.frames halike.worker).trans hframes, halike.now, halike.delivered,
      halike.taken⟩

theorem turn_now (r : Relay σ) : r.turn.now = r.now := by
  rcases r.turn_cases with hidle | ⟨v, taken, frame, submission, -, -, hturn⟩
  · rw [hidle]
  · rw [hturn, (acceptNext_alike submission _).2.1]
    exact (pass_alike _ _).now

end Relay

/-! The log. -/

/-- An answer with a frame in it. -/
def RelayEntry.Answers (e : RelayEntry) (f : BusFrame) : Prop :=
  ∃ ticket status elapsed, e = .told ticket (.completed status (some f)) elapsed

/-- Telemetry is in the hub just before it is in an answer. -/
def Ushered (log : List RelayEntry) : Prop :=
  ∀ before e after f, log = before ++ e :: after → e.Answers f → f.isBoardTelemetry = true →
    ∃ earlier result, before = earlier ++ [.ingested (.ofFrame f) result]

theorem Ushered.concat {log : List RelayEntry} {e : RelayEntry} (h : Ushered log)
    (hlast : ∀ f, e.Answers f → f.isBoardTelemetry = true →
      ∃ earlier result, log = earlier ++ [.ingested (.ofFrame f) result]) :
    Ushered (log ++ [e]) := by
  intro before other after f hsplit hanswers htelemetry
  rcases concat_eq_append_cons hsplit with ⟨rfl, rfl⟩ | ⟨middle, hlog, -⟩
  · exact hlast f hanswers htelemetry
  · exact h before other middle f hlog hanswers htelemetry

/-- Entries without telemetry may follow on anything. -/
theorem Ushered.append {log entries : List RelayEntry} (h : Ushered log)
    (hnone : ∀ e ∈ entries, ∀ f, e.Answers f → f.isBoardTelemetry = false) :
    Ushered (log ++ entries) := by
  induction entries generalizing log with
  | nil => rwa [List.append_nil]
  | cons e rest ih =>
    rw [List.append_cons]
    refine ih (h.concat ?_) fun other hother => hnone other (List.mem_cons_of_mem e hother)
    intro f hanswers htelemetry
    rw [hnone e List.mem_cons_self f hanswers] at htelemetry
    cases htelemetry

/-- An entry for a caller has the frame of its notice in it. -/
theorem Notice.carries_of_entry {n : Notice} {e : RelayEntry} {f : BusFrame}
    (hentry : n.entry? = some e) (hanswers : e.Answers f) : n.Carries f := by
  obtain ⟨ticket, status, elapsed, rfl⟩ := hanswers
  cases n with
  | telemetry g => cases hentry
  | lost other => cases hentry
  | completion other outcome time =>
    cases hentry
    exact .inr ⟨ticket, status, elapsed, rfl⟩

namespace Relay

variable {r : Relay σ} {notices : List Notice}

/-- Without telemetry, everything is for callers. -/
theorem pass_log (hsilent : ∀ f, .telemetry f ∉ notices) (r : Relay σ) :
    (r.pass notices).log = r.log ++ notices.filterMap Notice.entry? := by
  induction notices generalizing r with
  | nil => exact (List.append_nil _).symm
  | cons notice rest ih =>
    have hrest (r : Relay σ) := ih (fun f hin => hsilent f (List.mem_cons_of_mem notice hin)) r
    cases notice with
    | telemetry f => exact absurd List.mem_cons_self (hsilent f)
    | completion ticket outcome elapsed =>
      exact (hrest (r.tell ticket outcome elapsed)).trans (List.append_assoc _ _ _)
    | lost ticket => exact (hrest (r.lose ticket)).trans (List.append_assoc _ _ _)

/-- Telemetry is given to the hub first. If that brings the worker down, nobody hears any more. -/
theorem pass_log_telemetry {f : BusFrame} (hsilent : ∀ g, .telemetry g ∉ notices) (r : Relay σ) :
    ∃ result, (r.pass (.telemetry f :: notices)).log =
        r.log ++ [.ingested (.ofFrame f) result] ∨
      (r.pass (.telemetry f :: notices)).log =
        r.log ++ [.ingested (.ofFrame f) result] ++ notices.filterMap Notice.entry? := by
  unfold pass
  split
  · exact ⟨_, .inl rfl⟩
  · exact ⟨_, .inr (pass_log hsilent _)⟩

theorem entry?_ingestion? (notices : List Notice) :
    (notices.filterMap Notice.entry?).filterMap RelayEntry.ingestion? = [] := by
  apply List.filterMap_eq_nil_iff.mpr
  intro e he
  obtain ⟨n, -, hentry⟩ := List.mem_filterMap.mp he
  cases n with
  | telemetry f => cases hentry
  | completion | lost =>
    cases hentry
    rfl

/-- Entries for callers without telemetry in them. -/
theorem pass_plain {frame : Option BusFrame} (hfollow : Follow frame notices)
    (hplain : ∀ f, frame = some f → f.isBoardTelemetry = false) (r : Relay σ) :
    (r.pass notices).log.filterMap RelayEntry.ingestion? =
        r.log.filterMap RelayEntry.ingestion? ∧
      (Ushered r.log → Ushered (r.pass notices).log) := by
  rw [pass_log hfollow.silent, List.filterMap_append, entry?_ingestion?, List.append_nil]
  refine ⟨rfl, fun h => h.append ?_⟩
  intro e he f hanswers
  obtain ⟨n, hn, hentry⟩ := List.mem_filterMap.mp he
  exact hplain f (hfollow.own n hn f (Notice.carries_of_entry hentry hanswers))

/-- Telemetry is entered once, and before its answer. -/
theorem pass_telemetry {f : BusFrame} (hfollow : Follow (some f) notices) (r : Relay σ) :
    let next := r.pass (.telemetry f :: notices)
    next.log.filterMap RelayEntry.ingestion? =
        r.log.filterMap RelayEntry.ingestion? ++ [.ofFrame f] ∧
      (Ushered r.log → Ushered next.log) := by
  intro next
  have hgiven (result : Except (Halt Error) Nat) (h : Ushered r.log) :
      Ushered (r.log ++ [.ingested (.ofFrame f) result]) := by
    refine h.concat ?_
    rintro g ⟨ticket, status, elapsed, hcase⟩
    cases hcase
  obtain ⟨result, hdown | hlog⟩ := pass_log_telemetry hfollow.silent r
  · have hlast : next.log = r.log ++ [.ingested (.ofFrame f) result] := hdown
    rw [hlast]
    refine ⟨?_, hgiven result⟩
    rw [List.filterMap_append]
    rfl
  · have hlast : next.log = r.log ++ [.ingested (.ofFrame f) result] ++
        notices.filterMap Notice.entry? := hlog
    rw [hlast]
    constructor
    · rw [List.filterMap_append, entry?_ingestion?, List.append_nil, List.filterMap_append]
      rfl
    · intro h
      have hgiven := hgiven result h
      cases notices with
      | nil => simpa using hgiven
      | cons n late =>
        have hlate (e : RelayEntry) (he : e ∈ late.filterMap Notice.entry?) (g : BusFrame)
            (hanswers : e.Answers g) : g.isBoardTelemetry = false := by
          obtain ⟨m, hm, hentry⟩ := List.mem_filterMap.mp he
          exact absurd (Notice.carries_of_entry hentry hanswers) (hfollow.first m hm g)
        cases hentry : n.entry? with
        | none =>
          rw [List.filterMap_cons_none hentry]
          exact hgiven.append hlate
        | some e =>
          rw [List.filterMap_cons_some hentry, List.append_cons]
          refine (hgiven.concat ?_).append hlate
          intro g hanswers _
          have hcarries := Notice.carries_of_entry hentry hanswers
          cases hfollow.own n List.mem_cons_self g hcarries
          exact ⟨r.log, result, rfl⟩

/-- What a frame enters into the log. -/
theorem pass_frame {frame : Option BusFrame} (hfollow : Follow frame notices) (r : Relay σ) :
    let next := r.pass (Worker.telemetryOf frame ++ notices)
    next.log.filterMap RelayEntry.ingestion? =
        r.log.filterMap RelayEntry.ingestion? ++
          (frame.toList.filter BusFrame.isBoardTelemetry).map Ingestion.ofFrame ∧
      (Ushered r.log → Ushered next.log) := by
  cases frame with
  | none => simpa [Worker.telemetryOf] using pass_plain hfollow (by simp) r
  | some f =>
    by_cases htelemetry : f.isBoardTelemetry = true
    · simpa [Worker.telemetryOf, htelemetry] using pass_telemetry hfollow r
    · have hplain : ∀ g, some f = some g → g.isBoardTelemetry = false := by
        rintro g ⟨rfl⟩
        exact Bool.eq_false_iff.mpr htelemetry
      simpa [Worker.telemetryOf, htelemetry] using pass_plain hfollow hplain r

/-! What holds all along. -/

/-- The telemetry in the frames that the worker took, in order. -/
def telemetry (r : Relay σ) : List BusFrame :=
  (r.taken.filterMap BusFrame.ofRaw?).filter BusFrame.isBoardTelemetry

/-- What callers were told is in the log. -/
def Told (r : Relay σ) : Prop :=
  ∀ ticket reply, (ticket, .ok reply) ∈ r.controller.ended → ∃ outcome elapsed caller,
    .told ticket outcome elapsed ∈ r.log ∧
      Controller.replyOf outcome elapsed caller = .ok reply

/-- What the log of a relay says of the frames. -/
structure Faithful (r : Relay σ) : Prop where
  /-- The worker takes every frame once, in the order in which they came. -/
  frames : r.taken ++ r.controller.worker.frames = r.delivered
  /-- Each telemetry among them is given to the hub once, in that order, and nothing else is. -/
  ingestions : r.log.filterMap RelayEntry.ingestion? = r.telemetry.map Ingestion.ofFrame
  /-- Telemetry is in the hub just before it is in an answer. -/
  ushered : Ushered r.log
  told : r.Told

theorem finish_ended (c : Controller Arbiter) (ticket : Nat)
    (result : Caller → Except QueryError QueryReply) :
    (c.finish ticket result).ended = c.ended ∨
      ∃ caller, (c.finish ticket result).ended = c.ended ++ [(ticket, result caller)] := by
  unfold Controller.finish
  split
  · exact .inl rfl
  · exact .inr ⟨_, rfl⟩

/-- Verdicts that are errors leave the replies as they are. -/
theorem finishAll_ok {verdicts : List Verdict}
    (herror : ∀ v ∈ verdicts, ∀ caller reply, v.result caller ≠ .ok reply)
    (c : Controller Arbiter) {ticket : Nat} {reply : QueryReply}
    (h : (ticket, .ok reply) ∈ (c.finishAll verdicts).ended) : (ticket, .ok reply) ∈ c.ended := by
  induction verdicts generalizing c with
  | nil => exact h
  | cons v rest ih =>
    have hearlier := ih (fun w hw => herror w (List.mem_cons_of_mem v hw)) _ h
    rcases finish_ended c v.ticket v.result with hsame | ⟨caller, hmore⟩
    · rwa [hsame] at hearlier
    · rw [hmore] at hearlier
      rcases List.mem_append.mp hearlier with hold | hnew
      · exact hold
      · cases hresult : v.result caller with
        | ok other => exact absurd hresult (herror v List.mem_cons_self caller other)
        | error e =>
          rw [hresult] at hnew
          cases List.mem_singleton.mp hnew

theorem stop_ok (c : Controller Arbiter) {ticket : Nat} {reply : QueryReply}
    (h : (ticket, .ok reply) ∈ c.stop.ended) : (ticket, .ok reply) ∈ c.ended := by
  rw [Controller.stop_eq] at h
  refine finishAll_ok ?_ { c with running := false } h
  intro v hv caller reply hok
  obtain ⟨_, -, rfl⟩ := List.mem_map.mp hv
  cases hok

theorem giveUp_ok (c : Controller Arbiter) (now : Instant) {ticket : Nat} {reply : QueryReply}
    (h : (ticket, .ok reply) ∈ (c.giveUp now).ended) : (ticket, .ok reply) ∈ c.ended := by
  rw [Controller.giveUp_eq] at h
  refine finishAll_ok ?_ c h
  intro v hv caller reply hok
  obtain ⟨_, -, rfl⟩ := List.mem_map.mp hv
  cases hok

/-- More in the log, and no more replies. -/
theorem Told.mono {next : Relay σ} (h : r.Told) (hlog : ∀ e ∈ r.log, e ∈ next.log)
    (hended : ∀ ticket reply, (ticket, .ok reply) ∈ next.controller.ended →
      (ticket, .ok reply) ∈ r.controller.ended) : next.Told := by
  intro ticket reply hin
  obtain ⟨outcome, elapsed, caller, htold, hreply⟩ := h ticket reply (hended ticket reply hin)
  exact ⟨outcome, elapsed, caller, hlog _ htold, hreply⟩

theorem Told.tell (h : r.Told) (ticket : Nat) (outcome : Outcome) (elapsed : Duration) :
    (r.tell ticket outcome elapsed).Told := by
  have hlog : ∀ e ∈ r.log, e ∈ (r.tell ticket outcome elapsed).log :=
    fun e he => List.mem_append_left _ he
  intro other reply hin
  rcases finish_ended r.controller ticket (Controller.replyOf outcome elapsed) with
    hsame | ⟨caller, hmore⟩
  · have hin : (other, .ok reply) ∈ (r.controller.finish ticket _).ended := hin
    rw [hsame] at hin
    obtain ⟨before, time, caller, htold, hreply⟩ := h other reply hin
    exact ⟨before, time, caller, hlog _ htold, hreply⟩
  · have hin : (other, .ok reply) ∈ (r.controller.finish ticket _).ended := hin
    rw [hmore] at hin
    rcases List.mem_append.mp hin with hold | hnew
    · obtain ⟨before, time, caller, htold, hreply⟩ := h other reply hold
      exact ⟨before, time, caller, hlog _ htold, hreply⟩
    · obtain ⟨rfl, hreply⟩ := Prod.mk.inj (List.mem_singleton.mp hnew)
      exact ⟨outcome, elapsed, caller, List.mem_append_right _ List.mem_cons_self, hreply.symm⟩

theorem Told.lose (h : r.Told) (ticket : Nat) : (r.lose ticket).Told := by
  refine h.mono (fun e he => List.mem_append_left _ he) ?_
  intro other reply hin
  have hfinish : r.controller.finishAll
      [{ ticket, result := fun _ => .error .workerStopped }] = (r.lose ticket).controller := rfl
  rw [← hfinish] at hin
  refine finishAll_ok ?_ _ hin
  intro v hv caller reply hok
  rw [List.mem_singleton.mp hv] at hok
  cases hok

theorem Told.halt (h : r.Told) : r.halt.Told :=
  h.mono (fun _ => id) fun _ _ => stop_ok r.controller

theorem Told.pass (h : r.Told) (notices : List Notice) : (r.pass notices).Told :=
  pass_keeps _ (fun _ _ _ _ h => h.mono (fun _ => List.mem_append_left _) fun _ _ => id)
    (fun _ ticket outcome elapsed h => h.tell ticket outcome elapsed)
    (fun _ ticket h => h.lose ticket) (fun _ h => h.halt) notices h

/-- The worker deals with a frame, or with the time. -/
theorem Faithful.heard (h : r.Faithful) {v : Worker Arbiter} {taken : List RawFrame}
    {frame : Option BusFrame} (hframes : r.controller.worker.frames = taken ++ v.frames)
    (hdecoded : taken.filterMap BusFrame.ofRaw? = frame.toList) :
    (r.heard v taken frame).Faithful := by
  obtain ⟨rest, hnotices, hfollow⟩ := v.advance_follow r.now frame
  let woken := r.roused v taken frame
  have hheard : r.heard v taken frame = woken.pass (Worker.telemetryOf frame ++ rest) := by
    unfold Relay.heard
    rw [← hnotices]
  have halike := pass_alike (Worker.telemetryOf frame ++ rest) woken
  obtain ⟨hingestions, hushered⟩ := pass_frame hfollow woken
  have htold : woken.Told := h.told
  rw [hheard]
  constructor
  · rw [halike.taken, halike.delivered, halike.worker]
    refine Eq.trans ?_ h.frames
    rw [hframes, ← List.append_assoc]
    rfl
  · have htaken : (woken.pass (Worker.telemetryOf frame ++ rest)).taken = r.taken ++ taken :=
      halike.taken
    have hall : (woken.pass (Worker.telemetryOf frame ++ rest)).telemetry =
        r.telemetry ++ frame.toList.filter BusFrame.isBoardTelemetry := by
      unfold telemetry
      rw [htaken, List.filterMap_append, hdecoded, List.filter_append]
    rw [hingestions, hall, List.map_append, ← h.ingestions]
    rfl
  · exact hushered h.ushered
  · exact htold.pass _

/-- Frames are no matter when a submission is accepted. -/
theorem Faithful.acceptNext (h : r.Faithful) (submission : Option Submission) :
    (r.acceptNext submission).Faithful := by
  rcases r.acceptNext_cases submission with hsame | ⟨worker, notices, hframes, hquiet, hpass⟩
  · rwa [hsame]
  · have hfollow : Follow none notices :=
      ⟨fun f hin => hquiet _ hin f (.inl rfl),
        fun n hn f hcarries => absurd hcarries (hquiet n hn f),
        fun n hn => hquiet n (List.mem_of_mem_tail hn)⟩
    have halike := pass_alike notices (r.withWorker worker)
    obtain ⟨hingestions, hushered⟩ := pass_plain hfollow nofun (r.withWorker worker)
    have htold : (r.withWorker worker).Told := h.told
    rw [hpass]
    constructor
    · rw [halike.taken, halike.delivered, halike.worker]
      refine Eq.trans ?_ h.frames
      exact congrArg (r.taken ++ ·) hframes
    · rw [hingestions]
      unfold telemetry
      rw [halike.taken]
      exact h.ingestions
    · exact hushered h.ushered
    · exact htold.pass _

theorem Faithful.turn (h : r.Faithful) : r.turn.Faithful := by
  rcases r.turn_cases with hidle | ⟨v, taken, frame, submission, hframes, hdecoded, hturn⟩
  · rwa [hidle]
  · rw [hturn]
    exact (h.heard hframes hdecoded).acceptNext submission

/-- A controller whose worker kept its frames and that has no more replies. -/
theorem Faithful.replace (h : r.Faithful) {controller : Controller Arbiter}
    (hframes : controller.worker.frames = r.controller.worker.frames)
    (hended : ∀ ticket reply, (ticket, .ok reply) ∈ controller.ended →
      (ticket, .ok reply) ∈ r.controller.ended) : ({ r with controller } : Relay σ).Faithful where
  frames := (congrArg (r.taken ++ ·) hframes).trans h.frames
  ingestions := h.ingestions
  ushered := h.ushered
  told := h.told.mono (fun _ => id) hended

theorem Faithful.deliver (h : r.Faithful) (frame : RawFrame) :
    (r.act (.deliver frame)).Faithful := by
  have hrefused (hsame : (r.controller.deliver frame).2 = r.controller)
      (hlost : (r.controller.deliver frame).1 ≠ .queued) : (r.act (.deliver frame)).Faithful := by
    have hnothing : r.act (.deliver frame) = r := by
      unfold act
      dsimp only
      rw [hsame, if_neg hlost, List.append_nil]
    rwa [hnothing]
  by_cases hup : r.controller.running = true
  · by_cases hfull : r.controller.config.frameDepth.toNat ≤ r.controller.worker.frames.length
    · exact hrefused (by simp [Controller.deliver, hfull, hup])
        (by simp [Controller.deliver, hfull, hup])
    · have hqueued : r.act (.deliver frame) =
          { r with
            controller := { r.controller with
              worker := { r.controller.worker with
                frames := r.controller.worker.frames ++ [frame] } }
            delivered := r.delivered ++ [frame] } := by
        simp [act, Controller.deliver, hfull, hup]
      rw [hqueued]
      refine { h with frames := ?_ }
      rw [← List.append_assoc, h.frames]
  · exact hrefused (by simp [Controller.deliver, hup]) (by simp [Controller.deliver, hup])

theorem Faithful.act (h : r.Faithful) (event : ControllerStep) : (r.act event).Faithful := by
  cases event with
  | query did request timeoutMs =>
    have hbegins := r.controller.query_begins did request timeoutMs r.now
    unfold Relay.act
    dsimp only
    generalize r.controller.query did request timeoutMs r.now = answer at hbegins ⊢
    cases hbegins <;> exact h.replace rfl fun _ _ => id
  | send did request =>
    refine h.replace ?_ ?_
    · rcases r.controller.send_cases did request with hsame | hqueued
      · rw [hsame]
      · rw [hqueued]
    · rcases r.controller.send_cases did request with hsame | hqueued
      · rw [hsame]
        exact fun _ _ => id
      · rw [hqueued]
        exact fun _ _ => id
  | deliver frame => exact h.deliver frame
  | wait time => exact { h with }
  | turn => exact h.turn
  | giveUp =>
    refine h.replace ?_ fun _ _ => giveUp_ok r.controller r.now
    rw [Controller.giveUp_eq]
    exact congrArg Worker.frames (Controller.finishAll_later _ _).worker
  | collect => exact h.replace rfl fun _ _ => nofun
  | carry | disconnect => exact h.replace rfl fun _ _ => id
  | shutdown =>
    exact h.replace (congrArg Worker.frames (Controller.stop_later _).worker)
      fun _ _ => stop_ok r.controller

theorem Faithful.run (h : r.Faithful) (steps : List (RelayStep σ)) : (r.run steps).Faithful := by
  induction steps generalizing r with
  | nil => exact h
  | cons event rest ih =>
    cases event with
    | board event => exact ih (h.act event)
    | meddle change => exact ih { h with }

end Relay

end HomeGateway
