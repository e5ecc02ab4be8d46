import Mathlib
import HomeGateway.Proofs.Bus.Channel
import HomeGateway.Proofs.Bus.Slots

/-!
Runs of a controller over the field-bus protocol, in any order of calls, frames, turns of the worker
and time that passes, whether callers are told in time or not. As many slots are taken as calls are
under way, and what a call came to says what it put on the channel: its own request, once, or
nothing. Frames are on the channel in the order in which they were submitted.
-/

namespace HomeGateway

/-- A query call and how it began. `others` is the number of calls that were under way then. The
ticket is that of its submission, if there is one. -/
structure QueryCall where
  did : BusDeviceId
  request : BusFrame
  timeoutMs : Nat
  time : Instant
  others : Nat
  start : Except QueryError Nat
  ticket? : Option Nat

/-- A submission that the worker accepted, the protocol as it was found and the frames that it put
on the channel. -/
structure Passage where
  submission : Submission
  found : Arbiter
  put : List RawFrame

/-- A controller and what was done at it: the calls, all that was submitted and what of it was
accepted, the ends that were asked for, and the frames that have left the channel. -/
structure ControllerInUse (S : Type) where
  controller : Controller Arbiter
  hub : S
  now : Instant
  calls : List QueryCall
  submitted : List Submission
  passed : List Passage
  collected : List (Nat × Except QueryError QueryReply)
  carried : List RawFrame

/-- What happens at a controller. The driver of the bus takes some of the frames on the channel, or
it goes away with them. -/
inductive ControllerStep where
  | query (did : BusDeviceId) (request : BusFrame) (timeoutMs : Nat)
  | send (did : BusDeviceId) (request : BusFrame)
  | deliver (frame : RawFrame)
  | wait (time : Duration)
  | turn
  | giveUp
  | collect
  | carry (count : Nat)
  | disconnect
  | shutdown

namespace ControllerInUse

variable {S : Type}

def open? (depth : Nat) (config : BusConfig) (hub : S) (now : Instant) :
    Except ConfigError (ControllerInUse S) :=
  (Controller.start (.new depth) config now).map fun controller =>
    { controller, hub, now, calls := [], submitted := [], passed := [], collected := []
      carried := [] }

def queue (b : ControllerInUse S) : List Submission := b.controller.worker.submissions

/-- The frames on the channel. -/
def channel (b : ControllerInUse S) : List RawFrame :=
  b.controller.worker.protocol.transmit.frames

def onArbiter (b : ControllerInUse S) (f : Arbiter → Arbiter) : Controller Arbiter :=
  let worker := b.controller.worker
  { b.controller with worker := { worker with protocol := f worker.protocol } }

/-- All queries that ended after they were taken in. -/
def ended (b : ControllerInUse S) : List (Nat × Except QueryError QueryReply) :=
  b.collected ++ b.controller.ended

/-- What a call came to, if it has returned. -/
def result? (b : ControllerInUse S) (call : QueryCall) : Option (Except QueryError QueryReply) :=
  match call.start with
  | .error e => some (.error e)
  | .ok ticket => (b.ended.find? fun pair => pair.1 = ticket).map Prod.snd

/-- The calls that have not returned. -/
def underway (b : ControllerInUse S) : List QueryCall :=
  b.calls.filter fun call => (b.result? call).isNone

/-- The frames that a call put on the channel. -/
def framesOf (b : ControllerInUse S) (call : QueryCall) : List RawFrame :=
  match call.ticket? with
  | some ticket =>
    (b.passed.filter fun p => p.submission.ticket? = some ticket).flatMap Passage.put
  | none => []

/-- What a controller has in its queue besides what was there. -/
def news (b : ControllerInUse S) (controller : Controller Arbiter) : List Submission :=
  controller.worker.submissions.drop b.queue.length

def query (b : ControllerInUse S) (did : BusDeviceId) (request : BusFrame) (timeoutMs : Nat) :
    ControllerInUse S :=
  let (start, controller) := b.controller.query did request timeoutMs b.now
  let call :=
    { did, request, timeoutMs, time := b.now, others := b.underway.length, start
      ticket? := (b.news controller).head?.bind Submission.ticket? }
  { b with
    controller
    calls := b.calls ++ [call]
    submitted := b.submitted ++ b.news controller }

def send (b : ControllerInUse S) (did : BusDeviceId) (request : BusFrame) : ControllerInUse S :=
  let (_, controller) := b.controller.send did request
  { b with controller, submitted := b.submitted ++ b.news controller }

/-- One turn of the worker. It accepted what is gone from the queue, and put on the channel what is
new there. -/
def turn (forward : BusFrame → S → Option S) (b : ControllerInUse S) : ControllerInUse S :=
  let (controller, hub) := Controller.run forward b.now 1 b.controller b.hub
  let accepted := b.queue.take (b.queue.length - controller.worker.submissions.length)
  let passages := accepted.map fun submission =>
    { submission
      found := (b.controller.worker.advance b.now none).2.protocol
      put := controller.worker.protocol.transmit.frames.drop b.channel.length }
  { b with controller, hub, passed := b.passed ++ passages }

def step (forward : BusFrame → S → Option S) (b : ControllerInUse S) :
    ControllerStep → ControllerInUse S
  | .query did request timeoutMs => b.query did request timeoutMs
  | .send did request => b.send did request
  | .deliver frame => { b with controller := (b.controller.deliver frame).2 }
  | .wait time => { b with now := b.now + time }
  | .turn => b.turn forward
  | .giveUp => { b with controller := b.controller.giveUp b.now }
  | .collect =>
    { b with controller := b.controller.takeEnded.2
             collected := b.collected ++ b.controller.takeEnded.1 }
  | .carry count =>
    { b with
      controller := b.onArbiter fun a =>
        { a with transmit := { a.transmit with frames := a.transmit.frames.drop count } }
      carried := b.carried ++ b.channel.take count }
  | .disconnect =>
    { b with controller := b.onArbiter Arbiter.disconnect, carried := b.carried ++ b.channel }
  | .shutdown => { b with controller := b.controller.stop }

def run (forward : BusFrame → S → Option S) (steps : List ControllerStep) (b : ControllerInUse S) :
    ControllerInUse S := steps.foldl (step forward) b

/-! What is known of a ticket. -/

/-- Its submission was taken by the protocol. -/
def Sent (b : ControllerInUse S) (ticket : Nat) : Prop :=
  ∃ p ∈ b.passed, p.submission.ticket? = some ticket ∧ p.submission.accepted p.found = true

/-- Its submission was refused by the protocol. -/
def Unsent (b : ControllerInUse S) (ticket : Nat) : Prop :=
  ∃ p ∈ b.passed, p.submission.ticket? = some ticket ∧ p.submission.accepted p.found = false

/-- What the end of a query that was taken in says of it. -/
def Settles (b : ControllerInUse S) (ticket : Nat) : Except QueryError QueryReply → Prop
  | .ok _ | .error (.timedOut _) => b.Sent ticket
  | .error (.submission _) => b.Unsent ticket
  | .error (.invalidTimeout _) | .error .noMemory => False
  | .error .cancelled | .error (.unresponsive _) | .error .workerStopped => True

end ControllerInUse

namespace QueryCall

/-- The ticket by which its caller waits. -/
def waits? (call : QueryCall) : Option Nat := call.start.toOption

def submission (call : QueryCall) (ticket : Nat) : Submission :=
  .query ticket call.did call.request (.ofMillis call.timeoutMs) call.time

/-- What there is to say of how a call began. -/
structure Begun (call : QueryCall) (config : BusConfig) : Prop where
  waits : ∀ ticket, call.start = .ok ticket → call.ticket? = some ticket
  refused : ∀ e, call.start = .error e → (∀ ms, e ≠ .timedOut ms) ∧
    (call.ticket? = none ∨ ∃ ms, e = .unresponsive ms)
  noMemory : call.timeoutMs ≤ config.maxQueryTimeoutMs.toNat →
    (call.start = .error .noMemory ↔ call.others = config.maxPendingQueries.toNat)

end QueryCall

namespace ControllerInUse

variable {S : Type} {b : ControllerInUse S} {config : BusConfig}

/-- What holds all along. A submission that woke the worker is `next` until it is accepted. -/
structure Keeps (b : ControllerInUse S) (config : BusConfig) (next : Option Submission) : Prop where
  configured : b.controller.config = config
  rents : b.controller.Rents
  order : b.passed.map Passage.submission ++ (next.toList ++ b.queue) = b.submitted
  tickets : b.submitted.filterMap Submission.ticket? = List.range b.controller.nextTicket
  called : b.calls.filterMap QueryCall.ticket? = List.range b.controller.nextTicket
  begun : ∀ call ∈ b.calls, call.Begun config
  submits : ∀ call ∈ b.calls, ∀ ticket, call.ticket? = some ticket →
    call.submission ticket ∈ b.submitted
  held : (b.controller.callers.map Caller.ticket ++ b.ended.map Prod.fst).Perm
    (b.calls.filterMap QueryCall.waits?)
  puts : ∀ p ∈ b.passed, p.put = p.submission.puts p.found
  channel : b.carried ++ b.channel = b.passed.flatMap Passage.put
  parked : ∀ p ∈ b.controller.worker.parked, b.Sent p.ticket
  told : ∀ ticket result, (ticket, result) ∈ b.ended → b.Settles ticket result

variable {next : Option Submission}

theorem open?_keeps {depth : Nat} {hub : S} {now : Instant}
    (h : open? depth config hub now = .ok b) : b.Keeps config none := by
  unfold open? at h
  cases hstart : Controller.start (Arbiter.new depth) config now with
  | error e =>
    rw [hstart] at h
    cases h
  | ok c =>
    rw [hstart] at h
    cases h
    obtain ⟨hrents, hconfig⟩ := Controller.start_rents hstart
    unfold Controller.start at hstart
    split at hstart
    · cases hstart
    · cases hstart
      exact
        { configured := hconfig
          rents := hrents
          order := rfl
          tickets := rfl
          called := rfl
          begun := by simp
          submits := by simp
          held := .refl []
          puts := by simp
          channel := rfl
          parked := by simp [Worker.start]
          told := by simp [ended] }

/-! Callers are told. -/

/-- Telling callers what is true of their tickets. -/
theorem Keeps.tell {controller : Controller Arbiter} {verdicts : List Verdict}
    (h : b.Keeps config next) (hfinished : Controller.Finished b.controller controller verdicts)
    (hrents : controller.Rents)
    (hfair : ∀ v ∈ verdicts, ∀ caller, b.Settles v.ticket (v.result caller)) :
    ({ b with controller } : ControllerInUse S).Keeps config next := by
  obtain ⟨news, hended, hnews⟩ := hfinished.ended
  have hall : ({ b with controller } : ControllerInUse S).ended = b.ended ++ news := by
    simp only [ended, hended, List.append_assoc]
  constructor
  case configured => exact hfinished.config.trans h.configured
  case rents => exact hrents
  case order =>
    simp only [queue, hfinished.worker]
    exact h.order
  case tickets =>
    rw [hfinished.nextTicket]
    exact h.tickets
  case called =>
    rw [hfinished.nextTicket]
    exact h.called
  case begun => exact h.begun
  case submits => exact h.submits
  case held =>
    refine List.Perm.trans ?_ h.held
    have hheld := hfinished.held.append_right (b.collected.map Prod.fst)
    unfold Controller.held at hheld
    simp only [ended, List.map_append]
    refine (List.perm_append_comm.append_left _).trans ?_
    rw [← List.append_assoc]
    refine hheld.trans ?_
    rw [List.append_assoc]
    exact List.perm_append_comm.append_left _
  case puts => exact h.puts
  case channel =>
    simp only [ControllerInUse.channel, hfinished.worker]
    exact h.channel
  case parked =>
    intro p hp
    rw [hfinished.worker] at hp
    exact h.parked p hp
  case told =>
    intro ticket result hin
    rw [hall] at hin
    rcases List.mem_append.mp hin with hold | hnew
    · exact h.told ticket result hold
    · obtain ⟨v, hv, caller, -, rfl, -, rfl⟩ := hnews ticket result hnew
      exact hfair v hv caller

/-- The worker stops. -/
theorem Keeps.halted (h : b.Keeps config next) :
    ({ b with controller := { b.controller with running := false } } : ControllerInUse S).Keeps
      config next :=
  { h with rents := h.rents.congr rfl rfl rfl rfl }

theorem Keeps.stop (h : b.Keeps config next) :
    ({ b with controller := b.controller.stop } : ControllerInUse S).Keeps config next := by
  obtain ⟨-, verdicts, hfinished, hstopped⟩ := Controller.stop_finished h.rents.distinct
  refine h.halted.tell hfinished (Controller.rents_kept.stop h.rents) ?_
  intro v hv caller
  rw [hstopped v hv]
  trivial

theorem Keeps.giveUp (h : b.Keeps config next) (now : Instant) :
    ({ b with controller := b.controller.giveUp now } : ControllerInUse S).Keeps config next := by
  have hrents := Controller.rents_kept.giveUp now h.rents
  rw [Controller.giveUp_eq] at hrents ⊢
  refine h.tell (Controller.finishAll_finished h.rents.distinct _) hrents ?_
  intro v hv caller
  obtain ⟨patient, -, rfl⟩ := List.mem_map.mp hv
  trivial

/-- Notices are passed on. -/
theorem Keeps.pass (forward : BusFrame → S → Option S) {notices : List Notice}
    (h : b.Keeps config next)
    (hfair : ∀ v ∈ notices.filterMap Notice.verdict?, ∀ caller,
      b.Settles v.ticket (v.result caller)) (s : S) :
    ({ b with controller := (Controller.pass forward notices b.controller s).1
              hub := (Controller.pass forward notices b.controller s).2 } :
      ControllerInUse S).Keeps config next := by
  have hrents := Controller.rents_kept.pass forward notices s h.rents
  rcases Controller.pass_finished h.rents.distinct forward notices s with
    hall | ⟨-, verdicts, hfinished, hverdicts⟩
  · exact { h.tell hall hrents hfair with }
  · refine { h.halted.tell hfinished hrents ?_ with }
    intro v hv caller
    rcases hverdicts v hv with hnotice | hstopped
    · exact hfair v hnotice caller
    · rw [hstopped]
      trivial

/-! Calls under way. -/

/-- What is chosen from fewer elements is a part. -/
theorem filterMap_sublist {α β : Type} {f g : α → Option β} {l : List α}
    (h : ∀ a ∈ l, ∀ b, f a = some b → g a = some b) :
    (l.filterMap f).Sublist (l.filterMap g) := by
  induction l with
  | nil => exact .refl []
  | cons a rest ih =>
    have hrest := ih fun other hother => h other (List.mem_cons_of_mem a hother)
    rw [List.filterMap_cons, List.filterMap_cons]
    cases hf : f a with
    | some b =>
      rw [h a List.mem_cons_self b hf]
      exact hrest.cons_cons b
    | none =>
      cases g a with
      | some b => exact hrest.cons b
      | none => exact hrest

/-- No ticket is given out twice. -/
theorem Keeps.waits_nodup (h : b.Keeps config next) :
    (b.calls.filterMap QueryCall.waits?).Nodup := by
  have hsublist : (b.calls.filterMap QueryCall.waits?).Sublist
      (b.calls.filterMap QueryCall.ticket?) := by
    apply filterMap_sublist
    intro call hcall ticket hwaits
    refine (h.begun call hcall).waits ticket ?_
    unfold QueryCall.waits? at hwaits
    cases hstart : call.start with
    | error e =>
      rw [hstart] at hwaits
      cases hwaits
    | ok given =>
      rw [hstart] at hwaits
      cases hwaits
      rfl
  rw [h.called] at hsublist
  exact List.nodup_range.sublist hsublist

theorem isNone_result? (b : ControllerInUse S) (call : QueryCall) :
    (b.result? call).isNone =
      call.waits?.any fun ticket => ticket ∉ b.ended.map Prod.fst := by
  unfold result? QueryCall.waits?
  cases call.start with
  | error e => rfl
  | ok ticket =>
    simp only [Except.toOption, Option.any_some, Option.isNone_map]
    rw [Bool.eq_iff_iff, decide_eq_true_eq, Option.isNone_iff_eq_none, List.find?_eq_none]
    constructor
    · intro hnone hin
      obtain ⟨pair, hpair, rfl⟩ := List.mem_map.mp hin
      exact hnone pair hpair (decide_eq_true rfl)
    · intro hout pair hpair hsame
      exact hout (of_decide_eq_true hsame ▸ List.mem_map_of_mem hpair)

/-- The calls under way are those whose callers wait. -/
theorem Keeps.underway_length (h : b.Keeps config next) :
    b.underway.length = b.controller.callers.length := by
  have hnodup := h.held.nodup_iff.mpr h.waits_nodup
  have hdisjoint := (List.nodup_append.mp hnodup).2.2
  have hwaiting : (b.controller.callers.map Caller.ticket ++ b.ended.map Prod.fst).filter
      (fun ticket => ticket ∉ b.ended.map Prod.fst) = b.controller.callers.map Caller.ticket := by
    have hended :
        (b.ended.map Prod.fst).filter (fun ticket => ticket ∉ b.ended.map Prod.fst) = [] :=
      List.filter_eq_nil_iff.mpr fun ticket hticket hout => of_decide_eq_true hout hticket
    rw [List.filter_append, hended, List.append_nil]
    apply List.filter_eq_self.mpr
    intro ticket hticket
    exact decide_eq_true fun hin => hdisjoint ticket hticket ticket hin rfl
  have hperm := h.held.filter fun ticket => ticket ∉ b.ended.map Prod.fst
  rw [hwaiting, List.filter_filterMap] at hperm
  have hlength := hperm.length_eq
  rw [List.length_map, List.length_filterMap_eq_countP] at hlength
  rw [hlength, underway, ← List.countP_eq_length_filter]
  apply List.countP_congr
  intro call _
  rw [isNone_result?]
  cases call.waits? <;> simp [Option.filter]

/-- No slot is free if as many calls are under way as may be. -/
theorem Keeps.free_eq_nil_iff (h : b.Keeps config next) :
    b.controller.pending.free = [] ↔ b.underway.length = config.maxPendingQueries.toNat := by
  rw [h.rents.free_eq_nil_iff, h.configured, h.underway_length]

/-! Calls and sends. -/

theorem news_self (b : ControllerInUse S) : b.news b.controller = [] := List.drop_length

/-- What was put into the queue. -/
theorem news_append {controller : Controller Arbiter} {submissions : List Submission}
    (h : controller.worker.submissions = b.queue ++ submissions) :
    b.news controller = submissions := by
  rw [news, h, List.drop_left]

/-- A call that is refused before it is submitted. -/
theorem Keeps.refuse (h : b.Keeps config next) {call : QueryCall} (hwaits : call.waits? = none)
    (hticket : call.ticket? = none) (hbegun : call.Begun config) :
    ({ b with calls := b.calls ++ [call] } : ControllerInUse S).Keeps config next :=
  { h with
    called := by
      rw [List.filterMap_append, h.called]
      simp [hticket]
    begun := List.forall_mem_append.mpr ⟨h.begun, List.forall_mem_singleton.mpr hbegun⟩
    submits := by
      refine List.forall_mem_append.mpr ⟨h.submits, List.forall_mem_singleton.mpr ?_⟩
      simp [hticket]
    held := by
      have hnone : [call].filterMap QueryCall.waits? = [] := by simp [hwaits]
      rw [List.filterMap_append, hnone, List.append_nil]
      exact h.held }

/-- A call that is submitted, whether its caller waits or not. -/
theorem Keeps.admit {controller : Controller Arbiter} {call : QueryCall}
    (h : b.Keeps config none) (hconfig : controller.config = b.controller.config)
    (hrents : controller.Rents)
    (hworker : controller.worker =
      { b.controller.worker with
        submissions := b.queue ++ [call.submission b.controller.nextTicket] })
    (hnext : controller.nextTicket = b.controller.nextTicket + 1)
    (hended : controller.ended = b.controller.ended)
    (hcallers : controller.callers.map Caller.ticket =
      b.controller.callers.map Caller.ticket ++ call.waits?.toList)
    (hticket : call.ticket? = some b.controller.nextTicket) (hbegun : call.Begun config) :
    ({ b with
        controller
        calls := b.calls ++ [call]
        submitted := b.submitted ++ [call.submission b.controller.nextTicket] } :
      ControllerInUse S).Keeps config none := by
  constructor
  case configured => exact hconfig.trans h.configured
  case rents => exact hrents
  case order =>
    simp only [queue, hworker, ← h.order]
    simp
  case tickets =>
    rw [hnext, List.filterMap_append, h.tickets, List.range_succ]
    rfl
  case called =>
    rw [hnext, List.filterMap_append, h.called, List.range_succ]
    simp [hticket]
  case begun => exact List.forall_mem_append.mpr ⟨h.begun, List.forall_mem_singleton.mpr hbegun⟩
  case submits =>
    refine List.forall_mem_append.mpr ⟨?_, List.forall_mem_singleton.mpr ?_⟩
    · intro old hold ticket hsome
      exact List.mem_append_left _ (h.submits old hold ticket hsome)
    · intro ticket hsome
      rw [hticket] at hsome
      cases hsome
      exact List.mem_append_right _ List.mem_cons_self
  case held =>
    have hcalls : (b.calls ++ [call]).filterMap QueryCall.waits? =
        b.calls.filterMap QueryCall.waits? ++ call.waits?.toList := by
      rw [List.filterMap_append]
      cases hwaits : call.waits? <;> simp [hwaits]
    rw [hcalls, hcallers, List.append_assoc]
    simp only [ended, hended]
    refine (List.perm_append_comm.append_left _).trans ?_
    rw [← List.append_assoc]
    exact h.held.append_right _
  case puts => exact h.puts
  case channel =>
    simp only [ControllerInUse.channel, hworker]
    exact h.channel
  case parked =>
    rw [hworker]
    exact h.parked
  case told =>
    simp only [ended, hended]
    exact h.told

theorem Keeps.query (h : b.Keeps config none) (did : BusDeviceId) (request : BusFrame)
    (timeoutMs : Nat) : (b.query did request timeoutMs).Keeps config none := by
  have hbegins := b.controller.query_begins did request timeoutMs b.now
  have hrents := h.rents.begins hbegins
  unfold ControllerInUse.query
  generalize b.controller.query did request timeoutMs b.now = answer at hbegins hrents ⊢
  cases hbegins with
  | invalid htoo =>
    rw [h.configured] at htoo
    dsimp only
    rw [news_self, List.append_nil]
    refine h.refuse rfl rfl ⟨by simp, ?_, fun hwithin => absurd htoo (Nat.not_lt.mpr hwithin)⟩
    rintro _ ⟨⟩
    exact ⟨fun _ => QueryError.noConfusion, .inl rfl⟩
  | full hwithin hfull =>
    dsimp only
    rw [news_self, List.append_nil]
    refine h.refuse rfl rfl ⟨by simp, ?_, fun _ => iff_of_true rfl (h.free_eq_nil_iff.mp hfull)⟩
    rintro _ ⟨⟩
    exact ⟨fun _ => QueryError.noConfusion, .inl rfl⟩
  | @refused e hfree herror =>
    have hothers := mt h.free_eq_nil_iff.mpr hfree
    dsimp only
    rw [news_self, List.append_nil]
    refine h.refuse rfl rfl ⟨by simp, ?_, fun _ => iff_of_false ?_ hothers⟩
    · rintro _ ⟨⟩
      refine ⟨?_, .inl rfl⟩
      rcases herror with rfl | rfl <;> exact fun _ => QueryError.noConfusion
    · rcases herror with rfl | rfl <;> simp
  | impatient hfree =>
    have hothers := mt h.free_eq_nil_iff.mpr hfree
    dsimp only
    rw [news_append rfl]
    refine h.admit rfl hrents rfl rfl rfl (List.append_nil _).symm rfl
      ⟨by simp, ?_, fun _ => iff_of_false (by simp) hothers⟩
    rintro _ ⟨⟩
    exact ⟨fun _ => QueryError.noConfusion, .inr ⟨timeoutMs, rfl⟩⟩
  | @waits slot rest deadline hfree =>
    have hothers := mt h.free_eq_nil_iff.mpr (hfree ▸ List.cons_ne_nil slot rest)
    dsimp only
    rw [news_append rfl]
    refine h.admit rfl hrents rfl rfl rfl (by simp [QueryCall.waits?, Except.toOption]) rfl
      ⟨?_, by simp, fun _ => iff_of_false (by simp) hothers⟩
    rintro _ ⟨⟩
    rfl

/-- A request that is only sent. -/
theorem Keeps.send (h : b.Keeps config none) (did : BusDeviceId) (request : BusFrame) :
    (b.send did request).Keeps config none := by
  unfold ControllerInUse.send
  rcases b.controller.send_cases did request with hsame | hqueued
  · dsimp only
    rw [hsame, news_self, List.append_nil]
    exact h
  · dsimp only
    rw [news_append (congrArg (fun c => c.worker.submissions) hqueued), hqueued]
    exact
      { h with
        rents := h.rents.congr rfl rfl rfl rfl
        order := by
          rw [← h.order]
          simp [queue]
        tickets := by
          rw [List.filterMap_append, h.tickets]
          exact List.append_nil _
        submits := fun call hcall ticket hticket =>
          List.mem_append_left _ (h.submits call hcall ticket hticket) }

theorem Keeps.deliver (h : b.Keeps config next) (frame : RawFrame) :
    ({ b with controller := (b.controller.deliver frame).2 } : ControllerInUse S).Keeps
      config next := by
  rcases b.controller.deliver_cases frame with hsame | hqueued
  · rw [hsame]
    exact h
  · rw [hqueued]
    exact { h with rents := h.rents.congr rfl rfl rfl rfl }

theorem Keeps.collect (h : b.Keeps config next) :
    ({ b with controller := b.controller.takeEnded.2
              collected := b.collected ++ b.controller.takeEnded.1 } :
      ControllerInUse S).Keeps config next := by
  have hended : ({ b with controller := b.controller.takeEnded.2
                          collected := b.collected ++ b.controller.takeEnded.1 } :
      ControllerInUse S).ended = b.ended := by
    simp [ended, Controller.takeEnded]
  exact
    { h with
      rents := h.rents.congr rfl rfl rfl rfl
      held := by
        rw [hended]
        exact h.held
      told := by
        rw [hended]
        exact h.told }

/-- Frames leave the channel at its other end. -/
theorem Keeps.leave (h : b.Keeps config next) {f : Arbiter → Arbiter} {frames : List RawFrame}
    (hleave : frames ++ (f b.controller.worker.protocol).transmit.frames = b.channel) :
    ({ b with controller := b.onArbiter f, carried := b.carried ++ frames } :
      ControllerInUse S).Keeps config next :=
  { h with
    rents := h.rents.congr rfl rfl rfl rfl
    channel := by
      refine Eq.trans ?_ h.channel
      rw [List.append_assoc, ← hleave]
      rfl }

/-! Turns of the worker. -/

/-- More is sent as more is accepted. -/
theorem Sent.mono {later : ControllerInUse S} {ticket : Nat} (hpassed : b.passed <+: later.passed)
    (h : b.Sent ticket) : later.Sent ticket := by
  obtain ⟨p, hp, hsent⟩ := h
  exact ⟨p, hpassed.subset hp, hsent⟩

theorem Settles.mono {later : ControllerInUse S} {ticket : Nat}
    {result : Except QueryError QueryReply} (hpassed : b.passed <+: later.passed)
    (h : b.Settles ticket result) : later.Settles ticket result := by
  have hunsent : b.Unsent ticket → later.Unsent ticket := by
    rintro ⟨p, hp, hrefused⟩
    exact ⟨p, hpassed.subset hp, hrefused⟩
  cases result with
  | ok reply => exact Sent.mono hpassed h
  | error e =>
    cases e with
    | timedOut ms => exact Sent.mono hpassed h
    | submission code => exact hunsent h
    | _ => exact h

/-- Whatever the protocol says of a query that waited, its frame went out before. -/
theorem Sent.settles {ticket : Nat} (h : b.Sent ticket) (status : CompletionStatus)
    (response : Option BusFrame) (elapsed : Duration) (caller : Caller) :
    b.Settles ticket (Controller.replyOf (.completed status response) elapsed caller) := by
  cases status with
  | cancelled => trivial
  | answered | answeredWithError | timedOut => exact h

/-- Time passes for the protocol, and what wakes the worker is taken out of its queue. -/
theorem Keeps.advance {v : Worker Arbiter} (h : b.Keeps config none)
    (halike : v.Alike b.controller.worker) (hqueue : b.queue = next.toList ++ v.submissions)
    (now : Instant) (frame : Option BusFrame) :
    ({ b with controller := { b.controller with worker := (v.advance now frame).2 } } :
      ControllerInUse S).Keeps config next := by
  obtain ⟨htransmit, hsubmissions, hparked, -, -⟩ := v.advance_says now frame
  exact
    { h with
      rents := h.rents.congr rfl rfl rfl rfl
      order := by
        rw [← h.order, hqueue]
        simp only [queue, hsubmissions, Option.toList_none, List.nil_append]
      channel := by
        refine Eq.trans ?_ h.channel
        simp only [ControllerInUse.channel, htransmit, halike.protocol]
      parked := by
        intro p hp
        refine h.parked p ?_
        rw [← halike.parked]
        exact hparked hp }

/-- What the worker says as time passes is true of the queries that waited. -/
theorem Keeps.advance_fair {v : Worker Arbiter} (h : b.Keeps config none)
    (halike : v.Alike b.controller.worker) (now : Instant) (frame : Option BusFrame) :
    ∀ verdict ∈ (v.advance now frame).1.filterMap Notice.verdict?, ∀ caller,
      b.Settles verdict.ticket (verdict.result caller) := by
  obtain ⟨-, -, -, -, hsays⟩ := v.advance_says now frame
  intro verdict hverdict caller
  obtain ⟨notice, hnotice, hsome⟩ := List.mem_filterMap.mp hverdict
  rcases hsays notice hnotice with ⟨f, rfl⟩ | ⟨p, hp, status, response, elapsed, rfl⟩
  · cases hsome
  · cases hsome
    rw [halike.parked] at hp
    exact (h.parked p hp).settles status response elapsed caller

/-- A submission is accepted. -/
theorem Keeps.accept {submission : Submission} (h : b.Keeps config (some submission))
    (now : Instant) :
    let worker := b.controller.worker
    let found := worker.protocol
    ({ b with
        controller := { b.controller with worker := (worker.accept now submission).2.1 }
        passed := b.passed ++ [{ submission, found, put := submission.puts found }] } :
      ControllerInUse S).Keeps config none := by
  have hsubmissions := (b.controller.worker.accept_rest now submission).1
  obtain ⟨-, hframes, hparked, -⟩ := b.controller.worker.accept_says now submission
  have hprefix : b.passed <+: b.passed ++
      [{ submission, found := b.controller.worker.protocol
         put := submission.puts b.controller.worker.protocol }] := List.prefix_append _ _
  exact
    { h with
      rents := h.rents.congr rfl rfl rfl rfl
      order := by
        rw [← h.order]
        simp [queue, hsubmissions]
      puts := List.forall_mem_append.mpr ⟨h.puts, List.forall_mem_singleton.mpr rfl⟩
      channel := by
        rw [List.flatMap_append, ← h.channel, List.append_assoc]
        simp [ControllerInUse.channel, hframes]
      parked := by
        intro p hp
        rcases hparked p hp with hold | ⟨hticket, haccepted⟩
        · exact (h.parked p hold).mono hprefix
        · exact ⟨_, List.mem_append_right _ List.mem_cons_self, hticket, haccepted⟩
      told := fun ticket result hin => (h.told ticket result hin).mono hprefix }

/-- The worker was told of the time and of a frame, and has told the callers. -/
def processed (forward : BusFrame → S → Option S) (b : ControllerInUse S) (v : Worker Arbiter)
    (frame : Option BusFrame) : ControllerInUse S :=
  let woken := { b.controller with worker := (v.advance b.now frame).2 }
  let (controller, hub) := Controller.pass forward (v.advance b.now frame).1 woken b.hub
  { b with controller, hub }

/-- The worker has accepted a submission, and has told the callers. -/
def admitted (forward : BusFrame → S → Option S) (b : ControllerInUse S) (submission : Submission) :
    ControllerInUse S :=
  let worker := b.controller.worker
  let found := worker.protocol
  let (notices, last, _) := worker.accept b.now submission
  let (controller, hub) :=
    Controller.pass forward notices { b.controller with worker := last } b.hub
  { b with controller, hub
           passed := b.passed ++ [{ submission, found, put := submission.puts found }] }

/-- A turn that a frame or the time takes. -/
theorem turn_advances {forward : BusFrame → S → Option S} {notices : List Notice}
    {woken : Worker Arbiter} (hup : b.controller.running = true)
    (hwake : b.controller.worker.wake? b.now = some (notices, woken, none)) :
    ∃ v frame, v.Alike b.controller.worker ∧ v.submissions = b.queue ∧
      b.turn forward = b.processed forward v frame := by
  obtain ⟨v, frame, halike, hqueue, hadvance⟩ := Worker.wake?_advance hwake
  have hqueue : v.submissions = b.queue := hqueue.symm
  have hsubmissions : woken.submissions = v.submissions := by
    have hsame := (v.advance_says b.now frame).2.1
    rwa [hadvance] at hsame
  have hrun : Controller.run forward b.now 1 b.controller b.hub =
      Controller.pass forward notices { b.controller with worker := woken } b.hub := by
    simp [Controller.run, hup, hwake, Controller.acceptNext]
  have hlater := (Controller.pass_later forward notices
    { b.controller with worker := woken } b.hub).worker
  refine ⟨v, frame, halike, hqueue, ?_⟩
  unfold ControllerInUse.turn processed
  rw [hrun, hadvance]
  dsimp only
  rw [hlater, hsubmissions, hqueue, Nat.sub_self, List.take_zero, List.map_nil, List.append_nil]

/-- A turn that a submission takes. -/
theorem turn_accepts {forward : BusFrame → S → Option S} {notices : List Notice}
    {woken : Worker Arbiter} {submission : Submission} (hup : b.controller.running = true)
    (hdistinct : (b.controller.callers.map Caller.ticket).Nodup)
    (hwake : b.controller.worker.wake? b.now = some (notices, woken, some submission)) :
    ∃ rest, b.queue = submission :: rest ∧
      b.turn forward =
        (b.processed forward { b.controller.worker with submissions := rest } none).admitted
          forward submission := by
  obtain ⟨rest, hqueue, hadvance⟩ := Worker.wake?_submission hwake
  obtain ⟨told, hpass, hworker, hrun⟩ :=
    Controller.run_submission forward hup hdistinct hwake b.hub
  have hqueue : b.queue = submission :: rest := hqueue
  have hsame : woken.submissions = rest :=
    (congrArg (fun answer => answer.2.submissions) hadvance).symm
  have hchannel : woken.protocol.transmit.frames = b.channel :=
    (congrArg (fun answer => answer.2.protocol.transmit.frames) hadvance).symm
  have hfound : (b.controller.worker.advance b.now none).2.protocol = woken.protocol :=
    congrArg (fun answer => answer.2.protocol) hadvance
  have hprocessed : b.processed forward { b.controller.worker with submissions := rest } none =
      { b with controller := told } := by
    unfold processed
    rw [hadvance]
    dsimp only
    rw [hpass]
  obtain ⟨-, hframes, -, -⟩ := woken.accept_says b.now submission
  have hrest := (woken.accept_rest b.now submission).1
  have hlater := (Controller.pass_later forward (woken.accept b.now submission).1
    { told with worker := (woken.accept b.now submission).2.1 } b.hub).worker
  refine ⟨rest, hqueue, ?_⟩
  rw [hprocessed]
  unfold ControllerInUse.turn admitted
  rw [hrun]
  dsimp only
  rw [hworker]
  generalize Controller.pass forward (woken.accept b.now submission).1 _ b.hub = answered
    at hlater ⊢
  obtain ⟨controller, hub⟩ := answered
  dsimp only at hlater ⊢
  rw [hlater, hrest, hsame, hqueue, hframes, hchannel, hfound, List.drop_left]
  simp

/-- All that a turn can come to: nothing is due, or the worker deals with a frame or with the time,
or it also accepts a submission, whatever it has to tell before. -/
theorem turn_cases (forward : BusFrame → S → Option S) (b : ControllerInUse S)
    (hdistinct : (b.controller.callers.map Caller.ticket).Nodup) :
    b.turn forward = b ∨
      (∃ v frame, v.Alike b.controller.worker ∧ v.submissions = b.queue ∧
        b.turn forward = b.processed forward v frame) ∨
      ∃ submission rest, b.queue = submission :: rest ∧
        b.turn forward =
          (b.processed forward { b.controller.worker with submissions := rest } none).admitted
            forward submission := by
  have hidle (hrun : Controller.run forward b.now 1 b.controller b.hub = (b.controller, b.hub)) :
      b.turn forward = b := by
    unfold ControllerInUse.turn
    rw [hrun]
    simp [queue]
  cases hup : b.controller.running with
  | false => exact .inl (hidle (by simp [Controller.run, hup]))
  | true =>
    cases hwake : b.controller.worker.wake? b.now with
    | none => exact .inl (hidle (by simp [Controller.run, hwake]))
    | some woken =>
      obtain ⟨notices, woken, submission?⟩ := woken
      cases submission? with
      | none => exact .inr (.inl (turn_advances hup hwake))
      | some submission => exact .inr (.inr ⟨submission, turn_accepts hup hdistinct hwake⟩)

theorem Keeps.processed (forward : BusFrame → S → Option S) {v : Worker Arbiter}
    (h : b.Keeps config none) (halike : v.Alike b.controller.worker)
    (hqueue : b.queue = next.toList ++ v.submissions) (frame : Option BusFrame) :
    (b.processed forward v frame).Keeps config next :=
  (h.advance halike hqueue b.now frame).pass forward (h.advance_fair halike b.now frame) b.hub

/-- What the worker says of a submission that it accepts is true of it. -/
theorem Keeps.admitted (forward : BusFrame → S → Option S) {submission : Submission}
    (h : b.Keeps config (some submission)) :
    (b.admitted forward submission).Keeps config none := by
  obtain ⟨-, -, -, hsays⟩ := b.controller.worker.accept_says b.now submission
  refine (h.accept b.now).pass forward ?_ b.hub
  intro verdict hverdict caller
  obtain ⟨notice, hnotice, hsome⟩ := List.mem_filterMap.mp hverdict
  cases hsays notice hnotice with
  | sent hticket haccepted =>
    cases hsome
    exact ⟨_, List.mem_append_right _ List.mem_cons_self, hticket, haccepted⟩
  | rejected hticket hrefused =>
    cases hsome
    exact ⟨_, List.mem_append_right _ List.mem_cons_self, hticket, hrefused⟩
  | lost =>
    cases hsome
    trivial

theorem Keeps.turn (forward : BusFrame → S → Option S) (h : b.Keeps config none) :
    (b.turn forward).Keeps config none := by
  rcases b.turn_cases forward h.rents.distinct with
    hidle | ⟨v, frame, halike, hqueue, hturn⟩ | ⟨submission, rest, hqueue, hturn⟩
  · rw [hidle]
    exact h
  · have hnothing : b.queue = (none : Option Submission).toList ++ v.submissions := hqueue.symm
    rw [hturn]
    exact h.processed forward halike hnothing frame
  · have hwoken : b.queue = (some submission).toList ++ rest := hqueue
    rw [hturn]
    exact (h.processed forward (v := { b.controller.worker with submissions := rest })
      ⟨rfl, rfl, rfl⟩ hwoken none).admitted forward

theorem Keeps.step (forward : BusFrame → S → Option S) (event : ControllerStep)
    (h : b.Keeps config none) : (b.step forward event).Keeps config none := by
  cases event with
  | query did request timeoutMs => exact h.query did request timeoutMs
  | send did request => exact h.send did request
  | deliver frame => exact h.deliver frame
  | wait time => exact { h with }
  | turn => exact h.turn forward
  | giveUp => exact h.giveUp b.now
  | collect => exact h.collect
  | carry count => exact h.leave (List.take_append_drop count b.channel)
  | disconnect => exact h.leave (List.append_nil b.channel)
  | shutdown => exact h.stop

theorem Keeps.run (forward : BusFrame → S → Option S) (steps : List ControllerStep)
    (h : b.Keeps config none) : (b.run forward steps).Keeps config none := by
  induction steps generalizing b with
  | nil => exact h
  | cons event rest ih => exact ih (h.step forward event)

/-! Settling a controller is a run. -/

theorem run_turns (forward : BusFrame → S → Option S) (turns : Nat) (b : ControllerInUse S) :
    let last := b.run forward (List.replicate turns .turn)
    (last.controller, last.hub) = Controller.run forward b.now turns b.controller b.hub ∧
      last.now = b.now := by
  induction turns generalizing b with
  | zero => exact ⟨rfl, rfl⟩
  | succ turns ih =>
    obtain ⟨hrest, hnow⟩ := ih (b.turn forward)
    refine ⟨hrest.trans ?_, hnow⟩
    change Controller.run forward b.now turns
      (Controller.run forward b.now 1 b.controller b.hub).1
      (Controller.run forward b.now 1 b.controller b.hub).2 = _
    cases hup : b.controller.running with
    | false => cases turns <;> simp [Controller.run, hup]
    | true =>
      cases hwake : b.controller.worker.wake? b.now with
      | none => cases turns <;> simp [Controller.run, hwake]
      | some woken => simp [Controller.run, hup, hwake]

/-- Callers whose time is up go, and the worker takes its turns. -/
theorem run_settles (forward : BusFrame → S → Option S) (b : ControllerInUse S) :
    ∃ steps, let last := b.run forward steps
      (last.controller, last.hub) = Controller.settle forward b.now b.controller b.hub := by
  let turns := b.controller.worker.frames.length + b.controller.worker.submissions.length + 1
  exact ⟨.giveUp :: List.replicate turns .turn,
    (run_turns forward turns (b.step forward .giveUp)).1⟩

/-! What comes of it for each call. -/

/-- What was accepted under the ticket of a call is its own submission, and nothing else was. -/
theorem Keeps.passage (h : b.Keeps config next) {call : QueryCall} (hcall : call ∈ b.calls)
    {ticket : Nat} (hticket : call.ticket? = some ticket) {p : Passage} (hp : p ∈ b.passed)
    (hsame : p.submission.ticket? = some ticket) :
    b.framesOf call = if p.submission.accepted p.found then [call.request.toRaw] else [] := by
  have honce : (b.submitted.filterMap Submission.ticket?).Nodup := by
    rw [h.tickets]
    exact List.nodup_range
  have hpassed : (b.passed.map Passage.submission).Sublist b.submitted := by
    rw [← h.order]
    exact List.sublist_append_left _ _
  have hown : p.submission = call.submission ticket := by
    have hmade := filter_eq_singleton honce (h.submits call hcall ticket hticket) rfl
    have hin : p.submission ∈ b.submitted.filter fun s => s.ticket? = some ticket :=
      List.mem_filter.mpr ⟨hpassed.subset (List.mem_map_of_mem hp), decide_eq_true hsame⟩
    rw [hmade] at hin
    exact List.mem_singleton.mp hin
  have hone : (b.passed.filter fun p => p.submission.ticket? = some ticket) = [p] := by
    refine filter_eq_singleton (f := fun p => p.submission.ticket?) ?_ hp hsame
    have hpassedOnce := honce.sublist (hpassed.filterMap Submission.ticket?)
    rwa [List.filterMap_map] at hpassedOnce
  unfold framesOf
  rw [hticket]
  dsimp only
  rw [hone, List.flatMap_singleton, h.puts p hp, Submission.puts]
  have hraw : p.submission.raw = call.request.toRaw := by
    rw [hown]
    rfl
  rw [hraw]

/-- A call puts its own request on the channel, at most once. -/
theorem Keeps.framesOf_cases (h : b.Keeps config next) {call : QueryCall}
    (hcall : call ∈ b.calls) :
    b.framesOf call = [] ∨ b.framesOf call = [call.request.toRaw] := by
  cases hticket : call.ticket? with
  | none =>
    left
    unfold framesOf
    rw [hticket]
  | some ticket =>
    by_cases hpassed : ∃ p ∈ b.passed, p.submission.ticket? = some ticket
    · obtain ⟨p, hp, hsame⟩ := hpassed
      rw [h.passage hcall hticket hp hsame]
      cases p.submission.accepted p.found with
      | true => exact .inr rfl
      | false => exact .inl rfl
    · left
      unfold framesOf
      rw [hticket]
      dsimp only
      rw [List.filter_eq_nil_iff.mpr fun p hp hsame =>
        hpassed ⟨p, hp, of_decide_eq_true hsame⟩, List.flatMap_nil]

end ControllerInUse

/-- What a call that came to this has put on the channel. -/
def QueryCall.Sends (call : QueryCall) (frames : List RawFrame) :
    Except QueryError QueryReply → Prop
  | .ok _ | .error (.timedOut _) => frames = [call.request.toRaw]
  | .error (.invalidTimeout _) | .error .noMemory | .error (.submission _) => frames = []
  | .error .cancelled | .error (.unresponsive _) | .error .workerStopped =>
    frames = [] ∨ frames = [call.request.toRaw]

namespace ControllerInUse

variable {S : Type} {b : ControllerInUse S} {config : BusConfig}

/-- The slots, the calls and the channel against each other. -/
structure Accounted (b : ControllerInUse S) (config : BusConfig) : Prop where
  /-- As many slots are in use as calls have not returned, and the others are free. -/
  inUse : b.controller.pending.inUse = b.underway.length
  bounded : b.underway.length ≤ config.maxPendingQueries.toNat
  free : b.controller.pending.available + b.underway.length = config.maxPendingQueries.toNat
  /-- A call is refused for want of a slot just when as many others are under way as may be. -/
  noMemory : ∀ call ∈ b.calls, call.timeoutMs ≤ config.maxQueryTimeoutMs.toNat →
    (b.result? call = some (.error .noMemory) ↔ call.others = config.maxPendingQueries.toNat)
  /-- No call returns twice. -/
  once : (b.ended.map Prod.fst).Nodup
  sends : ∀ call ∈ b.calls, ∀ result, b.result? call = some result →
    call.Sends (b.framesOf call) result
  atMostOne : ∀ call ∈ b.calls,
    b.framesOf call = [] ∨ b.framesOf call = [call.request.toRaw]
  /-- Each query that was submitted is that of one call. -/
  owned : b.submitted.filterMap Submission.ticket? = b.calls.filterMap QueryCall.ticket?
  submits : ∀ call ∈ b.calls, ∀ ticket, call.ticket? = some ticket →
    call.submission ticket ∈ b.submitted
  /-- Submissions are accepted in their order. -/
  order : b.passed.map Passage.submission ++ b.queue = b.submitted
  /-- All frames that were ever on the channel are those of accepted submissions, in order. -/
  channel : b.carried ++ b.channel = b.passed.flatMap Passage.put
  puts : ∀ p ∈ b.passed, p.put =
    if p.submission.accepted p.found then [p.submission.request.toRaw] else []

/-- What a call that has returned has put on the channel. -/
theorem Keeps.sends (h : b.Keeps config none) {call : QueryCall} (hcall : call ∈ b.calls)
    {result : Except QueryError QueryReply} (hresult : b.result? call = some result) :
    call.Sends (b.framesOf call) result := by
  have hbegun := h.begun call hcall
  unfold result? at hresult
  cases hstart : call.start with
  | error e =>
    rw [hstart] at hresult
    cases hresult
    obtain ⟨hearly, hunsent | ⟨ms, rfl⟩⟩ := hbegun.refused e hstart
    · have hnone : b.framesOf call = [] := by
        unfold framesOf
        rw [hunsent]
      cases e with
      | timedOut ms => exact absurd rfl (hearly ms)
      | invalidTimeout | noMemory | submission => exact hnone
      | cancelled | unresponsive | workerStopped => exact .inl hnone
    · exact h.framesOf_cases hcall
  | ok ticket =>
    rw [hstart] at hresult
    obtain ⟨pair, hfind, rfl⟩ := Option.map_eq_some_iff.mp hresult
    have hticket := hbegun.waits ticket hstart
    have hsame : pair.1 = ticket := by simpa using List.find?_some hfind
    have hsettles := h.told pair.1 pair.2 (List.mem_of_find?_eq_some hfind)
    rw [hsame] at hsettles
    have hsent : b.Sent ticket → b.framesOf call = [call.request.toRaw] := by
      rintro ⟨p, hp, hpticket, haccepted⟩
      rw [h.passage hcall hticket hp hpticket, if_pos haccepted]
    have hunsent : b.Unsent ticket → b.framesOf call = [] := by
      rintro ⟨p, hp, hpticket, hrefused⟩
      rw [h.passage hcall hticket hp hpticket, hrefused, if_neg Bool.false_ne_true]
    cases hpair : pair.2 with
    | ok reply =>
      rw [hpair] at hsettles
      exact hsent hsettles
    | error e =>
      rw [hpair] at hsettles
      cases e with
      | timedOut ms => exact hsent hsettles
      | submission code => exact hunsent hsettles
      | invalidTimeout | noMemory => exact hsettles.elim
      | cancelled | unresponsive | workerStopped => exact h.framesOf_cases hcall

theorem Keeps.noMemory (h : b.Keeps config none) {call : QueryCall} (hcall : call ∈ b.calls)
    (hwithin : call.timeoutMs ≤ config.maxQueryTimeoutMs.toNat) :
    b.result? call = some (.error .noMemory) ↔ call.others = config.maxPendingQueries.toNat := by
  refine Iff.trans ?_ ((h.begun call hcall).noMemory hwithin)
  unfold result?
  cases hstart : call.start with
  | error e => simp
  | ok ticket =>
    simp only [reduceCtorEq, iff_false]
    intro hresult
    obtain ⟨pair, hfind, hpair⟩ := Option.map_eq_some_iff.mp hresult
    have hsettles := h.told pair.1 pair.2 (List.mem_of_find?_eq_some hfind)
    rw [hpair] at hsettles
    exact hsettles

theorem Keeps.accounted (h : b.Keeps config none) : b.Accounted config where
  inUse := by rw [h.underway_length, h.rents.inUse]
  bounded := by
    rw [h.underway_length, ← h.configured]
    exact h.rents.callers_le
  free := by
    have hlength := h.rents.lends.length
    rwa [List.length_map, h.rents.capacity, ← h.underway_length, h.configured] at hlength
  noMemory _ hcall := h.noMemory hcall
  once := (List.nodup_append.mp (h.held.nodup_iff.mpr h.waits_nodup)).2.1
  sends _ hcall _ := h.sends hcall
  atMostOne _ hcall := h.framesOf_cases hcall
  owned := h.tickets.trans h.called.symm
  submits := h.submits
  order := h.order
  channel := h.channel
  puts := h.puts

/-- Whatever happens at a controller, in whatever order, the accounts agree. -/
theorem run_accounted {depth : Nat} {hub : S} {now : Instant}
    (hopen : open? depth config hub now = .ok b) (forward : BusFrame → S → Option S)
    (steps : List ControllerStep) : (b.run forward steps).Accounted config :=
  ((open?_keeps hopen).run forward steps).accounted

/-- The device with id 8 answers the first query, while another finds no slot. Later queries want
too long a time, or no answer, or are not addressed to their device. -/
theorem run_accounted_single :
    ∃ b, open? 4 { maxPendingQueries := 1 } () 0 = .ok b ∧
      let asks := BusFrame.telemetryQuery ⟨8⟩ .boardControl
      let answer := { asks with direction := .response }
      let last := b.run (fun _ hub => some hub)
        [.query ⟨8⟩ asks 100, .query ⟨8⟩ asks 100, .turn, .carry 1, .deliver answer.toRaw, .turn,
          .query ⟨8⟩ asks 60001, .query ⟨8⟩ asks 0, .turn, .query ⟨9⟩ asks 100, .turn]
      last.calls.map (fun call => (last.result? call, last.framesOf call)) =
        [(some (.ok { status := .answered, response := some answer, elapsed := 0 }), [asks.toRaw]),
          (some (.error .noMemory), []), (some (.error (.invalidTimeout 60001)), []),
          (some (.ok { status := .sent, response := none, elapsed := 0 }), [asks.toRaw]),
          (some (.error (.submission (-22))), [])] ∧
        last.Accounted { maxPendingQueries := 1 } :=
  ⟨_, rfl, rfl, run_accounted rfl _ _⟩

end ControllerInUse

end HomeGateway
