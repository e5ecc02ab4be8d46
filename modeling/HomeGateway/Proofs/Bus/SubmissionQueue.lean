import Mathlib
import HomeGateway.Proofs.Bus.Slots
import HomeGateway.Proofs.Bus.Turn

/-!
Slots against the submission queue, over any protocol. A call takes its slot first and joins the
queue then, and much may happen in between. Each query in the queue whose caller waits has a slot of
its own, and there is room for as many submissions as there are slots: whoever has a slot finds room,
unless what fills the queue has no slot, because it is only sent or because its caller has gone.
-/

namespace HomeGateway

/-- There is room for as many submissions as there are slots. -/
theorem BusConfig.slots_le_depth {config : BusConfig} (h : config.check = .ok ()) :
    config.maxPendingQueries.toNat ≤ config.submissionDepth.toNat := by
  by_contra hover
  have hless : config.submissionDepth < config.maxPendingQueries :=
    UInt64.lt_iff_toNat_lt.mpr (Nat.lt_of_not_le hover)
  unfold BusConfig.check checkPositive at h
  rw [if_pos hless] at h
  split at h
  · cases h
  · split at h
    · cases h
    · split at h <;> cases h

/-- Without frames, a submission leaves the queue as it wakes the worker, and nothing else does. -/
theorem Worker.wake?_queue {π : Type} [BusProtocol π] {w next : Worker π} {now : Instant}
    {notices : List Notice} {submission : Option Submission}
    (h : w.wake? now = some (notices, next, submission)) :
    w.submissions = submission.toList ++ next.submissions := by
  unfold Worker.wake? at h
  split at h
  · cases h
    rfl
  · rename_i submission rest _ hsubmissions
    cases h
    exact hsubmissions
  · split at h <;> cases h
    rfl

namespace Controller

variable {π : Type} {c next : Controller π} {config : BusConfig} {others : List Nat}

/-- The tickets of the queries in the queue. -/
def tickets (c : Controller π) : List Nat := c.worker.submissions.filterMap Submission.ticket?

/-- How many submissions in the queue are only sent. -/
def sends (c : Controller π) : Nat := c.worker.submissions.countP fun s => s.ticket?.isNone

/-- How many queries in the queue have nobody who waits. -/
def strays (c : Controller π) : Nat :=
  c.tickets.countP fun ticket => ticket ∉ c.callers.map Caller.ticket

/-- The slots are shared out, and no ticket is twice in the queue. -/
structure Seated (c : Controller π) (config : BusConfig) (others : List Nat) : Prop where
  rents : c.RentsBeside others
  configured : c.config = config
  once : c.tickets.Nodup
  issued : ∀ ticket ∈ c.tickets, ticket < c.nextTicket

theorem start_seated {protocol : π} {now : Instant}
    (h : Controller.start protocol config now = .ok c) : c.Seated config [] := by
  obtain ⟨hrents, hconfig⟩ := start_rents h
  have htickets : c.tickets = [] := by
    unfold Controller.start at h
    split at h <;> cases h
    rfl
  refine ⟨rents_iff.mp hrents, hconfig, ?_, ?_⟩
  · rw [htickets]
    exact List.nodup_nil
  · rw [htickets]
    exact List.forall_mem_nil _

/-- Only slots, callers and tickets matter, and nobody minds a shorter queue. -/
theorem Seated.congr (h : c.Seated config others) (hpending : next.pending = c.pending)
    (hconfig : next.config = c.config) (hcallers : next.callers = c.callers)
    (hnext : next.nextTicket = c.nextTicket) (hqueue : next.tickets.Sublist c.tickets) :
    next.Seated config others where
  rents := h.rents.congr hpending hconfig hcallers hnext
  configured := hconfig.trans h.configured
  once := h.once.sublist hqueue
  issued ticket hticket := by
    rw [hnext]
    exact h.issued ticket (hqueue.subset hticket)

theorem Seated.perm {others' : List Nat} (h : c.Seated config others)
    (hperm : others.Perm others') : c.Seated config others' :=
  { h with rents := h.rents.perm hperm }

theorem Seated.acquire {slot : Nat} {pending : Pool} (h : c.Seated config others)
    (hacquire : c.pending.acquire = .ok (slot, pending)) :
    ({ c with pending } : Controller π).Seated config (slot :: others) :=
  { h with rents := h.rents.acquire hacquire }

theorem Seated.release {slot : Nat} (h : c.Seated config (slot :: others)) :
    ({ c with pending := c.pending.release slot } : Controller π).Seated config others :=
  { h with rents := h.rents.release }

/-! Queries begin and end. -/

/-- A query joins the queue with a ticket that nobody has. -/
theorem Seated.queued (h : c.Seated config others) (did : BusDeviceId) (request : BusFrame)
    (timeoutMs : Nat) (now : Instant) :
    (c.queued did request timeoutMs now).Seated config others := by
  have htickets : (c.queued did request timeoutMs now).tickets = c.tickets ++ [c.nextTicket] := by
    simp [tickets, Controller.queued, Submission.ticket?]
  refine ⟨h.rents.queued did request timeoutMs now, h.configured, ?_, ?_⟩
  · rw [htickets]
    refine List.nodup_append.mpr ⟨h.once, List.nodup_singleton _, ?_⟩
    intro ticket hticket other hother heq
    rw [heq, List.mem_singleton.mp hother] at hticket
    exact Nat.lt_irrefl _ (h.issued _ hticket)
  · rw [htickets]
    refine List.forall_mem_append.mpr ⟨?_, List.forall_mem_singleton.mpr (Nat.lt_succ_self _)⟩
    exact fun ticket hticket => Nat.lt_succ_of_lt (h.issued ticket hticket)

/-- And its caller waits. -/
theorem Seated.waits {slot : Nat} (h : c.Seated config (slot :: others)) (did : BusDeviceId)
    (request : BusFrame) (timeoutMs : Nat) (now deadline : Instant) :
    ({ c.queued did request timeoutMs now with
        callers := c.callers ++ [{ ticket := c.nextTicket, slot, timeoutMs, deadline }] } :
      Controller π).Seated config others :=
  { h.queued did request timeoutMs now with
    rents := h.rents.waits did request timeoutMs now deadline }

/-- A request that is only sent has no ticket. -/
theorem Seated.send (h : c.Seated config others) (did : BusDeviceId) (request : BusFrame) :
    (c.send did request).2.Seated config others := by
  rcases c.send_cases did request with hsame | hqueued
  · rw [hsame]
    exact h
  · rw [hqueued]
    refine h.congr rfl rfl rfl rfl ?_
    simp [tickets, Submission.ticket?]

theorem Seated.deliver (h : c.Seated config others) (frame : RawFrame) :
    (c.deliver frame).2.Seated config others := by
  rcases c.deliver_cases frame with hsame | hqueued
  · rw [hsame]
    exact h
  · rw [hqueued]
    exact h.congr rfl rfl rfl rfl (.refl _)

theorem Seated.finish (h : c.Seated config others) (ticket : Nat)
    (result : Caller → Except QueryError QueryReply) :
    (c.finish ticket result).Seated config others := by
  have hrents := h.rents.finish ticket result
  unfold Controller.finish at hrents ⊢
  split
  · exact h
  · rename_i caller hfind
    rw [hfind] at hrents
    exact { h with rents := hrents }

theorem seated_kept : KeptByEnds fun c : Controller π => c.Seated config others where
  finish ticket result h := h.finish ticket result
  halt h := h.congr rfl rfl rfl rfl (.refl _)

/-! The worker takes its turns. -/

/-- The worker may be another if its queue is no longer. -/
theorem Seated.withWorker (h : c.Seated config others) {worker : Worker π}
    (hqueue : worker.submissions.Sublist c.worker.submissions) :
    ({ c with worker } : Controller π).Seated config others :=
  h.congr rfl rfl rfl rfl (hqueue.filterMap Submission.ticket?)

theorem Seated.acceptNext {S : Type} [BusProtocol π] (h : c.Seated config others)
    (forward : BusFrame → S → Option S) (now : Instant) (submission : Option Submission) (s : S) :
    (acceptNext forward now submission c s).1.Seated config others := by
  unfold Controller.acceptNext
  cases submission with
  | none => exact h
  | some submission =>
    dsimp only
    split
    · exact h
    · have hqueue := (c.worker.accept_rest now submission).1
      have hpassed := seated_kept.pass forward (c.worker.accept now submission).1 s
        (h.withWorker (by rw [hqueue]))
      dsimp only
      split
      · exact hpassed
      · exact seated_kept.stop hpassed

theorem Seated.run {S : Type} [BusProtocol π] (h : c.Seated config others)
    (forward : BusFrame → S → Option S) (now : Instant) (turns : Nat) (s : S) :
    (run forward now turns c s).1.Seated config others := by
  induction turns generalizing c s with
  | zero => exact h
  | succ turns ih =>
    unfold Controller.run
    split
    · exact h
    · cases hwake : c.worker.wake? now with
      | none => exact h
      | some woken =>
        obtain ⟨notices, worker, submission⟩ := woken
        have hqueue : worker.submissions.Sublist c.worker.submissions := by
          rw [Worker.wake?_queue hwake]
          exact List.sublist_append_right _ _
        have hpassed := seated_kept.pass forward notices s (h.withWorker hqueue)
        exact ih (hpassed.acceptNext forward now submission _) _

/-! How long the queue is. -/

/-- What is in the queue is a caller's query, or it is counted on its own. -/
theorem Seated.queue_le (h : c.Seated config others) :
    c.worker.submissions.length ≤ c.callers.length + c.sends + c.strays := by
  have hqueries : c.worker.submissions.length = c.tickets.length + c.sends := by
    rw [tickets, List.length_filterMap_eq_countP, sends,
      List.length_eq_countP_add_countP (fun s : Submission => s.ticket?.isSome)]
    congr 1
    exact List.countP_congr fun s _ => by simp
  have hsplit : c.tickets.length =
      c.tickets.countP (fun ticket => ticket ∈ c.callers.map Caller.ticket) + c.strays := by
    rw [List.length_eq_countP_add_countP fun ticket => ticket ∈ c.callers.map Caller.ticket, strays]
    simp only [decide_eq_true_eq]
  have hwaiting : c.tickets.countP (fun ticket => ticket ∈ c.callers.map Caller.ticket) ≤
      c.callers.length := by
    have hcallers : (c.callers.map Caller.ticket).length = c.callers.length := List.length_map _
    rw [List.countP_eq_length_filter, ← hcallers]
    refine (List.subperm_of_subset (h.once.filter _) fun ticket hticket => ?_).length_le
    exact of_decide_eq_true (List.mem_filter.mp hticket).2
  omega

/-- Nothing is in the queue without a slot: no request that is only sent waits there, and no query has
returned before the worker took its submission. -/
structure Unobstructed (c : Controller π) : Prop where
  queries : ∀ did request, .send did request ∉ c.worker.submissions
  waiting : ∀ ticket ∈ c.tickets, ∃ caller ∈ c.callers, caller.ticket = ticket

/-- Then each submission in the queue has its caller. -/
theorem Seated.queue_le_callers (h : c.Seated config others) (hclear : c.Unobstructed) :
    c.worker.submissions.length ≤ c.callers.length := by
  have hsends : c.sends = 0 := by
    refine List.countP_eq_zero.mpr fun s hs => ?_
    cases s with
    | query => exact Bool.false_ne_true
    | send did request => exact absurd hs (hclear.queries did request)
  have hstrays : c.strays = 0 := by
    refine List.countP_eq_zero.mpr fun ticket hticket hgone => ?_
    obtain ⟨caller, hcaller, hsame⟩ := hclear.waiting ticket hticket
    exact of_decide_eq_true hgone (List.mem_map.mpr ⟨caller, hcaller, hsame⟩)
  have hqueue := h.queue_le
  omega

/-- There is room as long as a slot is free, or is held by somebody who is not in the queue. -/
theorem Seated.room (h : c.Seated config others)
    (hspacious : config.maxPendingQueries.toNat ≤ config.submissionDepth.toNat)
    (hclear : c.Unobstructed) (hslot : c.pending.free ≠ [] ∨ others ≠ []) :
    c.worker.submissions.length < c.config.submissionDepth.toNat := by
  have hlength := h.rents.lends.length
  have hqueue := h.queue_le_callers hclear
  rw [List.length_append, List.length_map, h.rents.capacity, h.configured] at hlength
  unfold Pool.available at hlength
  rw [h.configured]
  simp only [← List.length_pos_iff] at hslot
  omega

/-- With room in the queue, only a worker that has stopped is a reason to refuse a submission. -/
theorem submit_of_room (hroom : c.worker.submissions.length < c.config.submissionDepth.toNat)
    (submission : Submission) :
    c.submit submission =
      if c.running then
        .ok
          { c with
            worker := { c.worker with submissions := c.worker.submissions ++ [submission] } }
      else .error .workerStopped := by
  unfold Controller.submit
  dsimp only
  rw [if_neg (Nat.not_le.mpr hroom)]
  cases c.running <;> rfl

/-- The queue does not ask for slots. -/
theorem submit_pending (c : Controller π) (pending : Pool) (submission : Submission) :
    ({ c with pending } : Controller π).submit submission =
      (c.submit submission).map fun c => { c with pending } := by
  unfold Controller.submit
  dsimp only
  split
  · rfl
  · split <;> rfl

end Controller

/-! Calls apart: a slot first, and the queue later. -/

/-- A query call that has its slot and is not in the queue yet. -/
structure Entrant where
  slot : Nat
  did : BusDeviceId
  request : BusFrame
  timeoutMs : Nat

def Entrant.submission (e : Entrant) (ticket : Nat) (now : Instant) : Submission :=
  .query ticket e.did e.request (.ofMillis e.timeoutMs) now

/-- A controller and those who are on their way into its queue. -/
structure SubmissionQueue (π S : Type) where
  controller : Controller π
  hub : S
  now : Instant
  entering : List Entrant

/-- What happens at a controller, by whichever of its callers. A call takes a slot and joins the queue
in two steps. As the pool is open to others, a slot may also be given back unused. A caller may leave
at any time, and protocol and hub may be changed from outside, as the protocol is when frames are
carried off. -/
inductive SubmissionStep (π S : Type) where
  | enter (did : BusDeviceId) (request : BusFrame) (timeoutMs : Nat)
  | submit (place : Nat)
  | withdraw (place : Nat)
  | send (did : BusDeviceId) (request : BusFrame)
  | deliver (frame : RawFrame)
  | wait (time : Duration)
  | work (turns : Nat)
  | leave (ticket : Nat) (result : Caller → Except QueryError QueryReply)
  | giveUp
  | collect
  | change (f : π → π) (g : S → S)
  | shutdown

namespace SubmissionQueue

variable {π S : Type}

def open? (protocol : π) (config : BusConfig) (hub : S) (now : Instant) :
    Except ConfigError (SubmissionQueue π S) :=
  (Controller.start protocol config now).map fun controller =>
    { controller, hub, now, entering := [] }

def queue (t : SubmissionQueue π S) : List Submission := t.controller.worker.submissions

def enter (t : SubmissionQueue π S) (did : BusDeviceId) (request : BusFrame) (timeoutMs : Nat) :
    SubmissionQueue π S :=
  if t.controller.config.maxQueryTimeoutMs.toNat < timeoutMs then t
  else
    match t.controller.pending.acquire with
    | .error _ => t
    | .ok (slot, pending) =>
      { t with
        controller := { t.controller with pending }
        entering := t.entering ++ [{ slot, did, request, timeoutMs }] }

/-- Without the entrant at a place, whose slot is free again. -/
def without (t : SubmissionQueue π S) (place : Nat) (e : Entrant) (controller : Controller π) :
    SubmissionQueue π S :=
  { t with
    controller := { controller with pending := controller.pending.release e.slot }
    entering := t.entering.eraseIdx place }

/-- A caller without time to wait gives up as soon as it is in the queue. -/
def submit (t : SubmissionQueue π S) (place : Nat) : SubmissionQueue π S :=
  match t.entering[place]? with
  | none => t
  | some e =>
    match t.controller.submit (e.submission t.controller.nextTicket t.now) with
    | .error _ => t.without place e t.controller
    | .ok c =>
      let ticket := c.nextTicket
      let c := { c with nextTicket := ticket + 1 }
      let patience := Duration.ofMillis e.timeoutMs + c.config.tolerance
      if patience = 0 then t.without place e c
      else
        { t with
          controller :=
            { c with
              callers := c.callers ++
                [{ ticket, slot := e.slot, timeoutMs := e.timeoutMs
                   deadline := t.now + patience }] }
          entering := t.entering.eraseIdx place }

def withdraw (t : SubmissionQueue π S) (place : Nat) : SubmissionQueue π S :=
  match t.entering[place]? with
  | none => t
  | some e => t.without place e t.controller

def work [BusProtocol π] (forward : BusFrame → S → Option S) (turns : Nat)
    (t : SubmissionQueue π S) : SubmissionQueue π S :=
  let (controller, hub) := Controller.run forward t.now turns t.controller t.hub
  { t with controller, hub }

def step [BusProtocol π] (forward : BusFrame → S → Option S) (t : SubmissionQueue π S) :
    SubmissionStep π S → SubmissionQueue π S
  | .enter did request timeoutMs => t.enter did request timeoutMs
  | .submit place => t.submit place
  | .withdraw place => t.withdraw place
  | .send did request => { t with controller := (t.controller.send did request).2 }
  | .deliver frame => { t with controller := (t.controller.deliver frame).2 }
  | .wait time => { t with now := t.now + time }
  | .work turns => t.work forward turns
  | .leave ticket result => { t with controller := t.controller.finish ticket result }
  | .giveUp => { t with controller := t.controller.giveUp t.now }
  | .collect => { t with controller := t.controller.takeEnded.2 }
  | .change f g =>
    let worker := t.controller.worker
    { t with
      controller := { t.controller with worker := { worker with protocol := f worker.protocol } }
      hub := g t.hub }
  | .shutdown => { t with controller := t.controller.stop }

def run [BusProtocol π] (forward : BusFrame → S → Option S) (steps : List (SubmissionStep π S))
    (t : SubmissionQueue π S) : SubmissionQueue π S := steps.foldl (step forward) t

/-! A call whose steps follow each other at once, and a worker that is let go on. -/

theorem query_eq (t : SubmissionQueue π S) (did : BusDeviceId) (request : BusFrame)
    (timeoutMs : Nat) :
    (t.enter did request timeoutMs).submit t.entering.length =
      { t with controller := (t.controller.query did request timeoutMs t.now).2 } := by
  have hnobody : t.submit t.entering.length = t := by
    unfold submit
    rw [List.getElem?_eq_none (Nat.le_refl _)]
  unfold enter Controller.query
  split
  · exact hnobody
  · cases hacquire : t.controller.pending.acquire with
    | error e => exact hnobody
    | ok acquired =>
      obtain ⟨slot, pending⟩ := acquired
      have hrelease := Pool.release_acquire hacquire
      have herase (e : Entrant) : (t.entering ++ [e]).eraseIdx t.entering.length = t.entering := by
        simp [List.eraseIdx_append_of_length_le]
      unfold submit without
      simp only [List.getElem?_concat_length, Entrant.submission, herase,
        Controller.submit_pending]
      rcases t.controller.submit_cases
          (.query t.controller.nextTicket did request (.ofMillis timeoutMs) t.now) with
        ⟨e, -, hrefused⟩ | ⟨-, hqueued⟩
      · rw [hrefused]
        simp only [Except.map, hrelease]
      · rw [hqueued]
        simp only [Except.map, hrelease]
        split <;> rfl

/-! What a step does to slots and queue. -/

variable {t : SubmissionQueue π S} {config : BusConfig}

/-- Those who are on their way have slots beside the callers. -/
def Keeps (t : SubmissionQueue π S) (config : BusConfig) : Prop :=
  t.controller.Seated config (t.entering.map Entrant.slot)

theorem open?_keeps {protocol : π} {hub : S} {now : Instant}
    (h : open? protocol config hub now = .ok t) :
    t.Keeps config ∧ config.maxPendingQueries.toNat ≤ config.submissionDepth.toNat := by
  unfold open? at h
  cases hstart : Controller.start protocol config now with
  | error e =>
    rw [hstart] at h
    cases h
  | ok c =>
    rw [hstart] at h
    cases h
    refine ⟨Controller.start_seated hstart, ?_⟩
    unfold Controller.start at hstart
    split at hstart
    · cases hstart
    · rename_i hcheck
      exact BusConfig.slots_le_depth hcheck

theorem Keeps.enter (h : t.Keeps config) (did : BusDeviceId) (request : BusFrame)
    (timeoutMs : Nat) : (t.enter did request timeoutMs).Keeps config := by
  unfold SubmissionQueue.enter
  split
  · exact h
  · cases hacquire : t.controller.pending.acquire with
    | error e => exact h
    | ok acquired =>
      obtain ⟨slot, pending⟩ := acquired
      refine (Controller.Seated.acquire h hacquire).perm ?_
      simpa using (List.perm_append_singleton slot (t.entering.map Entrant.slot)).symm

/-- The slot of an entrant, and those of the others. -/
theorem Keeps.entrant (h : t.Keeps config) {place : Nat} {e : Entrant}
    (he : t.entering[place]? = some e) :
    t.controller.Seated config (e.slot :: (t.entering.eraseIdx place).map Entrant.slot) :=
  Controller.Seated.perm h ((perm_cons_eraseIdx he).map Entrant.slot)

/-- All that can become of an entrant who submits. -/
theorem submit_cases (t : SubmissionQueue π S) {place : Nat} {e : Entrant}
    (he : t.entering[place]? = some e) :
    let c := t.controller.queued e.did e.request e.timeoutMs t.now
    t.submit place = t.without place e t.controller ∨
      (t.submit place = t.without place e c ∨ ∃ deadline, t.submit place =
        { t with
          controller :=
            { c with
              callers := t.controller.callers ++
                [{ ticket := t.controller.nextTicket, slot := e.slot, timeoutMs := e.timeoutMs
                   deadline }] }
          entering := t.entering.eraseIdx place }) := by
  unfold submit Entrant.submission
  rw [he]
  dsimp only
  rcases t.controller.submit_cases
      (.query t.controller.nextTicket e.did e.request (.ofMillis e.timeoutMs) t.now) with
    ⟨error, -, hrefused⟩ | ⟨-, hqueued⟩
  · rw [hrefused]
    exact .inl rfl
  · rw [hqueued]
    dsimp only
    split
    · exact .inr (.inl rfl)
    · exact .inr (.inr ⟨_, rfl⟩)

theorem Keeps.submit (h : t.Keeps config) (place : Nat) : (t.submit place).Keeps config := by
  cases he : t.entering[place]? with
  | none =>
    unfold SubmissionQueue.submit
    rw [he]
    exact h
  | some e =>
    have hseated := h.entrant he
    rcases t.submit_cases he with hrefused | himpatient | ⟨deadline, hwaits⟩
    · rw [hrefused]
      exact hseated.release
    · rw [himpatient]
      exact (hseated.queued e.did e.request e.timeoutMs t.now).release
    · rw [hwaits]
      exact hseated.waits e.did e.request e.timeoutMs t.now deadline

theorem Keeps.withdraw (h : t.Keeps config) (place : Nat) : (t.withdraw place).Keeps config := by
  unfold SubmissionQueue.withdraw
  split
  · exact h
  · rename_i e he
    exact (h.entrant he).release

theorem Keeps.step [BusProtocol π] (forward : BusFrame → S → Option S) (h : t.Keeps config)
    (event : SubmissionStep π S) : (t.step forward event).Keeps config := by
  have hseated : t.controller.Seated config (t.entering.map Entrant.slot) := h
  cases event with
  | enter did request timeoutMs => exact h.enter did request timeoutMs
  | submit place => exact h.submit place
  | withdraw place => exact h.withdraw place
  | send did request => exact hseated.send did request
  | deliver frame => exact hseated.deliver frame
  | wait time => exact h
  | work turns => exact hseated.run forward t.now turns t.hub
  | leave ticket result => exact hseated.finish ticket result
  | giveUp => exact Controller.seated_kept.giveUp t.now hseated
  | collect => exact hseated.congr rfl rfl rfl rfl (.refl _)
  | change f g => exact hseated.congr rfl rfl rfl rfl (.refl _)
  | shutdown => exact Controller.seated_kept.stop hseated

theorem Keeps.run [BusProtocol π] (forward : BusFrame → S → Option S)
    (steps : List (SubmissionStep π S)) (h : t.Keeps config) :
    (t.run forward steps).Keeps config := by
  induction steps generalizing t with
  | nil => exact h
  | cons event rest ih => exact ih (h.step forward event)

/-! Whoever has a slot finds room. -/

/-- The slots that are held besides that of the entrant at a place. -/
def others (t : SubmissionQueue π S) (place : Nat) : List Nat :=
  t.controller.callers.map Caller.slot ++ (t.entering.eraseIdx place).map Entrant.slot

/-- The queue against those who come to it. -/
structure Admits (t : SubmissionQueue π S) (config : BusConfig) : Prop where
  /-- The queue is no longer than the slots are many that others hold, and there is room for more
  submissions than these. -/
  room : ∀ place e, t.entering[place]? = some e →
    t.queue.length ≤ (t.others place).length ∧
      (t.others place).length + 1 = t.controller.pending.inUse ∧
        (t.others place).length < config.submissionDepth.toNat
  /-- Whoever has a slot gets into the queue of a worker that runs. -/
  submits : ∀ place e, t.entering[place]? = some e → t.controller.running = true →
    (t.submit place).queue = t.queue ++ [e.submission t.controller.nextTicket t.now]
  /-- No call hears that the queue is full. -/
  query : ∀ did request timeoutMs,
    (t.controller.query did request timeoutMs t.now).1 ≠ .error (.submission Controller.noBuffers)

theorem Keeps.room (h : t.Keeps config)
    (hspacious : config.maxPendingQueries.toNat ≤ config.submissionDepth.toNat)
    (hclear : t.controller.Unobstructed) {place : Nat} {e : Entrant}
    (he : t.entering[place]? = some e) :
    t.queue.length ≤ (t.others place).length ∧
      (t.others place).length + 1 = t.controller.pending.inUse ∧
        (t.others place).length < config.submissionDepth.toNat := by
  have hseated := h.entrant he
  have hqueue := hseated.queue_le_callers hclear
  have hinUse := hseated.rents.lends.inUse
  have hbound := hseated.rents.lends.inUse_le
  rw [hseated.rents.capacity, hseated.configured] at hbound
  simp only [List.length_append, List.length_map, List.length_cons] at hinUse
  unfold others queue
  simp only [List.length_append, List.length_map]
  omega

theorem Keeps.submits (h : t.Keeps config)
    (hspacious : config.maxPendingQueries.toNat ≤ config.submissionDepth.toNat)
    (hclear : t.controller.Unobstructed) {place : Nat} {e : Entrant}
    (he : t.entering[place]? = some e) (hup : t.controller.running = true) :
    (t.submit place).queue = t.queue ++ [e.submission t.controller.nextTicket t.now] := by
  have hroom := (h.entrant he).room hspacious hclear (.inr (List.cons_ne_nil _ _))
  have hsubmit := Controller.submit_of_room hroom (e.submission t.controller.nextTicket t.now)
  rw [if_pos hup] at hsubmit
  unfold SubmissionQueue.submit
  rw [he]
  dsimp only
  rw [hsubmit]
  dsimp only
  split <;> rfl

theorem Keeps.query (h : t.Keeps config)
    (hspacious : config.maxPendingQueries.toNat ≤ config.submissionDepth.toNat)
    (hclear : t.controller.Unobstructed) (did : BusDeviceId) (request : BusFrame)
    (timeoutMs : Nat) :
    (t.controller.query did request timeoutMs t.now).1 ≠
      .error (.submission Controller.noBuffers) := by
  unfold Controller.query
  split
  · simp
  · cases hfree : t.controller.pending.free with
    | nil => simp [Pool.acquire, hfree]
    | cons slot rest =>
      have hroom := Controller.Seated.room h hspacious hclear (.inl (by simp [hfree]))
      simp only [Pool.acquire, hfree, Controller.submit_of_room hroom]
      cases t.controller.running with
      | false => simp
      | true =>
        simp only [if_true]
        split <;> simp

theorem Keeps.admits (h : t.Keeps config)
    (hspacious : config.maxPendingQueries.toNat ≤ config.submissionDepth.toNat)
    (hclear : t.controller.Unobstructed) : t.Admits config where
  room _ _ := h.room hspacious hclear
  submits _ _ := h.submits hspacious hclear
  query := h.query hspacious hclear

/-- However calls, turns of the worker and the ends of queries alternate, a query that has its slot
finds room in the queue, as long as nothing waits there without a slot. -/
theorem run_admits [BusProtocol π] {protocol : π} {hub : S} {now : Instant}
    (hopen : open? protocol config hub now = .ok t) (forward : BusFrame → S → Option S)
    (steps : List (SubmissionStep π S))
    (hclear : (t.run forward steps).controller.Unobstructed) :
    (t.run forward steps).Admits config :=
  ((open?_keeps hopen).1.run forward steps).admits (open?_keeps hopen).2 hclear

/-- The last slot is taken, but its call is overtaken by another one, which finds the queue empty.
There is still one place for it, and then the queue is full. -/
theorem run_admits_overtaken :
    ∃ t : SubmissionQueue Arbiter Unit,
      open? (.new 4) { maxPendingQueries := 2, submissionDepth := 2 } () 0 = .ok t ∧
      let asks := BusFrame.telemetryQuery ⟨8⟩ .boardControl
      let last := t.run (fun _ hub => some hub)
        [.enter ⟨8⟩ asks 100, .enter ⟨8⟩ asks 200, .submit 1]
      last.controller.Unobstructed ∧ last.entering.map Entrant.timeoutMs = [100] ∧
        (last.submit 0).queue.length = 2 ∧
        last.Admits { maxPendingQueries := 2, submissionDepth := 2 } := by
  refine ⟨_, rfl, ?clear, rfl, rfl, run_admits rfl _ _ ?clear⟩
  constructor
  case queries =>
    intro did request hsend
    cases List.mem_singleton.mp hsend
  case waiting =>
    intro ticket hticket
    exact ⟨_, List.mem_singleton.mpr rfl, (List.mem_singleton.mp hticket).symm⟩

/-- A request that is only sent takes up the only place, and so does a query whose caller has gone. -/
example :
    ∃ t : SubmissionQueue Arbiter Unit,
      open? (.new 4) { maxPendingQueries := 1, submissionDepth := 1 } () 0 = .ok t ∧
      let asks := BusFrame.telemetryQuery ⟨8⟩ .boardControl
      ∀ steps ∈ [[.send ⟨8⟩ asks], [.enter ⟨8⟩ asks 100, .submit 0, .wait 2000000000, .giveUp]],
        ((t.run (fun _ hub => some hub) steps).controller.query ⟨8⟩ asks 100 0).1 =
          .error (.submission (-105)) :=
  ⟨_, rfl, List.forall_mem_cons.mpr ⟨rfl, List.forall_mem_singleton.mpr rfl⟩⟩

end SubmissionQueue

end HomeGateway
