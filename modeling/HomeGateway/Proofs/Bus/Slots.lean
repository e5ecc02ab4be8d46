import Mathlib
import HomeGateway.Proofs.Bus.Caller
import HomeGateway.Proofs.Pool

/-!
The slots of the callers. Whoever waits for the end of a query has a slot of its own, and all other
slots are free. Whatever ends a query gives its slot back, once; a query that finds no free slot is
refused for just that reason, and in one that is refused for another the slot comes back at once.
-/

namespace HomeGateway

namespace Controller

variable {π : Type} {c : Controller π}

/-- Callers have slots and tickets of their own. -/
structure Rents (c : Controller π) : Prop where
  lends : c.pending.Lends (c.callers.map Caller.slot)
  capacity : c.pending.capacity = c.config.maxPendingQueries.toNat
  distinct : (c.callers.map Caller.ticket).Nodup
  known : ∀ caller ∈ c.callers, caller.ticket < c.nextTicket

/-- The same, but there are also others, who have the slots of `others`. -/
structure RentsBeside (c : Controller π) (others : List Nat) : Prop where
  lends : c.pending.Lends (c.callers.map Caller.slot ++ others)
  capacity : c.pending.capacity = c.config.maxPendingQueries.toNat
  distinct : (c.callers.map Caller.ticket).Nodup
  known : ∀ caller ∈ c.callers, caller.ticket < c.nextTicket

theorem rents_iff : c.Rents ↔ c.RentsBeside [] := by
  constructor
  · rintro ⟨hlends, hcapacity, hdistinct, hknown⟩
    exact ⟨by rwa [List.append_nil], hcapacity, hdistinct, hknown⟩
  · rintro ⟨hlends, hcapacity, hdistinct, hknown⟩
    exact ⟨by rwa [List.append_nil] at hlends, hcapacity, hdistinct, hknown⟩

/-- Only slots, callers and tickets matter. -/
theorem RentsBeside.congr {others : List Nat} {next : Controller π} (h : c.RentsBeside others)
    (hpending : next.pending = c.pending) (hconfig : next.config = c.config)
    (hcallers : next.callers = c.callers) (hnext : next.nextTicket = c.nextTicket) :
    next.RentsBeside others where
  lends := by
    rw [hpending, hcallers]
    exact h.lends
  capacity := by
    rw [hpending, hconfig]
    exact h.capacity
  distinct := by
    rw [hcallers]
    exact h.distinct
  known := by
    rw [hcallers, hnext]
    exact h.known

theorem Rents.congr {next : Controller π} (h : c.Rents) (hpending : next.pending = c.pending)
    (hconfig : next.config = c.config) (hcallers : next.callers = c.callers)
    (hnext : next.nextTicket = c.nextTicket) : next.Rents :=
  rents_iff.mpr ((rents_iff.mp h).congr hpending hconfig hcallers hnext)

theorem start_rents {protocol : π} {config : BusConfig} {now : Instant}
    (h : Controller.start protocol config now = .ok c) : c.Rents ∧ c.config = config := by
  unfold Controller.start at h
  split at h
  · cases h
  · cases h
    exact ⟨⟨Pool.new_lends _ _, rfl, List.nodup_nil, by simp⟩, rfl⟩

/-- Who waits under a ticket, and the others. -/
theorem callers_perm {ticket : Nat} {caller : Caller}
    (hdistinct : (c.callers.map Caller.ticket).Nodup)
    (hfind : c.callers.find? (fun caller => caller.ticket = ticket) = some caller) :
    (caller :: c.callers.filter fun other => other.ticket ≠ ticket).Perm c.callers := by
  have hin := List.mem_of_find?_eq_some hfind
  have hticket : caller.ticket = ticket := by simpa using List.find?_some hfind
  have honly : (c.callers.filter fun other => other.ticket = ticket) = [caller] := by
    refine List.perm_singleton.mp ?_
    rw [List.perm_ext_iff_of_nodup ((List.Nodup.of_map _ hdistinct).filter _)
      (List.nodup_singleton caller)]
    intro other
    rw [List.mem_filter, decide_eq_true_eq, List.mem_singleton]
    constructor
    · rintro ⟨hother, hsame⟩
      exact List.inj_on_of_nodup_map hdistinct hother hin (hsame.trans hticket.symm)
    · rintro rfl
      exact ⟨hin, hticket⟩
  have hsplit := List.filter_append_perm (fun other => other.ticket = ticket) c.callers
  rw [honly] at hsplit
  simp only [← decide_not] at hsplit
  exact hsplit

/-! Slots are taken and given back. -/

variable {others : List Nat}

theorem RentsBeside.perm {others' : List Nat} (h : c.RentsBeside others)
    (hperm : others.Perm others') : c.RentsBeside others' :=
  { h with lends := h.lends.perm (hperm.append_left _) }

theorem RentsBeside.acquire {slot : Nat} {pending : Pool} (h : c.RentsBeside others)
    (hacquire : c.pending.acquire = .ok (slot, pending)) :
    ({ c with pending } : Controller π).RentsBeside (slot :: others) := by
  obtain ⟨hlends, hcapacity⟩ := h.lends.acquire hacquire
  exact
    { h with
      lends := hlends.perm List.perm_middle.symm
      capacity := hcapacity.trans h.capacity }

theorem RentsBeside.release {slot : Nat} (h : c.RentsBeside (slot :: others)) :
    ({ c with pending := c.pending.release slot } : Controller π).RentsBeside others :=
  { h with lends := (h.lends.perm List.perm_middle).release }

/-- The end of a query gives its slot back. -/
theorem RentsBeside.finish (h : c.RentsBeside others) (ticket : Nat)
    (result : Caller → Except QueryError QueryReply) :
    (c.finish ticket result).RentsBeside others := by
  unfold Controller.finish
  cases hfind : c.callers.find? fun caller => caller.ticket = ticket with
  | none => exact h
  | some caller =>
    have hperm := callers_perm h.distinct hfind
    have hrest : (c.callers.filter fun other => other.ticket ≠ ticket).Sublist c.callers :=
      List.filter_sublist
    exact
      { lends := (h.lends.perm ((hperm.symm.map Caller.slot).append_right others)).release
        capacity := h.capacity
        distinct := h.distinct.sublist (hrest.map Caller.ticket)
        known := fun other hother => h.known other (hrest.subset hother) }

theorem Rents.finish (h : c.Rents) (ticket : Nat)
    (result : Caller → Except QueryError QueryReply) : (c.finish ticket result).Rents :=
  rents_iff.mpr ((rents_iff.mp h).finish ticket result)

theorem rents_kept : KeptByEnds fun c : Controller π => c.Rents where
  finish ticket result h := h.finish ticket result
  halt h := h.congr rfl rfl rfl rfl

/-- As many slots are in use as callers wait. -/
theorem Rents.inUse (h : c.Rents) : c.pending.inUse = c.callers.length := by
  rw [h.lends.inUse, List.length_map]

theorem Rents.callers_le (h : c.Rents) :
    c.callers.length ≤ c.config.maxPendingQueries.toNat := by
  rw [← h.inUse, ← h.capacity]
  exact h.lends.inUse_le

/-- No slot is free if the greatest number of callers waits. -/
theorem Rents.free_eq_nil_iff (h : c.Rents) :
    c.pending.free = [] ↔ c.callers.length = c.config.maxPendingQueries.toNat := by
  rw [h.lends.free_eq_nil_iff, List.length_map, h.capacity]

/-! A query as it is made. -/

/-- A submission that is refused. -/
theorem submit_error {submission : Submission} {e : QueryError}
    (h : c.submit submission = .error e) : e = .workerStopped ∨ e = .submission noBuffers := by
  unfold Controller.submit at h
  dsimp only at h
  split at h
  · cases h
    exact .inl rfl
  · split at h
    · cases h
      exact .inr rfl
    · cases h

/-- With a query in the queue. -/
def queued (c : Controller π) (did : BusDeviceId) (request : BusFrame) (timeoutMs : Nat)
    (now : Instant) : Controller π :=
  { c with
    worker :=
      { c.worker with
        submissions := c.worker.submissions ++
          [.query c.nextTicket did request (.ofMillis timeoutMs) now] }
    nextTicket := c.nextTicket + 1 }

/-- A ticket has been given out. -/
theorem RentsBeside.queued (h : c.RentsBeside others) (did : BusDeviceId) (request : BusFrame)
    (timeoutMs : Nat) (now : Instant) :
    (c.queued did request timeoutMs now).RentsBeside others :=
  { h with known := fun caller hcaller => Nat.lt_succ_of_lt (h.known caller hcaller) }

/-- And with it its caller waits, who has a slot. -/
theorem RentsBeside.waits {slot : Nat} (h : c.RentsBeside (slot :: others)) (did : BusDeviceId)
    (request : BusFrame) (timeoutMs : Nat) (now deadline : Instant) :
    ({ c.queued did request timeoutMs now with
        callers := c.callers ++ [{ ticket := c.nextTicket, slot, timeoutMs, deadline }] } :
      Controller π).RentsBeside others where
  lends := by
    simp only [List.map_append, List.map_singleton, List.append_assoc, List.singleton_append]
    exact h.lends
  capacity := h.capacity
  distinct := by
    simp only [List.map_append, List.map_singleton]
    refine List.nodup_append.mpr ⟨h.distinct, List.nodup_singleton _, ?_⟩
    intro ticket hticket other hother heq
    obtain ⟨caller, hcaller, rfl⟩ := List.mem_map.mp hticket
    rw [List.mem_singleton] at hother
    exact Nat.ne_of_lt (h.known caller hcaller) (heq.trans hother)
  known := List.forall_mem_append.mpr
    ⟨fun caller hcaller => Nat.lt_succ_of_lt (h.known caller hcaller),
      List.forall_mem_singleton.mpr (Nat.lt_succ_self _)⟩

/-- All that can become of a query as it is made. -/
inductive Begins (c : Controller π) (did : BusDeviceId) (request : BusFrame) (timeoutMs : Nat)
    (now : Instant) : Except QueryError Nat × Controller π → Prop where
  | invalid (htoo : c.config.maxQueryTimeoutMs.toNat < timeoutMs) :
    Begins c did request timeoutMs now (.error (.invalidTimeout timeoutMs), c)
  | full (hwithin : timeoutMs ≤ c.config.maxQueryTimeoutMs.toNat) (hfull : c.pending.free = []) :
    Begins c did request timeoutMs now (.error .noMemory, c)
  | refused {e : QueryError} (hfree : c.pending.free ≠ [])
    (herror : e = .workerStopped ∨ e = .submission noBuffers) :
    Begins c did request timeoutMs now (.error e, c)
  | impatient (hfree : c.pending.free ≠ []) :
    Begins c did request timeoutMs now
      (.error (.unresponsive timeoutMs), c.queued did request timeoutMs now)
  | waits {slot : Nat} {rest : List Nat} {deadline : Instant}
    (hfree : c.pending.free = slot :: rest) :
    Begins c did request timeoutMs now
      (.ok c.nextTicket,
        { c.queued did request timeoutMs now with
          pending := { c.pending with free := rest }
          callers := c.callers ++ [{ ticket := c.nextTicket, slot, timeoutMs, deadline }] })

theorem query_begins (c : Controller π) (did : BusDeviceId) (request : BusFrame)
    (timeoutMs : Nat) (now : Instant) :
    c.Begins did request timeoutMs now (c.query did request timeoutMs now) := by
  unfold Controller.query
  by_cases hwithin : timeoutMs ≤ c.config.maxQueryTimeoutMs.toNat
  · rw [if_neg (Nat.not_lt.mpr hwithin)]
    unfold Pool.acquire
    cases hfree : c.pending.free with
    | nil => exact .full hwithin hfree
    | cons slot rest =>
      have hsome : c.pending.free ≠ [] := by simp [hfree]
      dsimp only
      cases hsubmit : c.submit (.query c.nextTicket did request (.ofMillis timeoutMs) now) with
      | error e => exact .refused hsome (submit_error hsubmit)
      | ok next =>
        have hnext : next = { c with worker := { c.worker with submissions :=
            c.worker.submissions ++
              [.query c.nextTicket did request (.ofMillis timeoutMs) now] } } := by
          rcases c.submit_cases (.query c.nextTicket did request (.ofMillis timeoutMs) now) with
            ⟨e, -, hrefused⟩ | ⟨-, hqueued⟩
          · cases hsubmit.symm.trans hrefused
          · exact Except.ok.inj (hsubmit.symm.trans hqueued)
        rw [hnext]
        dsimp only
        split
        · exact .impatient hsome
        · exact .waits hfree
  · rw [if_pos (Nat.not_le.mp hwithin)]
    exact .invalid (Nat.not_le.mp hwithin)

/-- A caller who waits has taken a slot, and nobody else has. -/
theorem Rents.begins {did : BusDeviceId} {request : BusFrame} {timeoutMs : Nat} {now : Instant}
    {answer : Except QueryError Nat × Controller π} (h : c.Rents)
    (hbegins : c.Begins did request timeoutMs now answer) : answer.2.Rents := by
  have hbeside := rents_iff.mp h
  cases hbegins with
  | invalid | full | refused => exact h
  | impatient => exact rents_iff.mpr (hbeside.queued did request timeoutMs now)
  | @waits slot rest deadline hfree =>
    have hacquire : c.pending.acquire = .ok (slot, { c.pending with free := rest }) := by
      unfold Pool.acquire
      rw [hfree]
    exact rents_iff.mpr ((hbeside.acquire hacquire).waits did request timeoutMs now deadline)

end Controller

end HomeGateway
