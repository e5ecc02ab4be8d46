import Mathlib
import HomeGateway.Bus.Controller

/-!
Callers who are told. Whatever ends queries, be it the worker, its own end or a caller's lack of
patience, comes down to verdicts that are handed out one by one: nobody is told twice, nobody is
lost, and the worker hears nothing of it.
-/

namespace HomeGateway

/-- What ends a query: the ticket, and what its caller makes of it. -/
structure Verdict where
  ticket : Nat
  result : Caller → Except QueryError QueryReply

def Notice.verdict? : Notice → Option Verdict
  | .telemetry _ => none
  | .completion ticket outcome elapsed =>
    some { ticket, result := Controller.replyOf outcome elapsed }
  | .lost ticket => some { ticket, result := fun _ => .error .workerStopped }

namespace Controller

variable {π : Type} {c : Controller π} {verdicts : List Verdict}

def finishAll (c : Controller π) (verdicts : List Verdict) : Controller π :=
  verdicts.foldl (fun c v => c.finish v.ticket v.result) c

theorem stop_eq (c : Controller π) :
    c.stop = finishAll { c with running := false }
      (c.callers.map fun caller =>
        { ticket := caller.ticket, result := fun _ => .error .workerStopped }) := by
  simp only [Controller.stop, finishAll, List.foldl_map]

theorem giveUp_eq (c : Controller π) (now : Instant) :
    c.giveUp now = finishAll c
      ((c.callers.filter fun caller => caller.deadline ≤ now).map fun caller =>
        { ticket := caller.ticket
          result := fun caller => .error (.unresponsive caller.timeoutMs) }) := by
  simp only [Controller.giveUp, finishAll, List.foldl_map]

/-- Passing notices on hands out their verdicts, or some of them until the worker comes down. -/
theorem pass_cases {S : Type} (forward : BusFrame → S → Option S) (notices : List Notice)
    (c : Controller π) (s : S) :
    (pass forward notices c s).1 = c.finishAll (notices.filterMap Notice.verdict?) ∨
      ∃ first, first <+: notices ∧
        (pass forward notices c s).1 = (c.finishAll (first.filterMap Notice.verdict?)).stop := by
  induction notices generalizing c s with
  | nil => exact .inl rfl
  | cons notice rest ih =>
    cases notice with
    | telemetry frame =>
      rw [pass]
      cases forward frame s with
      | none => exact .inr ⟨[], List.nil_prefix, rfl⟩
      | some s =>
        rcases ih c s with hall | ⟨first, hfirst, hstop⟩
        · exact .inl hall
        · exact .inr ⟨.telemetry frame :: first, (List.prefix_cons_inj _).mpr hfirst, hstop⟩
    | completion ticket outcome elapsed =>
      rcases ih (c.finish ticket (replyOf outcome elapsed)) s with hall | ⟨first, hfirst, hstop⟩
      · exact .inl hall
      · exact .inr ⟨.completion ticket outcome elapsed :: first,
          (List.prefix_cons_inj _).mpr hfirst, hstop⟩
    | lost ticket =>
      rcases ih (c.finish ticket fun _ => .error .workerStopped) s with
        hall | ⟨first, hfirst, hstop⟩
      · exact .inl hall
      · exact .inr ⟨.lost ticket :: first, (List.prefix_cons_inj _).mpr hfirst, hstop⟩

/-- A property that neither the end of a query nor that of the worker takes away. -/
structure KeptByEnds (keeps : Controller π → Prop) : Prop where
  finish : ∀ {c} ticket result, keeps c → keeps (c.finish ticket result)
  halt : ∀ {c}, keeps c → keeps { c with running := false }

section KeptByEnds

variable {keeps : Controller π → Prop} (hkept : KeptByEnds keeps)
include hkept

theorem KeptByEnds.finishAll (verdicts : List Verdict) (h : keeps c) :
    keeps (c.finishAll verdicts) := by
  induction verdicts generalizing c with
  | nil => exact h
  | cons v rest ih => exact ih (hkept.finish v.ticket v.result h)

theorem KeptByEnds.stop (h : keeps c) : keeps c.stop := by
  rw [stop_eq]
  exact hkept.finishAll _ (hkept.halt h)

theorem KeptByEnds.giveUp (now : Instant) (h : keeps c) : keeps (c.giveUp now) := by
  rw [giveUp_eq]
  exact hkept.finishAll _ h

theorem KeptByEnds.pass {S : Type} (forward : BusFrame → S → Option S) (notices : List Notice)
    (s : S) (h : keeps c) : keeps (pass forward notices c s).1 := by
  rcases pass_cases forward notices c s with hall | ⟨first, -, hstop⟩
  · rw [hall]
    exact hkept.finishAll _ h
  · rw [hstop]
    exact hkept.stop (hkept.finishAll _ h)

end KeptByEnds

/-- The worker hears nothing of its callers, and what is over stays over. -/
structure Later (c next : Controller π) : Prop where
  worker : next.worker = c.worker
  running : next.running = true → c.running = true
  ended : ∀ pair ∈ c.ended, pair ∈ next.ended

theorem Later.trans {middle next : Controller π} (h : Later c middle) (h' : Later middle next) :
    Later c next where
  worker := h'.worker.trans h.worker
  running hup := h.running (h'.running hup)
  ended pair hpair := h'.ended pair (h.ended pair hpair)

theorem finish_later (c : Controller π) (ticket : Nat)
    (result : Caller → Except QueryError QueryReply) : Later c (c.finish ticket result) := by
  unfold Controller.finish
  split
  · exact ⟨rfl, id, fun _ => id⟩
  · exact ⟨rfl, id, fun _ => List.mem_append_left _⟩

theorem finishAll_later (c : Controller π) (verdicts : List Verdict) :
    Later c (c.finishAll verdicts) := by
  induction verdicts generalizing c with
  | nil => exact ⟨rfl, id, fun _ => id⟩
  | cons v rest ih => exact (finish_later c v.ticket v.result).trans (ih _)

theorem stop_later (c : Controller π) : Later c c.stop := by
  have hfirst : Later c { c with running := false } :=
    ⟨rfl, (fun hup => by cases hup), fun _ => id⟩
  rw [stop_eq]
  exact hfirst.trans (finishAll_later _ _)

theorem pass_later {S : Type} (forward : BusFrame → S → Option S) (notices : List Notice)
    (c : Controller π) (s : S) : Later c (pass forward notices c s).1 := by
  rcases pass_cases forward notices c s with hall | ⟨first, -, hstop⟩
  · rw [hall]
    exact finishAll_later _ _
  · rw [hstop]
    exact (finishAll_later _ _).trans (stop_later _)

/-- The tickets of callers who wait and of queries that are over. -/
def held (c : Controller π) : List Nat := c.callers.map Caller.ticket ++ c.ended.map Prod.fst

/-- Only the callers whom verdicts concern are told, and told what these say. -/
structure Finished (c next : Controller π) (verdicts : List Verdict) : Prop where
  config : next.config = c.config
  worker : next.worker = c.worker
  running : next.running = c.running
  nextTicket : next.nextTicket = c.nextTicket
  callers : next.callers =
    c.callers.filter fun caller => caller.ticket ∉ verdicts.map Verdict.ticket
  held : next.held.Perm c.held
  ended : ∃ news, next.ended = c.ended ++ news ∧
    ∀ ticket result, (ticket, result) ∈ news → ∃ v ∈ verdicts, ∃ caller ∈ c.callers,
      v.ticket = ticket ∧ caller.ticket = ticket ∧ v.result caller = result

theorem Finished.trans {middle next : Controller π} {first second : List Verdict}
    (h : Finished c middle first) (h' : Finished middle next second) :
    Finished c next (first ++ second) where
  config := h'.config.trans h.config
  worker := h'.worker.trans h.worker
  running := h'.running.trans h.running
  nextTicket := h'.nextTicket.trans h.nextTicket
  callers := by
    rw [h'.callers, h.callers, List.filter_filter]
    apply List.filter_congr
    intro caller _
    simp only [List.map_append, List.mem_append, not_or, Bool.decide_and, Bool.and_comm]
  held := h'.held.trans h.held
  ended := by
    obtain ⟨news, hended, hnews⟩ := h.ended
    obtain ⟨more, hended', hmore⟩ := h'.ended
    refine ⟨news ++ more, by rw [hended', hended, List.append_assoc], ?_⟩
    intro ticket result hmem
    rcases List.mem_append.mp hmem with hearly | hlate
    · obtain ⟨v, hv, hcaller⟩ := hnews ticket result hearly
      exact ⟨v, List.mem_append_left second hv, hcaller⟩
    · obtain ⟨v, hv, caller, hcaller, hrest⟩ := hmore ticket result hlate
      rw [h.callers] at hcaller
      exact ⟨v, List.mem_append_right first hv, caller, List.mem_of_mem_filter hcaller, hrest⟩

/-- One verdict. -/
theorem finish_finished (hdistinct : (c.callers.map Caller.ticket).Nodup) (v : Verdict) :
    Finished c (c.finish v.ticket v.result) [v] := by
  unfold Controller.finish
  cases hfind : c.callers.find? fun caller => caller.ticket = v.ticket with
  | none =>
    have hnone : ∀ caller ∈ c.callers, caller.ticket ≠ v.ticket := by
      intro caller hcaller heq
      exact List.find?_eq_none.mp hfind caller hcaller (decide_eq_true heq)
    refine ⟨rfl, rfl, rfl, rfl, ?_, List.Perm.refl _, [], by simp, by simp⟩
    symm
    apply List.filter_eq_self.mpr
    intro caller hcaller
    simpa using hnone caller hcaller
  | some caller =>
    have hin := List.mem_of_find?_eq_some hfind
    have hticket : caller.ticket = v.ticket := by simpa using List.find?_some hfind
    refine ⟨rfl, rfl, rfl, rfl, by simp, ?_, [(v.ticket, v.result caller)], rfl, ?_⟩
    · have hothers : (c.callers.filter fun caller => caller.ticket ≠ v.ticket).map Caller.ticket =
          (c.callers.map Caller.ticket).erase v.ticket := by
        rw [hdistinct.erase_eq_filter, List.filter_map]
        congr 1
        apply List.filter_congr
        intro caller _
        by_cases heq : caller.ticket = v.ticket <;> simp [heq]
      have hmem : v.ticket ∈ c.callers.map Caller.ticket := hticket ▸ List.mem_map_of_mem hin
      unfold Controller.held
      simp only [hothers, List.map_append, List.map_singleton]
      rw [← List.append_assoc]
      exact (List.perm_append_singleton _ _).trans
        ((List.perm_cons_erase hmem).symm.append_right _)
    · intro ticket result hmem
      cases List.mem_singleton.mp hmem
      exact ⟨v, List.mem_singleton.mpr rfl, caller, hin, rfl, hticket, rfl⟩

theorem finishAll_finished (hdistinct : (c.callers.map Caller.ticket).Nodup)
    (verdicts : List Verdict) : Finished c (c.finishAll verdicts) verdicts := by
  induction verdicts generalizing c with
  | nil =>
    exact ⟨rfl, rfl, rfl, rfl, by simp [finishAll], List.Perm.refl _, [], by simp [finishAll]⟩
  | cons v rest ih =>
    have hfirst := finish_finished hdistinct v
    have hdistinct' : ((c.finish v.ticket v.result).callers.map Caller.ticket).Nodup := by
      rw [hfirst.callers]
      exact hdistinct.sublist (List.filter_sublist.map _)
    exact hfirst.trans (ih hdistinct')

/-- As the worker stops, everybody is told. -/
theorem stop_finished (hdistinct : (c.callers.map Caller.ticket).Nodup) :
    c.stop.callers = [] ∧ ∃ verdicts, Finished { c with running := false } c.stop verdicts ∧
      ∀ v ∈ verdicts, v.result = fun _ => .error .workerStopped := by
  have hfinished := finishAll_finished (c := { c with running := false }) hdistinct
    (c.callers.map fun caller =>
      { ticket := caller.ticket, result := fun _ => .error .workerStopped })
  rw [← stop_eq] at hfinished
  refine ⟨?_, _, hfinished, ?_⟩
  · rw [hfinished.callers]
    apply List.filter_eq_nil_iff.mpr
    intro caller hcaller
    simpa using ⟨caller, hcaller, rfl⟩
  · intro v hv
    obtain ⟨caller, -, rfl⟩ := List.mem_map.mp hv
    rfl

/-- Notices reach those whom they concern, unless one brings the worker down. -/
theorem pass_finished {S : Type} (hdistinct : (c.callers.map Caller.ticket).Nodup)
    (forward : BusFrame → S → Option S) (notices : List Notice) (s : S) :
    Finished c (pass forward notices c s).1 (notices.filterMap Notice.verdict?) ∨
      ((pass forward notices c s).1.callers = [] ∧
        ∃ verdicts, Finished { c with running := false } (pass forward notices c s).1 verdicts ∧
          ∀ v ∈ verdicts, v ∈ notices.filterMap Notice.verdict? ∨
            v.result = fun _ => .error .workerStopped) := by
  rcases pass_cases forward notices c s with hall | ⟨first, hfirst, hstop⟩
  · rw [hall]
    exact .inl (finishAll_finished hdistinct _)
  · have hbefore := finishAll_finished hdistinct (first.filterMap Notice.verdict?)
    have hdistinct' : ((c.finishAll (first.filterMap Notice.verdict?)).callers.map
        Caller.ticket).Nodup := by
      rw [hbefore.callers]
      exact hdistinct.sublist (List.filter_sublist.map _)
    obtain ⟨hnobody, verdicts, hafter, hstopped⟩ := stop_finished hdistinct'
    have hbefore' : Finished { c with running := false }
        { c.finishAll (first.filterMap Notice.verdict?) with running := false } _ :=
      { hbefore with running := rfl }
    rw [hstop]
    refine .inr ⟨hnobody, _, hbefore'.trans hafter, ?_⟩
    intro v hv
    rcases List.mem_append.mp hv with hearly | hlate
    · exact .inl ((hfirst.sublist.filterMap _).subset hearly)
    · exact .inr (hstopped v hlate)

/-- Who is told what, if nobody is told twice. -/
theorem Finished.told {next : Controller π} (h : Finished c next verdicts) (hheld : c.held.Nodup)
    (honce : (verdicts.map Verdict.ticket).Nodup) {v : Verdict} (hv : v ∈ verdicts)
    {caller : Caller} (hcaller : caller ∈ c.callers) (hticket : caller.ticket = v.ticket) :
    (v.ticket, v.result caller) ∈ next.ended := by
  obtain ⟨news, hended, hnews⟩ := h.ended
  obtain ⟨hcallers, -, hnew⟩ := List.nodup_append.mp hheld
  have hin : v.ticket ∈ c.callers.map Caller.ticket := hticket ▸ List.mem_map_of_mem hcaller
  have hstill : v.ticket ∈ next.held := h.held.mem_iff.mpr (List.mem_append_left _ hin)
  rcases List.mem_append.mp hstill with hwaits | hover
  · rw [h.callers] at hwaits
    obtain ⟨other, hother, hsame⟩ := List.mem_map.mp hwaits
    have hout := of_decide_eq_true (List.mem_filter.mp hother).2
    exact absurd (hsame ▸ List.mem_map_of_mem hv) hout
  · rw [hended, List.map_append, List.mem_append] at hover
    rcases hover with hold | hlate
    · exact absurd rfl (hnew v.ticket hin v.ticket hold)
    · obtain ⟨⟨ticket, result⟩, hpair, rfl⟩ := List.mem_map.mp hlate
      obtain ⟨w, hw, other, hother, hticket', hsame, hresult⟩ := hnews _ _ hpair
      have hverdict : w = v := List.inj_on_of_nodup_map honce hw hv hticket'
      have hcaller' : other = caller :=
        List.inj_on_of_nodup_map hcallers hother hcaller (hsame.trans hticket.symm)
      rw [hended, ← hcaller', ← hverdict, hresult, hticket']
      exact List.mem_append_right _ hpair

theorem submit_cases (c : Controller π) (submission : Submission) :
    (∃ e, (∀ ms, e ≠ .unresponsive ms) ∧ c.submit submission = .error e) ∨
      (c.running = true ∧ c.submit submission = .ok
        { c with
          worker := { c.worker with submissions := c.worker.submissions ++ [submission] } }) := by
  unfold Controller.submit
  dsimp only
  split
  · exact .inl ⟨.workerStopped, fun _ => QueryError.noConfusion, rfl⟩
  · rename_i hup
    split
    · exact .inl ⟨.submission noBuffers, fun _ => QueryError.noConfusion, rfl⟩
    · exact .inr ⟨by simpa using hup, rfl⟩

/-- Taking in a query: either it is refused for a reason that its caller can understand, or it is
queued and its caller waits. -/
theorem query_cases (did : BusDeviceId) (request : BusFrame) (timeoutMs : Nat) (now : Instant)
    (htolerant : 0 < c.config.tolerance) :
    (∃ e, (∀ ms, e ≠ .unresponsive ms) ∧
        c.query did request timeoutMs now = (.error e, c)) ∨
      (c.running = true ∧ ∃ slot pending, c.query did request timeoutMs now =
        (.ok c.nextTicket,
          { c with
            pending
            worker :=
              { c.worker with
                submissions := c.worker.submissions ++
                  [.query c.nextTicket did request (.ofMillis timeoutMs) now] }
            callers := c.callers ++
              [{ ticket := c.nextTicket, slot, timeoutMs
                 deadline := now + (Duration.ofMillis timeoutMs + c.config.tolerance) }]
            nextTicket := c.nextTicket + 1 })) := by
  have hpatient : Duration.ofMillis timeoutMs + c.config.tolerance ≠ 0 :=
    Nat.ne_of_gt (Nat.add_pos_right _ htolerant)
  unfold Controller.query
  split
  · exact .inl ⟨.invalidTimeout timeoutMs, fun _ => QueryError.noConfusion, rfl⟩
  · cases c.pending.acquire with
    | error e => exact .inl ⟨.noMemory, fun _ => QueryError.noConfusion, rfl⟩
    | ok acquired =>
      obtain ⟨slot, pending⟩ := acquired
      rcases c.submit_cases (.query c.nextTicket did request (.ofMillis timeoutMs) now) with
        ⟨e, hclear, hrefused⟩ | ⟨hup, hqueued⟩
      · exact .inl ⟨e, hclear, by simp only [hrefused]⟩
      · refine .inr ⟨hup, slot, pending, ?_⟩
        simp only [hqueued]
        rw [if_neg hpatient]

/-- The protocol is not asked yet. -/
theorem query_protocol (c : Controller π) (did : BusDeviceId) (request : BusFrame)
    (timeoutMs : Nat) (now : Instant) :
    (c.query did request timeoutMs now).2.worker.protocol = c.worker.protocol := by
  unfold Controller.query
  split
  · rfl
  · cases c.pending.acquire with
    | error e => rfl
    | ok acquired =>
      rcases c.submit_cases (.query c.nextTicket did request (.ofMillis timeoutMs) now) with
        ⟨e, -, hrefused⟩ | ⟨-, hqueued⟩
      · simp only [hrefused]
      · simp only [hqueued]
        split <;> rfl

theorem send_cases (c : Controller π) (did : BusDeviceId) (request : BusFrame) :
    (c.send did request).2 = c ∨ (c.send did request).2 =
      { c with
        worker :=
          { c.worker with submissions := c.worker.submissions ++ [.send did request] } } := by
  unfold Controller.send
  rcases c.submit_cases (.send did request) with ⟨e, -, hrefused⟩ | ⟨-, hqueued⟩
  · rw [hrefused]
    exact .inl rfl
  · rw [hqueued]
    exact .inr rfl

theorem deliver_cases (c : Controller π) (frame : RawFrame) :
    (c.deliver frame).2 = c ∨ (c.deliver frame).2 =
      { c with worker := { c.worker with frames := c.worker.frames ++ [frame] } } := by
  unfold Controller.deliver
  dsimp only
  split
  · exact .inl rfl
  · split
    · exact .inl rfl
    · exact .inr rfl

/-- Nobody gives up who has time left. -/
theorem giveUp_eq_self {now : Instant} (hearly : ∀ caller ∈ c.callers, now < caller.deadline) :
    c.giveUp now = c := by
  have hnobody : c.callers.filter (fun caller => caller.deadline ≤ now) = [] := by
    apply List.filter_eq_nil_iff.mpr
    intro caller hcaller
    simpa using hearly caller hcaller
  rw [giveUp_eq, hnobody]
  rfl

end Controller

end HomeGateway
