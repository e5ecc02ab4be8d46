import Mathlib
import HomeGateway.Proofs.Hub.Lifecycle
import HomeGateway.Proofs.Subscription.Fanout

/-!
Delivery over whole runs, where filters and hooks do not call back. What was taken from an open
subscription and what it has queued are together the events dispatched since it was made that
fit it and that its filter accepted, in order and each once; the filter was consulted for just
those that fit.
-/

namespace HomeGateway

variable {κ σ : Type}

namespace Happening

def dispatched? : Happening κ → Option (EventRef × Event)
  | .dispatched ref event => some (ref, event)
  | _ => none

def taken? (id : Nat) : Happening κ → Option EventRef
  | .taken other ref => if other = id then some ref else none
  | _ => none

/-- No event moves. -/
def Still : Happening κ → Prop
  | .dispatched .. | .taken .. => False
  | _ => True

end Happening

/-- The events that were dispatched and fit, in order. -/
def QuietConf.due (k : QuietConf σ) (history : List (Happening κ)) : List (EventRef × Event) :=
  (history.filterMap Happening.dispatched?).filter fun due => k.criteria.fit due.2

/-- Those of some events that got a yes. -/
def acceptedOf (due : List (EventRef × Event)) (verdicts : List Bool) : List EventRef :=
  ((due.zip verdicts).filter Prod.snd).map fun judged => judged.1.1

/-- A subscription was served right, given the history since it was made, what it has queued and
the journal. There is one verdict for each event that was due, the filter's if there is one. -/
structure Served (k : QuietConf σ) (id : Nat) (since : List (Happening κ))
    (queue : List EventRef) (journal : List Consultation) (verdicts : List Bool) : Prop where
  judged : verdicts.length = (k.due since).length
  consulted : consultations id journal =
    if k.filter.isSome then ((k.due since).map Prod.snd).zip verdicts else []
  unfiltered : k.filter.isNone → ∀ verdict ∈ verdicts, verdict = true
  delivered : since.filterMap (Happening.taken? id) ++ queue = acceptedOf (k.due since) verdicts

namespace Served

variable {k : QuietConf σ} {id : Nat} {since : List (Happening κ)} {queue : List EventRef}
  {journal : List Consultation} {verdicts : List Bool}

theorem new (k : QuietConf σ) (hfresh : consultations id journal = []) :
    Served k id ([] : List (Happening κ)) [] journal [] := by
  constructor
  · rfl
  · simp [hfresh, QuietConf.due]
  · simp
  · simp [QuietConf.due, acceptedOf]

theorem still {notes : List (Happening κ)} (h : Served k id since queue journal verdicts)
    (hstill : ∀ note ∈ notes, note.Still) :
    Served k id (since ++ notes) queue journal verdicts := by
  have hdispatched : notes.filterMap Happening.dispatched? = [] := by
    apply List.filterMap_eq_nil_iff.mpr
    intro note hnote
    have hnone := hstill note hnote
    cases note <;> first | rfl | exact hnone.elim
  have htaken : notes.filterMap (Happening.taken? id) = [] := by
    apply List.filterMap_eq_nil_iff.mpr
    intro note hnote
    have hnone := hstill note hnote
    cases note <;> first | rfl | exact hnone.elim
  have hdue : k.due (since ++ notes) = k.due since := by
    simp [QuietConf.due, hdispatched]
  constructor
  · rw [hdue]
    exact h.judged
  · rw [hdue]
    exact h.consulted
  · exact h.unfiltered
  · rw [hdue, List.filterMap_append, htaken, List.append_nil]
    exact h.delivered

/-- An event is taken off the queue. -/
theorem taken {ref : EventRef} {rest : List EventRef} {other : Nat}
    (h : Served k id since queue journal verdicts)
    (hqueue : queue = if other = id then ref :: rest else rest) :
    Served k id (since ++ [.taken other ref]) rest journal verdicts := by
  have hdue : k.due (since ++ [.taken other ref]) = k.due since := by
    simp [QuietConf.due, Happening.dispatched?]
  constructor
  · rw [hdue]
    exact h.judged
  · rw [hdue]
    exact h.consulted
  · exact h.unfiltered
  · rw [hdue, ← h.delivered, hqueue]
    by_cases heq : other = id
    · simp [heq, Happening.taken?]
    · simp [heq, Happening.taken?]

/-- An event is dispatched that does not fit. -/
theorem unfit {ref : EventRef} {event : Event} (h : Served k id since queue journal verdicts)
    (hfit : k.criteria.fit event = false) {later : List Consultation}
    (hlater : consultations id later = consultations id journal) :
    Served k id (since ++ [.dispatched ref event]) queue later verdicts := by
  have hdue : k.due (since ++ [.dispatched ref event]) = k.due since := by
    simp [QuietConf.due, Happening.dispatched?, hfit]
  constructor
  · rw [hdue]
    exact h.judged
  · rw [hdue, hlater]
    exact h.consulted
  · exact h.unfiltered
  · rw [hdue, ← h.delivered]
    simp [Happening.taken?]

/-- An event is dispatched that fits: it is judged, and queued if it is accepted. -/
theorem fit (ref : EventRef) {event : Event} (h : Served k id since queue journal verdicts)
    (hfit : k.criteria.fit event = true) (verdict : Bool) {later : List Consultation}
    (hfree : k.filter.isNone → verdict = true)
    (hlater : consultations id later = consultations id journal ++
      if k.filter.isSome then [(event, verdict)] else []) :
    Served k id (since ++ [.dispatched ref event]) (if verdict then queue ++ [ref] else queue)
      later (verdicts ++ [verdict]) := by
  have hdue : k.due (since ++ [.dispatched ref event]) = k.due since ++ [(ref, event)] := by
    simp [QuietConf.due, Happening.dispatched?, hfit]
  have hlength := h.judged
  constructor
  · simp [hdue, hlength]
  · rw [hdue, hlater, h.consulted, List.map_append,
      List.zip_append (by rw [List.length_map]; exact hlength.symm)]
    split <;> simp
  · intro hnone other hother
    rcases List.mem_append.mp hother with hin | hin
    · exact h.unfiltered hnone other hin
    · rw [List.mem_singleton.mp hin]
      exact hfree hnone
  · have haccepted : acceptedOf (k.due since ++ [(ref, event)]) (verdicts ++ [verdict]) =
        acceptedOf (k.due since) verdicts ++ if verdict then [ref] else [] := by
      unfold acceptedOf
      rw [List.zip_append hlength.symm]
      cases verdict <;> simp
    rw [hdue, haccepted, ← h.delivered]
    cases verdict <;> simp [Happening.taken?]

end Served

/-- Where a history ends in notes that make no subscription, each subscription was made before
them. -/
theorem split_of_append {history notes before since : List (Happening κ)} {opening : Happening κ}
    (h : history ++ notes = before ++ opening :: since) (hnotes : opening ∉ notes) :
    ∃ earlier, history = before ++ opening :: earlier ∧ since = earlier ++ notes := by
  rcases List.append_eq_append_iff.mp h with ⟨rest, rfl, hrest⟩ | ⟨rest, rfl, hrest⟩
  · exact absurd (hrest ▸ List.mem_append_right rest List.mem_cons_self) hnotes
  · cases rest with
    | nil =>
      simp only [List.nil_append] at hrest
      exact absurd (hrest ▸ List.mem_cons_self) hnotes
    | cons first rest =>
      simp only [List.cons_append, List.cons.injEq] at hrest
      obtain ⟨rfl, rfl⟩ := hrest
      exact ⟨rest, rfl, rfl⟩

/-- The history of a run explains the state of its subscriptions. -/
structure Recorded (d : Dispatcher (σ × List Consultation)) (journal : List Consultation)
    (history : List (Happening (QuietConf σ))) : Prop where
  quiet : d.Quiet
  fresh : ∀ id, d.nextId ≤ id → consultations id journal = []
  made : ∀ s ∈ d.known, ∃ before k since, history = before ++ .subscribed k (.ok s.id) :: since
  served : ∀ before k id since, history = before ++ .subscribed k (.ok id) :: since →
    id < d.nextId ∧ ∀ s ∈ d.known, s.id = id → s.isOpen → s.conf = k.journaled id ∧
      ∃ verdicts, Served k id since s.queue journal verdicts

namespace Recorded

variable {d next : Dispatcher (σ × List Consultation)} {journal : List Consultation}
  {history : List (Happening (QuietConf σ))}

theorem congr (h : Recorded d journal history) (hknown : next.known = d.known)
    (hnextId : next.nextId = d.nextId) : Recorded next journal history := by
  constructor
  · intro s hs
    rw [hknown] at hs
    exact h.quiet s hs
  · rw [hnextId]
    exact h.fresh
  · rw [hknown]
    exact h.made
  · rw [hknown, hnextId]
    exact h.served

/-- Nothing comes of notes that move no event and make no subscription. -/
theorem still {notes : List (Happening (QuietConf σ))} (h : Recorded d journal history)
    (hstill : ∀ note ∈ notes, note.Still) (hmade : ∀ k id, .subscribed k (.ok id) ∉ notes) :
    Recorded d journal (history ++ notes) := by
  constructor
  · exact h.quiet
  · exact h.fresh
  · intro s hs
    obtain ⟨before, k, since, rfl⟩ := h.made s hs
    exact ⟨before, k, since ++ notes, by simp⟩
  · intro before k id since hsplit
    obtain ⟨earlier, hhistory, rfl⟩ := split_of_append hsplit (hmade k id)
    obtain ⟨hid, hserved⟩ := h.served before k id earlier hhistory
    refine ⟨hid, ?_⟩
    intro s hs hname hopen
    obtain ⟨hconf, verdicts, hverdicts⟩ := hserved s hs hname hopen
    exact ⟨hconf, verdicts, hverdicts.still hstill⟩

/-- A dispatch serves each open subscription as it wants to be served. -/
theorem dispatched {later : List Consultation} {ref : EventRef} {event : Event} {took : List Nat}
    (h : Recorded d journal history) (hordered : d.Ordered)
    (hfanout : Fanout ref event d.listed took d next journal later) :
    Recorded next later (history ++ [.dispatched ref event]) := by
  constructor
  · exact hfanout.quiet h.quiet
  · intro id hid
    rw [hfanout.nextId] at hid
    have hout : id ∉ d.listed := by
      intro hin
      obtain ⟨s, hs, rfl⟩ := List.mem_map.mp (hordered.listed_known id hin)
      exact absurd (hordered.fresh s hs) (Nat.not_lt.mpr hid)
    rw [hfanout.others id hout]
    exact h.fresh id hid
  · intro t ht
    rw [hfanout.known] at ht
    obtain ⟨s, hs, hid, -⟩ := Dispatcher.of_mem_enqueue ht
    obtain ⟨before, k, since, rfl⟩ := h.made s hs
    exact ⟨before, k, since ++ [.dispatched ref event], by simp [hid]⟩
  · intro before k id since hsplit
    obtain ⟨earlier, hhistory, rfl⟩ := split_of_append hsplit (by simp)
    obtain ⟨hid, hserved⟩ := h.served before k id earlier hhistory
    rw [hfanout.nextId]
    refine ⟨hid, ?_⟩
    intro t ht hname hopen
    rw [hfanout.known] at ht
    obtain ⟨s, hs, hsame, hterms, hstill, hqueue⟩ := Dispatcher.of_mem_enqueue ht
    rw [hsame] at hname
    rw [hstill] at hopen
    obtain ⟨hconf, verdicts, hverdicts⟩ := hserved s hs hname hopen
    refine ⟨hterms.trans hconf, ?_⟩
    have hlisted : s.id ∈ d.listed := hordered.mem_listed hs hopen
    have hfits := hfanout.fits s hs
    have hunfiltered := hfanout.unfiltered s hs hlisted
    have hconsulted := hfanout.consulted s hs hlisted
    have hfilterNone : s.conf.filter.isNone = k.filter.isNone := by
      simp [hconf, QuietConf.journaled]
    have hfilterSome : s.conf.filter.isSome = k.filter.isSome := by
      simp [hconf, QuietConf.journaled]
    have hcriteria : s.conf.criteria = k.criteria := by
      rw [hconf]
      rfl
    rw [hfilterNone] at hunfiltered
    rw [hfilterSome] at hconsulted
    rw [hcriteria, hname] at hfits hunfiltered hconsulted
    rw [hqueue, hname]
    cases hfit : k.criteria.fit event with
    | false =>
      have hout : id ∉ took := fun hin => by simp [hfit] at hfits; exact hfits hin
      rw [if_neg hout]
      exact ⟨verdicts, hverdicts.unfit hfit (by simpa [hfit] using hconsulted)⟩
    | true =>
      have hgiven := hverdicts.fit ref hfit (decide (id ∈ took))
        (fun hnone => decide_eq_true (hunfiltered hfit hnone)) (by simpa [hfit] using hconsulted)
      simp only [decide_eq_true_eq] at hgiven
      exact ⟨_, hgiven⟩

theorem subscribed {k : QuietConf σ} {s : Subscription (σ × List Consultation)}
    (h : Recorded d journal history) (hordered : d.Ordered) (hid : s.id = d.nextId)
    (hconf : s.conf = k.journaled s.id) (hempty : s.queue = [])
    (hknown : next.known = d.known ++ [s]) (hnextId : next.nextId = d.nextId + 1) :
    Recorded next journal (history ++ [.subscribed k (.ok s.id)]) := by
  constructor
  · intro t ht hopen
    rw [hknown, List.mem_append, List.mem_singleton] at ht
    rcases ht with ht | rfl
    · exact h.quiet t ht hopen
    · exact ⟨k, hconf⟩
  · intro id hle
    exact h.fresh id (by omega)
  · intro t ht
    rw [hknown, List.mem_append, List.mem_singleton] at ht
    rcases ht with ht | rfl
    · obtain ⟨before, other, since, rfl⟩ := h.made t ht
      exact ⟨before, other, since ++ [.subscribed k (.ok s.id)], by simp⟩
    · exact ⟨history, k, [], rfl⟩
  · intro before other id since hsplit
    rw [hknown, hnextId]
    rcases List.eq_nil_or_concat since with rfl | ⟨earlier, last, rfl⟩
    · -- the subscription that was just made
      obtain ⟨rfl, hsame⟩ := List.append_inj' hsplit rfl
      simp only [List.cons.injEq, Happening.subscribed.injEq, Except.ok.injEq, and_true] at hsame
      obtain ⟨rfl, rfl⟩ := hsame
      refine ⟨by omega, ?_⟩
      intro t ht hname hopen
      rw [List.mem_append, List.mem_singleton] at ht
      rcases ht with ht | rfl
      · have hlt := hordered.fresh t ht
        omega
      · refine ⟨hconf, [], ?_⟩
        rw [hempty]
        exact Served.new k (h.fresh _ (by omega))
    · rw [List.concat_eq_append] at hsplit ⊢
      rw [← List.cons_append, ← List.append_assoc] at hsplit
      obtain ⟨hhistory, hlast⟩ := List.append_inj' hsplit rfl
      obtain rfl := List.singleton_inj.mp hlast
      obtain ⟨hid', hserved⟩ := h.served before other id earlier hhistory
      refine ⟨by omega, ?_⟩
      intro t ht hname hopen
      rw [List.mem_append, List.mem_singleton] at ht
      rcases ht with ht | rfl
      · obtain ⟨hterms, verdicts, hverdicts⟩ := hserved t ht hname hopen
        exact ⟨hterms, verdicts, hverdicts.still (by simp [Happening.Still])⟩
      · omega

/-- Ids, terms and openness stay as they are, and so do the queues of the open subscriptions. -/
theorem closed {id : Nat} (h : Recorded d journal history)
    (hknown : next.known = d.known.map fun s =>
      if s.id = id then { s with isOpen := false, queue := [], slot := none } else s)
    (hnextId : next.nextId = d.nextId) : Recorded next journal history := by
  have hold {t : Subscription (σ × List Consultation)} (ht : t ∈ next.known) :
      ∃ s ∈ d.known, t.id = s.id ∧ (t.isOpen → t = s) := by
    rw [hknown] at ht
    obtain ⟨s, hs, rfl⟩ := List.mem_map.mp ht
    refine ⟨s, hs, ?_⟩
    split <;> simp
  constructor
  · intro t ht hopen
    obtain ⟨s, hs, -, hsame⟩ := hold ht
    exact hsame hopen ▸ h.quiet s hs (hsame hopen ▸ hopen)
  · rw [hnextId]
    exact h.fresh
  · intro t ht
    obtain ⟨s, hs, hid, -⟩ := hold ht
    exact hid ▸ h.made s hs
  · intro before k other since hsplit
    obtain ⟨hid, hserved⟩ := h.served before k other since hsplit
    rw [hnextId]
    refine ⟨hid, ?_⟩
    intro t ht hname hopen
    obtain ⟨s, hs, -, hsame⟩ := hold ht
    obtain rfl := hsame hopen
    exact hserved t hs hname hopen

theorem taken {id : Nat} {ref : EventRef} {rest : List EventRef} (h : Recorded d journal history)
    (hdistinct : (d.known.map Subscription.id).Nodup) (hqueue : d.queue id = ref :: rest)
    (hknown : next.known = d.known.map fun s => if s.id = id then { s with queue := rest } else s)
    (hnextId : next.nextId = d.nextId) :
    Recorded next journal (history ++ [.taken id ref]) := by
  have hold {t : Subscription (σ × List Consultation)} (ht : t ∈ next.known) :
      ∃ s ∈ d.known, t.id = s.id ∧ t.conf = s.conf ∧ t.isOpen = s.isOpen ∧
        s.queue = if id = s.id then ref :: t.queue else t.queue := by
    rw [hknown] at ht
    obtain ⟨s, hs, rfl⟩ := List.mem_map.mp ht
    refine ⟨s, hs, ?_⟩
    by_cases heq : s.id = id
    · subst heq
      rw [Dispatcher.queue, Dispatcher.find?_eq_some hdistinct hs] at hqueue
      simp [hqueue]
    · simp [heq, Ne.symm heq]
  constructor
  · intro t ht hopen
    obtain ⟨s, hs, hid, hconf, hstill, -⟩ := hold ht
    rw [hid, hconf]
    exact h.quiet s hs (hstill ▸ hopen)
  · rw [hnextId]
    exact h.fresh
  · intro t ht
    obtain ⟨s, hs, hid, -⟩ := hold ht
    obtain ⟨before, k, since, rfl⟩ := h.made s hs
    exact ⟨before, k, since ++ [.taken id ref], by simp [hid]⟩
  · intro before k other since hsplit
    obtain ⟨earlier, hhistory, rfl⟩ := split_of_append hsplit (by simp)
    obtain ⟨hid, hserved⟩ := h.served before k other earlier hhistory
    rw [hnextId]
    refine ⟨hid, ?_⟩
    intro t ht hname hopen
    obtain ⟨s, hs, hsame, hterms, hstill, hbefore⟩ := hold ht
    rw [hsame] at hname
    obtain ⟨hconf, verdicts, hverdicts⟩ := hserved s hs hname (hstill ▸ hopen)
    refine ⟨hterms.trans hconf, verdicts, ?_⟩
    rw [hname] at hbefore
    exact hverdicts.taken hbefore

end Recorded

namespace Hub

/-! Only dispatching, subscribing, closing and taking change subscriptions. -/

theorem register_dispatcher (hub : Hub σ) (addr : DeviceAddr) :
    (hub.register addr).2.exchange.dispatcher = hub.exchange.dispatcher := by
  unfold Hub.register
  dsimp only
  split <;> rfl

theorem retain_dispatcher (hub : Hub σ) (index endpoint : Nat) (ref : EventRef) :
    (hub.retain index endpoint ref).exchange.dispatcher = hub.exchange.dispatcher := by
  unfold Hub.retain
  dsimp only
  split <;> rfl

theorem absorb_dispatcher (hub : Hub σ) (index : Nat) (device : Device) (payload : Payload) :
    (hub.absorb index device payload).2.exchange.dispatcher = hub.exchange.dispatcher := by
  unfold Hub.absorb
  split
  · rfl
  · dsimp only
    split
    · exact retain_dispatcher _ _ _ _
    · rfl

theorem intake_dispatcher (hub : Hub σ) (addr : DeviceAddr) (payload : Payload) :
    (hub.intake addr payload).2.exchange.dispatcher = hub.exchange.dispatcher := by
  have hregistered := hub.register_dispatcher addr
  unfold Hub.intake
  split
  · rename_i known hregister
    rwa [hregister] at hregistered
  · rename_i known hregister
    rwa [hregister] at hregistered
  · rename_i index known hregister
    rw [hregister] at hregistered
    split
    · exact hregistered
    · rename_i device hdevice
      have habsorbed := known.absorb_dispatcher index device payload
      split
      · rename_i cause next habsorb
        rw [habsorb] at habsorbed
        exact habsorbed.trans hregistered
      · rename_i made next habsorb
        rw [habsorb] at habsorbed
        exact habsorbed.trans hregistered

theorem report_dispatcher (hub : Hub σ) (event : Event) :
    (hub.report event).2.exchange.dispatcher = hub.exchange.dispatcher := by
  unfold Hub.report
  split <;> rfl

theorem order_dispatcher (hub : Hub σ) (addr : DeviceAddr) (endpoint : Nat) (value : DataValue) :
    (hub.order addr endpoint value).2.2.exchange.dispatcher = hub.exchange.dispatcher := by
  unfold Hub.order
  split
  · rfl
  · split
    · exact report_dispatcher _ _
    · exact report_dispatcher _ _

variable {hub : Hub (σ × List Consultation)} {bounds : EventStore.Bounds}
  {outside : List EventRef} {slots : List Nat} {loans : List UInt64} {ref : EventRef}
  {history : List (Happening (QuietConf σ))}

/-- An event that somebody holds is offered to the open subscriptions when it is dispatched. -/
theorem dispatch_recorded (retained : Bool) (client : σ × List Consultation)
    (h : hub.Accounts bounds (ref :: outside) slots loans)
    (hrecorded : Recorded hub.exchange.dispatcher client.2 history) :
    let (count, next, answer) := hub.dispatch ref retained client
    Recorded next.exchange.dispatcher answer.2 (history ++ hub.dispatchNotes ref) ∧
      hub.exchange.dispatcher.GrewBy next.exchange.dispatcher ref count ∧
        ∃ event, hub.dispatchNotes ref = [(.dispatched ref event : Happening (QuietConf σ))] := by
  obtain ⟨stored, hfind, -⟩ := h.events.find_held
    (List.mem_append_right hub.inside (List.mem_cons_self (a := ref) (l := outside)))
  have hnotes : hub.dispatchNotes ref =
      [(.dispatched ref stored.event : Happening (QuietConf σ))] := by
    simp [Hub.dispatchNotes, hfind]
  have hgrew := Exchange.publish_grewBy h.ordered hrecorded.quiet ref client
  have hfanout := Exchange.publish_fanout h.ordered hrecorded.quiet hfind client.1 client.2
  unfold Hub.dispatch
  generalize Exchange.publish ref hub.exchange client = published at hgrew hfanout ⊢
  obtain ⟨count, exchange, answer⟩ := published
  obtain ⟨took, -, hfanout⟩ := hfanout
  refine ⟨?_, hgrew, stored.event, hnotes⟩
  rw [hnotes]
  exact (hrecorded.dispatched h.ordered hfanout).congr rfl rfl

/-- A payload that becomes an event leads to one dispatch, whose count is the answer. -/
theorem receive_recorded (addr : DeviceAddr) (payload : Payload) (client : σ × List Consultation)
    (h : hub.Accounts bounds outside slots loans)
    (hrecorded : Recorded hub.exchange.dispatcher client.2 history) :
    let (result, next, answer) := hub.receive addr payload.bytes payload.timestamp client
    Recorded next.exchange.dispatcher answer.2 (history ++ hub.receiveNotes addr payload) ∧
      ∀ count, result = .ok count → ∃ ref event,
        hub.receiveNotes addr payload = [(.dispatched ref event : Happening (QuietConf σ))] ∧
          hub.exchange.dispatcher.GrewBy next.exchange.dispatcher ref count := by
  have hmade := h.intake addr payload
  have hsame := hub.intake_dispatcher addr payload
  unfold Hub.receive Hub.receiveNotes
  cases hrun : hub.intake addr payload with
  | mk result next =>
    rw [hrun] at hmade hsame
    rw [← hsame] at hrecorded ⊢
    cases result with
    | error halt => exact ⟨by simpa using hrecorded, by simp⟩
    | ok made =>
      obtain ⟨ref, retained⟩ := made
      have hdispatched := dispatch_recorded retained client hmade hrecorded
      dsimp only at hdispatched ⊢
      generalize next.dispatch ref retained client = dispatched at hdispatched ⊢
      obtain ⟨count, last, answer⟩ := dispatched
      obtain ⟨hafter, hgrew, event, hnotes⟩ := hdispatched
      refine ⟨hafter, ?_⟩
      intro other hother
      cases hother
      exact ⟨ref, event, hnotes, hgrew⟩

theorem command_recorded (addr : DeviceAddr) (endpoint : Nat) (value : DataValue)
    (client : σ × List Consultation) (h : hub.Accounts bounds outside slots loans)
    (hrecorded : Recorded hub.exchange.dispatcher client.2 history) :
    let (_, next, answer) := hub.command addr endpoint value client
    Recorded next.exchange.dispatcher answer.2
      (history ++ hub.commandNotes addr endpoint value) := by
  have hordered := h.order addr endpoint value
  have hsame := hub.order_dispatcher addr endpoint value
  unfold Hub.command Hub.commandNotes
  generalize hub.order addr endpoint value = ordered at hordered hsame ⊢
  obtain ⟨result, made, next⟩ := ordered
  dsimp only at hsame
  rw [← hsame] at hrecorded
  cases made with
  | none => simpa using hrecorded
  | some ref =>
    have hdispatched := dispatch_recorded false client hordered hrecorded
    dsimp only at hdispatched ⊢
    generalize next.dispatch ref false client = dispatched at hdispatched ⊢
    exact hdispatched.1

theorem publish_recorded (client : σ × List Consultation)
    (h : hub.Accounts bounds outside slots loans)
    (hrecorded : Recorded hub.exchange.dispatcher client.2 history) :
    let (_, next, answer) := hub.exchange.publish ref client
    Recorded next.dispatcher answer.2 (history ++ hub.dispatchNotes ref) := by
  unfold Hub.dispatchNotes
  cases hfind : hub.events.find? ref with
  | none =>
    have hnothing : hub.exchange.publish ref client = (0, hub.exchange, client) := by
      unfold Exchange.publish
      rw [show hub.exchange.events.find? ref = none from hfind]
    simpa [hnothing] using hrecorded
  | some stored =>
    have hfanout := Exchange.publish_fanout h.ordered hrecorded.quiet hfind client.1 client.2
    generalize hub.exchange.publish ref client = published at hfanout ⊢
    obtain ⟨count, exchange, answer⟩ := published
    obtain ⟨took, -, hfanout⟩ := hfanout
    exact hrecorded.dispatched h.ordered hfanout

theorem subscribe_recorded (k : QuietConf σ) {journal : List Consultation}
    (h : hub.Accounts bounds outside slots loans)
    (hrecorded : Recorded hub.exchange.dispatcher journal history) :
    let (result, next) := hub.subscribe (k.journaled hub.exchange.dispatcher.nextId)
    Recorded next.exchange.dispatcher journal (history ++ [.subscribed k result]) := by
  have hrefused (cause : Error) (next : Hub (σ × List Consultation))
      (hsame : next.exchange.dispatcher = hub.exchange.dispatcher) :
      Recorded next.exchange.dispatcher journal (history ++ [.subscribed k (.error cause)]) := by
    rw [hsame]
    exact hrecorded.still (by simp [Happening.Still]) (by simp)
  unfold Hub.subscribe Exchange.subscribe
  cases hcheck : (k.journaled hub.exchange.dispatcher.nextId).criteria.check with
  | error cause => exact hrefused _ _ rfl
  | ok checked =>
    cases hslot : hub.exchange.dispatcher.slots.acquire with
    | error full => exact hrefused _ _ rfl
    | ok taken =>
      exact hrecorded.subscribed h.ordered
        (s := { id := hub.exchange.dispatcher.nextId, conf := k.journaled _, isOpen := true,
                queue := [], slot := some taken.1 }) rfl rfl rfl rfl rfl

theorem unsubscribe_recorded (id : Nat) {journal : List Consultation}
    (hrecorded : Recorded hub.exchange.dispatcher journal history) :
    Recorded (hub.unsubscribe id).exchange.dispatcher journal history := by
  unfold Hub.unsubscribe Exchange.unsubscribe
  cases hfind : hub.exchange.dispatcher.find? id with
  | none => exact hrecorded
  | some s =>
    dsimp only
    split
    · exact hrecorded
    · exact hrecorded.closed rfl rfl

theorem next_recorded (id : Nat) {journal : List Consultation}
    (h : hub.Accounts bounds outside slots loans)
    (hrecorded : Recorded hub.exchange.dispatcher journal history) :
    let (ref, next) := hub.next id
    Recorded next.exchange.dispatcher journal
      (history ++ (ref.map (Happening.taken id)).toList) := by
  unfold Hub.next Exchange.next
  cases hqueue : hub.exchange.dispatcher.queue id with
  | nil => simpa using hrecorded
  | cons ref rest => exact hrecorded.taken h.ordered.distinct hqueue rfl rfl

end Hub

namespace HubInUse

variable {e : HubInUse (QuietConf σ) (σ × List Consultation)} {bounds : EventStore.Bounds}

/-- The history explains the subscriptions of the hub. -/
def Explained (e : HubInUse (QuietConf σ) (σ × List Consultation)) : Prop :=
  Recorded e.hub.exchange.dispatcher e.client.2 e.history

theorem Explained.note {notes : List (Happening (QuietConf σ))} (h : e.Explained)
    (hstill : ∀ note ∈ notes, note.Still) (hmade : ∀ k id, .subscribed k (.ok id) ∉ notes) :
    (e.note notes).Explained :=
  Recorded.still h hstill hmade

theorem Explained.receive (addr : DeviceAddr) (payload : Payload) (haccounts : e.Accounts bounds)
    (h : e.Explained) : (e.receive addr payload).Explained := by
  have hreceived := Hub.receive_recorded addr payload e.client haccounts h
  unfold HubInUse.receive Explained HubInUse.note
  generalize e.hub.receive addr payload.bytes payload.timestamp e.client = received at hreceived ⊢
  obtain ⟨result, next, answer⟩ := received
  dsimp only
  rw [← List.append_assoc]
  exact hreceived.1.still (by simp [Happening.Still]) (by simp)

theorem Explained.command (addr : DeviceAddr) (endpoint : Nat) (value : DataValue)
    (haccounts : e.Accounts bounds) (h : e.Explained) :
    (e.command addr endpoint value).Explained := by
  have hcommanded := Hub.command_recorded addr endpoint value e.client haccounts h
  unfold HubInUse.command Explained HubInUse.note
  generalize e.hub.command addr endpoint value e.client = commanded at hcommanded ⊢
  obtain ⟨result, next, answer⟩ := commanded
  dsimp only
  rw [← List.append_assoc]
  exact Recorded.still hcommanded (by simp [Happening.Still]) (by simp)

theorem Explained.next (id : Nat) (haccounts : e.Accounts bounds) (h : e.Explained) :
    (e.next id).Explained := by
  have htaken := Hub.next_recorded id haccounts h
  unfold HubInUse.next
  generalize e.hub.next id = taken at htaken ⊢
  obtain ⟨ref, next⟩ := taken
  cases ref with
  | none => simpa [Explained] using htaken
  | some ref => exact htaken

theorem Explained.publish (handle : Nat) (haccounts : e.Accounts bounds) (h : e.Explained) :
    (e.publish handle).Explained := by
  unfold HubInUse.publish
  split
  · rename_i ref hget
    exact Hub.publish_recorded e.client haccounts h
  · exact h

/-- Every operation is explained. -/
theorem Explained.operate (operation : HubOperation (QuietConf σ)) (haccounts : e.Accounts bounds)
    (h : e.Explained) : (e.operate QuietConf.journaled operation).Explained := by
  cases operation with
  | register addr =>
    have hregistered : Recorded (e.hub.register addr).2.exchange.dispatcher e.client.2 e.history :=
      Recorded.congr h (by rw [Hub.register_dispatcher]) (by rw [Hub.register_dispatcher])
    exact hregistered.still (by simp [Happening.Still]) (by simp)
  | setClock now => exact h
  | receive addr payload => exact h.receive addr payload haccounts
  | command addr endpoint value => exact h.command addr endpoint value haccounts
  | subscribe conf => exact Hub.subscribe_recorded conf haccounts h
  | unsubscribe id => exact Hub.unsubscribe_recorded id h
  | next id => exact h.next id haccounts
  | publish handle => exact h.publish handle haccounts
  | latest | duplicate | letGo | begin | reserve | attach | freeze | discard | repay =>
    simp only [HubInUse.operate, HubInUse.latest, HubInUse.duplicate, HubInUse.hold, HubInUse.letGo,
      HubInUse.begin, HubInUse.reserve, HubInUse.attach, HubInUse.freeze, HubInUse.discard,
      HubInUse.repay]
    split <;> exact h

theorem explained_kept (bounds : EventStore.Bounds) :
    KeptBy QuietConf.journaled fun e : HubInUse (QuietConf σ) (σ × List Consultation) =>
      e.Accounts bounds ∧ e.Explained where
  operate _ operation h :=
    ⟨h.1.operate QuietConf.journaled operation, h.2.operate operation h.1⟩
  pin e index d pinMask h hdevice :=
    ⟨(accounts_kept QuietConf.journaled bounds).pin e index d pinMask h.1 hdevice, h.2⟩
  unpin e held pins h hpins :=
    ⟨(accounts_kept QuietConf.journaled bounds).unpin e held pins h.1 hpins, h.2⟩

/-- Every subscription that is open was made some time ago and has been served right since, and
dispatches count the queues that grow. -/
structure Delivered (e : HubInUse (QuietConf σ) (σ × List Consultation)) : Prop where
  made : ∀ id, e.hub.exchange.dispatcher.isOpen id →
    ∃ before k since, e.history = before ++ .subscribed k (.ok id) :: since
  served : ∀ before k id since, e.history = before ++ .subscribed k (.ok id) :: since →
    e.hub.exchange.dispatcher.isOpen id →
      ∃ verdicts, Served k id since (e.hub.exchange.dispatcher.queue id) e.client.2 verdicts
  published : ∀ ref,
    let (count, next, _) := e.hub.exchange.publish ref e.client
    e.hub.exchange.dispatcher.GrewBy next.dispatcher ref count
  received : ∀ addr payload,
    let (result, next, _) := e.hub.receive addr payload.bytes payload.timestamp e.client
    ∀ count, result = .ok count → ∃ ref event,
      e.hub.receiveNotes addr payload = [(.dispatched ref event : Happening (QuietConf σ))] ∧
        e.hub.exchange.dispatcher.GrewBy next.exchange.dispatcher ref count

theorem Explained.delivered (haccounts : e.Accounts bounds) (h : e.Explained) : e.Delivered where
  made id hopen := by
    unfold Dispatcher.isOpen at hopen
    split at hopen
    · rename_i s hfind
      obtain ⟨hs, rfl⟩ := Dispatcher.mem_of_find? hfind
      exact h.made s hs
    · cases hopen
  served before k id since hsplit hopen := by
    unfold Dispatcher.isOpen at hopen
    split at hopen
    · rename_i s hfind
      obtain ⟨hs, hid⟩ := Dispatcher.mem_of_find? hfind
      have hserved := ((h.served before k id since hsplit).2 s hs hid hopen).2
      unfold Dispatcher.queue
      rw [hfind]
      exact hserved
    · cases hopen
  published ref := Exchange.publish_grewBy haccounts.ordered h.quiet ref e.client
  received addr payload := (Hub.receive_recorded addr payload e.client haccounts h).2

/-- Whatever clients do with a new hub whose filters and hooks do not call back, each event goes
once and in order to those open subscriptions that want it. -/
theorem states_delivered {config : HubConfig} {capability? : DeviceType → Option Capability}
    {now : UInt32} {hub : Hub (σ × List Consultation)}
    (hnew : Hub.new config capability? now = .ok hub) (client : σ)
    (actions : List (HubAction (QuietConf σ) (σ × List Consultation))) :
    ∀ e ∈ states QuietConf.journaled actions (HubInUse.start hub (client, [])), e.Delivered := by
  have hstart : (HubInUse.start hub (client, []) :
      HubInUse (QuietConf σ) (σ × List Consultation)).Explained := by
    unfold Hub.new at hnew
    split at hnew
    · cases hnew
    · cases hnew
      constructor
      · simp [HubInUse.start, Dispatcher.new, Dispatcher.Quiet]
      · simp [consultations, HubInUse.start]
      · simp [HubInUse.start, Dispatcher.new]
      · simp [HubInUse.start]
  intro e he
  obtain ⟨haccounts, hexplained⟩ :=
    states_keep (explained_kept _) actions ⟨start_accounts hnew _, hstart⟩ e he
  exact hexplained.delivered haccounts

/-- The filter of the subscription turns every other event down. -/
theorem states_delivered_alternating :
    ∃ hub : Hub (Bool × List Consultation), Hub.new {} Builtin.capability? 0 = .ok hub ∧
      ∀ e ∈ states QuietConf.journaled
        [.operate (.subscribe { filter := some fun _ accept => (accept, !accept) }),
          .operate (.receive (.onBoard .nucleoF429zi) { bytes := [0, 0, 200, 65], timestamp := 0 }),
          .operate (.receive (.onBoard .nucleoF429zi) { bytes := [0, 0, 160, 65], timestamp := 0 }),
          .operate (.next 1)]
        (HubInUse.start hub (true, [])), e.Delivered :=
  ⟨_, rfl, @states_delivered Bool {} Builtin.capability? 0 _ rfl true _⟩

end HubInUse

end HomeGateway
