import Mathlib
import HomeGateway.Proofs.Subscription.Waits

/-!
No wake-up is lost. A wait that has found nothing goes to sleep, and stays asleep, only while
nothing is queued and its subscription is open, but for what is still to be announced or was
announced since it registered; and so it is with each event that is queued. What was queued is taken
by one of those who ask for it, is still queued, or was released when its subscription was closed.
-/

namespace HomeGateway

variable {σ : Type}

/-- It has looked at the queue since it registered. -/
def Stage.hasLooked : Stage → Bool
  | .unserved | .watching | .uncalled | .asleep => true
  | _ => false

/-- It has looked at the subscription as well. -/
def Stage.hasChecked : Stage → Bool
  | .watching | .uncalled | .asleep => true
  | _ => false

namespace Waiter

def hasEnded (w : Waiter) : Bool :=
  match w.stage with
  | .ended _ => true
  | _ => false

theorem calls_of_not_called {w : Waiter} (h : w.called = false) : w.calls = [] := by
  simpa [called] using h

/-- What a wait was given. -/
def found (w : Waiter) : List (Nat × EventRef) :=
  match w.stage with
  | .ended (some ref) => [(w.id, ref)]
  | _ => []

end Waiter

namespace SubscriptionWaits

variable {l m : SubscriptionWaits σ} {id i : Nat} {w : Waiter}

/-! What is about one subscription. -/

def entriesOf {α : Type} (id : Nat) (entries : List (Nat × α)) : List α :=
  (entries.filter fun entry => entry.1 = id).map Prod.snd

section Entries

variable {α : Type} {other : Nat}

theorem entriesOf_append (id : Nat) (first rest : List (Nat × α)) :
    entriesOf id (first ++ rest) = entriesOf id first ++ entriesOf id rest := by
  simp [entriesOf]

theorem entriesOf_self (id : Nat) (values : List α) :
    entriesOf id (values.map fun value => (id, value)) = values := by
  induction values with
  | nil => rfl
  | cons value rest ih =>
    unfold entriesOf at ih ⊢
    simpa using ih

theorem entriesOf_other (hother : other ≠ id) (values : List α) :
    entriesOf id (values.map fun value => (other, value)) = [] := by
  simp [entriesOf, hother]

theorem entriesOf_cons_self (id : Nat) (value : α) (rest : List (Nat × α)) :
    entriesOf id ((id, value) :: rest) = value :: entriesOf id rest := by
  simp [entriesOf]

theorem entriesOf_cons_other (hother : other ≠ id) (value : α) (rest : List (Nat × α)) :
    entriesOf id ((other, value) :: rest) = entriesOf id rest := by
  simp [entriesOf, hother]

theorem entriesOf_perm {first second : List (Nat × α)} (id : Nat) (h : first.Perm second) :
    (entriesOf id first).Perm (entriesOf id second) :=
  (h.filter _).map _

end Entries

/-! What a wait relies on, given the announcements that it has had. -/

/-- Each event that is queued has an announcement of its own, to come or among these. -/
def Quiet (l : SubscriptionWaits σ) (id : Nat) (calls : List (Option EventRef)) : Prop :=
  ((l.exchange.dispatcher.queue id).map some).Subperm (entriesOf id l.unannounced ++ calls)

/-- If the subscription is closed, that is still to be announced, or is among these. -/
def Secure (l : SubscriptionWaits σ) (id : Nat) (calls : List (Option EventRef)) : Prop :=
  l.exchange.dispatcher.isOpen id = true ∨ id ∈ l.closing ∨ none ∈ entriesOf id l.unannounced ++ calls

/-- Who relies on it before can do so after. -/
structure Respects (l m : SubscriptionWaits σ) (id : Nat) : Prop where
  quiet : ∀ {calls}, l.Quiet id calls → m.Quiet id calls
  secure : ∀ {calls}, l.Secure id calls → m.Secure id calls

/-- To take an event can only leave less to announce. -/
theorem respects_yields {other : Nat} {ref : EventRef}
    (hexchange : l.exchange.Yields other ref m.exchange) (hclosing : m.closing = l.closing)
    (hunannounced : m.unannounced = l.unannounced) : l.Respects m id where
  quiet {calls} h := by
    unfold Quiet at h ⊢
    rw [hunannounced]
    by_cases hother : id = other
    · subst hother
      rw [hexchange.queue, List.map_cons] at h
      exact (List.sublist_cons_self _ _).subperm.trans h
    · rwa [hexchange.others id hother]
  secure {calls} h := by
    unfold Secure
    rw [hclosing, hunannounced, hexchange.isOpen]
    exact h

theorem Respects.refl (l : SubscriptionWaits σ) (id : Nat) : l.Respects l id :=
  ⟨fun h => h, fun h => h⟩

/-- Whoever queues an event is going to announce it. -/
theorem respects_enqueue (l : SubscriptionWaits σ) (other : Nat) (ref : EventRef) :
    l.Respects (l.enqueue other ref) id := by
  unfold enqueue
  split
  · by_cases hother : id = other
    · subst hother
      constructor
      · intro calls hquiet
        unfold Quiet at hquiet ⊢
        dsimp only
        cases hknown : l.exchange.dispatcher.knows id with
        | false =>
          rw [Dispatcher.queue_of_not_knows ((Exchange.knows_deposit id).trans hknown)]
          exact List.nil_subperm
        | true =>
          rw [Exchange.queue_deposit_self hknown, entriesOf_cons_self, List.map_append,
            List.map_singleton, List.cons_append]
          exact (List.perm_append_singleton _ _).subperm.trans ((List.subperm_cons _).mpr hquiet)
      · intro calls hsecure
        unfold Secure at hsecure ⊢
        dsimp only
        rw [Exchange.isOpen_deposit, entriesOf_cons_self, List.cons_append]
        exact hsecure.imp_right (Or.imp_right (List.mem_cons_of_mem _))
    · constructor
      · intro calls hquiet
        unfold Quiet
        dsimp only
        rwa [Exchange.queue_deposit_other hother, entriesOf_cons_other (Ne.symm hother)]
      · intro calls hsecure
        unfold Secure
        dsimp only
        rwa [Exchange.isOpen_deposit, entriesOf_cons_other (Ne.symm hother)]
  · exact .refl l id

/-- Whoever shuts a subscription is going to clear it, -/
theorem respects_shut (l : SubscriptionWaits σ) (other : Nat) : l.Respects (l.shut other) id := by
  unfold shut
  split
  · constructor
    · intro calls h
      unfold Quiet
      dsimp only
      rwa [Exchange.queue_shut]
    · intro calls h
      by_cases hother : id = other
      · exact .inr (.inl (hother ▸ List.mem_cons_self))
      · refine h.imp (fun hopen => ?_) (Or.imp_left (List.mem_cons_of_mem other))
        rw [Exchange.isOpen_shut, hopen, decide_eq_true hother]
        rfl
  · exact .refl l id

/-- and then to announce that. -/
theorem respects_clear (l : SubscriptionWaits σ) (other : Nat) : l.Respects (l.clear other) id := by
  unfold clear
  split
  · by_cases hother : id = other
    · subst hother
      constructor
      · intro calls h
        unfold Quiet
        dsimp only
        rw [Exchange.queue_clear_self]
        exact List.nil_subperm
      · intro calls h
        refine .inr (.inr ?_)
        dsimp only
        rw [entriesOf_cons_self]
        exact List.mem_cons_self
    · constructor
      · intro calls h
        unfold Quiet
        dsimp only
        rwa [Exchange.queue_clear_other hother, entriesOf_cons_other (Ne.symm hother)]
      · intro calls h
        unfold Secure
        dsimp only
        rw [entriesOf_cons_other (Ne.symm hother)]
        exact h.imp (Exchange.isOpen_clear id).trans (Or.imp_left (List.mem_erase_of_ne hother).mpr)
  · exact .refl l id

theorem entriesOf_announce {what : Option EventRef} (hdue : (id, what) ∈ l.unannounced) :
    (entriesOf id l.unannounced).Perm
      (what :: entriesOf id (l.unannounced.erase (id, what))) := by
  rw [← entriesOf_cons_self]
  exact entriesOf_perm id (List.perm_cons_erase hdue)

theorem respects_announce (l : SubscriptionWaits σ) {other : Nat} (hother : id ≠ other)
    (what : Option EventRef) : l.Respects (l.announce other what) id := by
  unfold announce
  split
  · rename_i hdue
    have hsame := entriesOf_perm id (List.perm_cons_erase hdue)
    rw [entriesOf_cons_other (Ne.symm hother)] at hsame
    constructor
    · intro calls h
      exact h.trans (hsame.append_right calls).subperm
    · intro calls h
      exact h.imp_right (Or.imp_right (hsame.append_right calls).mem_iff.mp)
  · exact .refl l id

/-- Only the announcements for a subscription take anything from those who rely on one. -/
theorem respects_perform (l : SubscriptionWaits σ) {move : Move σ}
    (hmove : ∀ what, move ≠ .announce id what) : l.Respects (l.perform move) id := by
  cases move with
  | subscribe conf =>
    constructor
    · intro calls h
      unfold Quiet
      dsimp only [perform]
      rwa [Exchange.queue_subscribe]
    · intro calls h
      refine h.imp_left fun hopen => ?_
      exact (Exchange.isOpen_subscribe id conf (Dispatcher.knows_of_isOpen hopen)).trans hopen
  | queue other ref => exact l.respects_enqueue other ref
  | tryNext other =>
    simp only [perform]
    rcases l.tryNext_cases other with hsame | ⟨ref, x, hyields, htaken⟩
    · rw [hsame]
      exact .refl l id
    · rw [htaken]
      exact respects_yields hyields rfl rfl
  | shut other => exact l.respects_shut other
  | clear other => exact l.respects_clear other
  | announce other what => exact l.respects_announce (fun heq => hmove what (by rw [heq])) what
  | wait other limit =>
    simp only [perform, join]
    split <;> exact ⟨fun h => h, fun h => h⟩
  | wake i =>
    simp only [perform, wake]
    split
    · exact .refl l id
    · split <;> exact ⟨fun h => h, fun h => h⟩
  | proceed i =>
    have hstep := l.proceeds i
    simp only [perform]
    generalize l.proceed i = next at hstep ⊢
    cases hstep with
    | missing => exact .refl l id
    | advance w => exact ⟨fun h => h, fun h => h⟩
    | unserved w => exact ⟨fun h => h, fun h => h⟩
    | served w _ _ ref x hyields => exact respects_yields hyields rfl rfl
  | pass time => exact ⟨fun h => h, fun h => h⟩

/-! What the waits have found and where they stand. -/

/-- A wait relies on what it has seen, but for what it was called for. -/
structure Alert (l : SubscriptionWaits σ) (w : Waiter) : Prop where
  quiet : w.stage.hasLooked = true → l.Quiet w.id w.calls
  secure : w.stage.hasChecked = true → l.Secure w.id w.calls

theorem Alert.respects (h : l.Alert w) (hrespects : l.Respects m w.id) : m.Alert w where
  quiet hlooked := hrespects.quiet (h.quiet hlooked)
  secure hchecked := hrespects.secure (h.secure hchecked)

theorem alert_before (hlooked : w.stage.hasLooked = false) (hchecked : w.stage.hasChecked = false) :
    l.Alert w where
  quiet h := absurd (hlooked.symm.trans h) (by decide)
  secure h := absurd (hchecked.symm.trans h) (by decide)

/-- It looks at what it relies on after it has registered. -/
theorem Alert.advance (h : l.Alert w) : l.Alert (l.advance w) := by
  unfold SubscriptionWaits.advance
  split
  · exact alert_before rfl rfl
  · exact h
  · rename_i hstage
    split
    · rename_i hopen
      exact ⟨fun _ => h.quiet (by rw [hstage]; rfl), fun _ => .inl hopen⟩
    · exact alert_before rfl rfl
  · rename_i hstage
    split
    · exact alert_before rfl rfl
    · exact ⟨fun _ => h.quiet (by rw [hstage]; rfl), fun _ => h.secure (by rw [hstage]; rfl)⟩
  · rename_i hstage
    split
    · exact alert_before rfl rfl
    · exact ⟨fun _ => h.quiet (by rw [hstage]; rfl), fun _ => h.secure (by rw [hstage]; rfl)⟩
  · rename_i hstage
    split
    · exact ⟨fun _ => h.quiet (by rw [hstage]; rfl), fun _ => h.secure (by rw [hstage]; rfl)⟩
    · exact h
  · exact h

theorem alert_place {v : Waiter} (h : ∀ w ∈ l.waiters, l.Alert w) (hv : l.Alert v) :
    ∀ w ∈ (l.place i v).waiters, l.Alert w := by
  intro w hw
  rcases List.mem_or_eq_of_mem_set hw with hold | rfl
  · exact h w hold
  · exact hv

/-- An announcement calls those who rely on it, and is then among those that they have had. -/
theorem alert_announce (h : ∀ w ∈ l.waiters, l.Alert w) (id : Nat) (what : Option EventRef) :
    ∀ w ∈ (l.announce id what).waiters, (l.announce id what).Alert w := by
  have hrespects {other : Nat} (hother : other ≠ id) := l.respects_announce hother what
  unfold announce at hrespects ⊢
  split
  · rename_i hdue
    rw [if_pos hdue] at hrespects
    intro v hv
    obtain ⟨w, hw, rfl⟩ := List.mem_map.mp hv
    split
    · rename_i hid
      subst hid
      have hmoved : (entriesOf w.id l.unannounced ++ w.calls).Perm
          (entriesOf w.id (l.unannounced.erase (w.id, what)) ++ (w.calls ++ [what])) := by
        refine ((entriesOf_announce hdue).append_right w.calls).trans ?_
        rw [List.cons_append, ← List.append_assoc]
        exact (List.perm_append_singleton _ _).symm
      constructor
      · intro hlooked
        exact ((h w hw).quiet hlooked).trans hmoved.subperm
      · intro hchecked
        exact ((h w hw).secure hchecked).imp_right (Or.imp_right hmoved.mem_iff.mp)
    · rename_i hother
      exact (h w hw).respects (hrespects hother)
  · exact h

theorem alert_perform (h : ∀ w ∈ l.waiters, l.Alert w) (move : Move σ) :
    ∀ w ∈ (l.perform move).waiters, (l.perform move).Alert w := by
  -- For any move but an announcement it is enough that nobody relies on what was not so before.
  have hmost (hmove : ∀ id what, move ≠ .announce id what)
      (hbefore : ∀ w ∈ (l.perform move).waiters, l.Alert w) :
      ∀ w ∈ (l.perform move).waiters, (l.perform move).Alert w :=
    fun w hw => (hbefore w hw).respects (l.respects_perform (hmove w.id))
  cases move with
  | announce id what => exact alert_announce h id what
  | wait id limit =>
    refine hmost (by simp) ?_
    simp only [perform, join]
    split
    · intro w hw
      rcases List.mem_append.mp hw with hold | hnew
      · exact h w hold
      · rw [List.mem_singleton.mp hnew]
        exact alert_before rfl rfl
    · exact h
  | wake i =>
    refine hmost (by simp) ?_
    simp only [perform, wake]
    split
    · exact h
    · rename_i w hi
      split
      · rename_i hstage
        have hw := h w (List.mem_of_getElem? hi)
        exact alert_place h
          ⟨fun _ => hw.quiet (by rw [hstage]; rfl), fun _ => hw.secure (by rw [hstage]; rfl)⟩
      · exact h
  | proceed i =>
    refine hmost (by simp) ?_
    have hstep := l.proceeds i
    simp only [perform]
    generalize l.proceed i = next at hstep ⊢
    cases hstep with
    | missing => exact h
    | advance w hi => exact alert_place h (h w (List.mem_of_getElem? hi)).advance
    | unserved w _ _ hempty =>
      exact alert_place h
        ⟨fun _ => by rw [Quiet, hempty]; exact List.nil_subperm,
          fun hchecked => absurd hchecked Bool.false_ne_true⟩
    | served w => exact alert_place h (alert_before rfl rfl)
  | _ =>
    refine hmost (by simp) ?_
    rwa [l.waiters_perform rfl]

/-! Where the events are. -/

/-- All that was queued for a subscription was first taken and then released, and the rest is
queued. Nothing is released before the subscription is closed for good. -/
structure Orderly (l : SubscriptionWaits σ) : Prop where
  distinct : l.closing.Nodup
  shut : ∀ id ∈ l.closing, l.exchange.dispatcher.knows id = true ∧
    l.exchange.dispatcher.isOpen id = false
  dropped : ∀ id, entriesOf id l.dropped ≠ [] → l.exchange.dispatcher.knows id = true ∧
    l.exchange.dispatcher.isOpen id = false ∧ id ∉ l.closing ∧ l.exchange.dispatcher.queue id = []
  order : ∀ id, entriesOf id l.queued =
    entriesOf id (l.taken.map Prod.snd) ++ entriesOf id l.dropped ++ l.exchange.dispatcher.queue id

theorem empty_orderly (events : EventStore) (capacity : Nat) (counters : Counters)
    (now : Instant) : (empty events capacity counters now : SubscriptionWaits σ).Orderly where
  distinct := List.nodup_nil
  shut := nofun
  dropped _ h := absurd rfl h
  order _ := rfl

namespace Orderly

theorem subscribe (h : l.Orderly) (conf : SubscriptionConf σ) :
    (l.perform (.subscribe conf)).Orderly where
  distinct := h.distinct
  shut id hid := by
    obtain ⟨hknown, hclosed⟩ := h.shut id hid
    exact ⟨Exchange.knows_subscribe id conf hknown,
      (Exchange.isOpen_subscribe id conf hknown).trans hclosed⟩
  dropped id hid := by
    obtain ⟨hknown, hclosed, hdone, hempty⟩ := h.dropped id hid
    exact ⟨Exchange.knows_subscribe id conf hknown,
      (Exchange.isOpen_subscribe id conf hknown).trans hclosed, hdone,
      (Exchange.queue_subscribe id conf).trans hempty⟩
  order id := by
    change entriesOf id l.queued = _ ++ entriesOf id l.dropped ++
      (l.exchange.subscribe conf).2.dispatcher.queue id
    rw [Exchange.queue_subscribe]
    exact h.order id

theorem enqueue (h : l.Orderly) (id : Nat) (ref : EventRef) : (l.enqueue id ref).Orderly := by
  unfold SubscriptionWaits.enqueue
  split
  · rename_i hmay
    have hknown : l.exchange.dispatcher.knows id = true :=
      hmay.elim Dispatcher.knows_of_isOpen fun hid => (h.shut id hid).1
    -- Where something was released nothing is queued any more.
    have hnone (other : Nat) (hother : entriesOf other l.dropped ≠ []) : other ≠ id := by
      rintro rfl
      obtain ⟨-, hclosed, hdone, -⟩ := h.dropped other hother
      rw [hclosed] at hmay
      exact hmay.elim (fun hopen => absurd hopen (by decide)) hdone
    constructor
    · exact h.distinct
    · intro other hother
      rw [Exchange.knows_deposit, Exchange.isOpen_deposit]
      exact h.shut other hother
    · intro other hother
      rw [Exchange.knows_deposit, Exchange.isOpen_deposit,
        Exchange.queue_deposit_other (hnone other hother)]
      exact h.dropped other hother
    · intro other
      dsimp only
      rw [entriesOf_append, h.order other]
      by_cases hother : other = id
      · subst hother
        rw [Exchange.queue_deposit_self hknown, ← List.append_assoc]
        exact congrArg _ (entriesOf_self other [ref])
      · rw [Exchange.queue_deposit_other hother]
        exact (congrArg _ (entriesOf_other (Ne.symm hother) [ref])).trans (List.append_nil _)
  · exact h

/-- Taking moves the oldest event of a queue to the end of what was taken. -/
theorem yields {ref : EventRef} {taker : Option Nat} (h : l.Orderly)
    (hexchange : l.exchange.Yields id ref m.exchange) (hclosing : m.closing = l.closing)
    (hqueued : m.queued = l.queued) (hdropped : m.dropped = l.dropped)
    (htaken : m.taken = l.taken ++ [(taker, id, ref)]) : m.Orderly := by
  have hnone : entriesOf id l.dropped = [] := by
    by_contra hsome
    have hempty := (h.dropped id hsome).2.2.2
    rw [hexchange.queue] at hempty
    cases hempty
  constructor
  · rw [hclosing]
    exact h.distinct
  · rw [hclosing]
    intro other hother
    rw [hexchange.knows, hexchange.isOpen]
    exact h.shut other hother
  · rw [hclosing, hdropped]
    intro other hother
    have hne : other ≠ id := by
      rintro rfl
      exact hother hnone
    rw [hexchange.knows, hexchange.isOpen, hexchange.others other hne]
    exact h.dropped other hother
  · intro other
    rw [hqueued, hdropped, htaken, List.map_append, entriesOf_append, h.order other]
    by_cases hother : other = id
    · subst hother
      rw [hexchange.queue, hnone]
      simp [entriesOf]
    · rw [hexchange.others other hother]
      simp [entriesOf, Ne.symm hother]

theorem shut_step (h : l.Orderly) (id : Nat) : (l.shut id).Orderly := by
  unfold SubscriptionWaits.shut
  split
  · rename_i hopen
    constructor
    · refine List.nodup_cons.mpr ⟨fun hid => ?_, h.distinct⟩
      exact absurd (hopen.symm.trans (h.shut id hid).2) (by decide)
    · intro other hother
      rw [Exchange.knows_shut, Exchange.isOpen_shut]
      rcases List.mem_cons.mp hother with rfl | hold
      · exact ⟨Dispatcher.knows_of_isOpen hopen, by simp⟩
      · obtain ⟨hknown, hclosed⟩ := h.shut other hold
        exact ⟨hknown, by simp [hclosed]⟩
    · intro other hother
      obtain ⟨hknown, hclosed, hdone, hempty⟩ := h.dropped other hother
      rw [Exchange.knows_shut, Exchange.isOpen_shut, Exchange.queue_shut]
      refine ⟨hknown, by simp [hclosed], fun hmem => ?_, hempty⟩
      rcases List.mem_cons.mp hmem with rfl | hold
      · exact absurd (hopen.symm.trans hclosed) (by decide)
      · exact hdone hold
    · intro other
      rw [Exchange.queue_shut]
      exact h.order other
  · exact h

/-- What is released leaves the queue empty for good. -/
theorem clear (h : l.Orderly) (id : Nat) : (l.clear id).Orderly := by
  unfold SubscriptionWaits.clear
  split
  · rename_i hid
    obtain ⟨hknown, hclosed⟩ := h.shut id hid
    have hreleased (other : Nat) :
        entriesOf other (l.dropped ++ (l.exchange.dispatcher.queue id).map fun ref => (id, ref)) ++
            (l.exchange.clear id).dispatcher.queue other =
          entriesOf other l.dropped ++ l.exchange.dispatcher.queue other := by
      rw [entriesOf_append]
      by_cases hother : other = id
      · subst hother
        rw [entriesOf_self, Exchange.queue_clear_self, List.append_nil]
      · rw [entriesOf_other (Ne.symm hother), Exchange.queue_clear_other hother, List.append_nil]
    constructor
    · exact h.distinct.erase id
    · intro other hother
      rw [Exchange.knows_clear, Exchange.isOpen_clear]
      exact h.shut other (List.mem_of_mem_erase hother)
    · intro other hother
      rw [Exchange.knows_clear, Exchange.isOpen_clear]
      by_cases hne : other = id
      · subst hne
        exact ⟨hknown, hclosed, h.distinct.not_mem_erase, Exchange.queue_clear_self _ _⟩
      · rw [entriesOf_append, entriesOf_other (Ne.symm hne), List.append_nil] at hother
        obtain ⟨hold, hshut, hdone, hempty⟩ := h.dropped other hother
        rw [Exchange.queue_clear_other hne]
        exact ⟨hold, hshut, fun hmem => hdone (List.mem_of_mem_erase hmem), hempty⟩
    · intro other
      rw [List.append_assoc, hreleased other, ← List.append_assoc]
      exact h.order other
  · exact h

theorem perform (h : l.Orderly) (move : Move σ) : (l.perform move).Orderly := by
  cases move with
  | subscribe conf => exact h.subscribe conf
  | queue id ref => exact h.enqueue id ref
  | tryNext id =>
    simp only [SubscriptionWaits.perform]
    rcases l.tryNext_cases id with hsame | ⟨ref, x, hyields, htaken⟩
    · rwa [hsame]
    · rw [htaken]
      exact h.yields hyields rfl rfl rfl rfl
  | shut id => exact h.shut_step id
  | clear id => exact h.clear id
  | announce id what =>
    simp only [SubscriptionWaits.perform, announce]
    split
    · exact ⟨h.distinct, h.shut, h.dropped, h.order⟩
    · exact h
  | wait id limit =>
    simp only [SubscriptionWaits.perform, join]
    split
    · exact ⟨h.distinct, h.shut, h.dropped, h.order⟩
    · exact h
  | wake i =>
    simp only [SubscriptionWaits.perform, wake]
    split
    · exact h
    · split
      · exact ⟨h.distinct, h.shut, h.dropped, h.order⟩
      · exact h
  | proceed i =>
    have hstep := l.proceeds i
    simp only [SubscriptionWaits.perform]
    generalize l.proceed i = next at hstep ⊢
    cases hstep with
    | missing => exact h
    | advance w => exact ⟨h.distinct, h.shut, h.dropped, h.order⟩
    | unserved w => exact ⟨h.distinct, h.shut, h.dropped, h.order⟩
    | served w _ _ ref x hyields => exact h.yields hyields rfl rfl rfl rfl
  | pass time => exact ⟨h.distinct, h.shut, h.dropped, h.order⟩

end Orderly

/-! Who has the events that were taken. -/

/-- What the wait of this number took. -/
def takenBy (l : SubscriptionWaits σ) (i : Nat) : List (Nat × EventRef) :=
  (l.taken.filter fun taking => taking.1 = some i).map Prod.snd

/-- What it was given. -/
def foundBy (l : SubscriptionWaits σ) (i : Nat) : List (Nat × EventRef) :=
  (l.waiters[i]?.map Waiter.found).getD []

/-- A wait is given what it takes, and takes no more than that. -/
def Honest (l : SubscriptionWaits σ) : Prop := ∀ i, l.takenBy i = l.foundBy i

theorem Honest.congr (h : l.Honest) (htaken : m.taken = l.taken)
    (hfound : ∀ i, m.foundBy i = l.foundBy i) : m.Honest := by
  intro i
  rw [hfound i, ← h i]
  unfold takenBy
  rw [htaken]

theorem foundBy_place (hi : l.waiters[i]? = some w) (v : Waiter) (j : Nat) :
    (l.place i v).foundBy j = if i = j then v.found else l.foundBy j := by
  obtain ⟨hlt, -⟩ := List.getElem?_eq_some_iff.mp hi
  unfold foundBy place
  rw [List.getElem?_set]
  split
  · simp
  · rfl

/-- A step on which nothing is found. -/
theorem Honest.place (h : l.Honest) (hi : l.waiters[i]? = some w) {v : Waiter}
    (hfound : v.found = w.found) : (l.place i v).Honest := by
  refine h.congr rfl fun j => ?_
  rw [foundBy_place hi]
  split
  · rename_i hj
    subst hj
    unfold foundBy
    rw [hi, hfound]
    rfl
  · rfl

theorem found_of_not_ended (hwaits : w.hasEnded = false) : w.found = [] := by
  unfold Waiter.hasEnded at hwaits
  unfold Waiter.found
  split at hwaits
  · cases hwaits
  · split
    · rename_i hnot _ ref hstage
      exact absurd hstage (hnot _)
    · rfl

/-- Only a look at the queue finds anything. -/
theorem found_advance (l : SubscriptionWaits σ) (w : Waiter) : (l.advance w).found = w.found := by
  unfold advance
  split
  · rename_i hstage
    simp [Waiter.found, hstage]
  · rfl
  · rename_i hstage
    split <;> simp [Waiter.found, hstage]
  · rename_i hstage
    split <;> simp [Waiter.found, hstage]
  · rename_i hstage
    split <;> simp [Waiter.found, hstage]
  · rename_i hstage
    split <;> simp [Waiter.found, hstage]
  · rfl

theorem Honest.announce (h : l.Honest) (id : Nat) (what : Option EventRef) :
    (l.announce id what).Honest := by
  unfold SubscriptionWaits.announce
  split
  · refine h.congr rfl fun i => ?_
    unfold foundBy
    dsimp only
    rw [List.getElem?_map, Option.map_map]
    congr 2
    funext w
    dsimp only [Function.comp_apply]
    split <;> rfl
  · exact h

/-- Who comes has found nothing yet. -/
theorem Honest.join (h : l.Honest) (id : Nat) (limit : Option Duration) :
    (l.join id limit).Honest := by
  unfold SubscriptionWaits.join
  split
  · refine h.congr rfl fun i => ?_
    unfold foundBy
    rw [List.getElem?_append]
    split
    · rfl
    · rename_i hlt
      rw [List.getElem?_eq_none (Nat.le_of_not_lt hlt)]
      cases i - l.waiters.length <;> rfl
  · exact h

theorem Honest.wake (h : l.Honest) (i : Nat) : (l.wake i).Honest := by
  unfold SubscriptionWaits.wake
  split
  · exact h
  · rename_i w hi
    split
    · rename_i hstage
      refine h.place hi ?_
      simp [Waiter.found, hstage]
    · exact h

/-- Who takes an event is given that one. -/
theorem Honest.serve {ref : EventRef} {x : Exchange σ} (h : l.Honest)
    (hi : l.waiters[i]? = some w) (hstage : w.stage = .registered) :
    ({ l.place i { w with stage := .ended (some ref) } with
      exchange := x, taken := l.taken ++ [(some i, w.id, ref)] } : SubscriptionWaits σ).Honest := by
  intro j
  have hold := h j
  have hnew := foundBy_place hi { w with stage := .ended (some ref) } j
  unfold takenBy at hold ⊢
  rw [List.filter_append, List.map_append, hold]
  refine Eq.trans ?_ hnew.symm
  by_cases hj : i = j
  · subst hj
    have hbefore : l.foundBy i = [] := by
      unfold foundBy
      rw [hi]
      exact found_of_not_ended (by simp [Waiter.hasEnded, hstage])
    rw [if_pos rfl, hbefore]
    simp [Waiter.found]
  · rw [if_neg hj]
    simp [hj]

theorem honest_perform (h : l.Honest) (move : Move σ) : (l.perform move).Honest := by
  cases move with
  | subscribe conf => exact h
  | queue id ref =>
    simp only [perform, enqueue]
    split <;> exact h
  | tryNext id =>
    simp only [perform]
    rcases l.tryNext_cases id with hsame | ⟨ref, x, -, htaken⟩
    · rwa [hsame]
    · rw [htaken]
      intro i
      refine Eq.trans ?_ (h i)
      simp [takenBy]
  | shut id =>
    simp only [perform, shut]
    split <;> exact h
  | clear id =>
    simp only [perform, clear]
    split <;> exact h
  | announce id what => exact h.announce id what
  | wait id limit => exact h.join id limit
  | wake i => exact h.wake i
  | proceed i =>
    have hstep := l.proceeds i
    simp only [perform]
    generalize l.proceed i = next at hstep ⊢
    cases hstep with
    | missing => exact h
    | advance w hi => exact h.place hi (l.found_advance w)
    | unserved w hi hstage =>
      refine h.place hi ?_
      simp [Waiter.found, hstage]
    | served w hi hstage => exact h.serve hi hstage
  | pass time => exact h

/-! Where no task can run any more. -/

theorem Settled.closing (h : l.Settled) : l.closing = [] := by
  apply List.eq_nil_iff_forall_not_mem.mpr
  intro id hid
  have hsame := congrArg (fun m => m.closing.length) (h (.clear id) rfl)
  simp only [perform, clear, if_pos hid, List.length_erase_of_mem hid] at hsame
  have hpos := List.length_pos_of_mem hid
  omega

theorem Settled.unannounced (h : l.Settled) : l.unannounced = [] := by
  apply List.eq_nil_iff_forall_not_mem.mpr
  intro entry hentry
  have hsame := congrArg (fun m => m.unannounced.length) (h (.announce entry.1 entry.2) rfl)
  simp only [perform, announce, if_pos hentry, List.length_erase_of_mem hentry] at hsame
  have hpos := List.length_pos_of_mem hentry
  omega

theorem Settled.still (h : l.Settled) (hi : l.waiters[i]? = some w)
    (hstage : w.stage ≠ .registered) : l.advance w = w := by
  have hsame := congrArg (fun m => m.waiters[i]?) (h (.proceed i) rfl)
  simp only [perform, proceed_advance hi hstage, waiters_place hi, hi] at hsame
  exact Option.some.inj hsame

/-- Who still waits there sleeps, was not called, and has time left. -/
theorem Settled.asleep (h : l.Settled) (hi : l.waiters[i]? = some w) (hwaits : w.hasEnded = false) :
    w.stage = .asleep ∧ w.called = false ∧ l.isDue w = false := by
  have hregistered : w.stage ≠ .registered := by
    intro hstage
    have hsame := congrArg (fun m => (m.waiters[i]?).map Waiter.stage) (h (.proceed i) rfl)
    simp only [perform] at hsame
    rcases hnext : l.exchange.next w.id with ⟨_ | ref, x⟩
    · rw [proceed_unserved hi hstage hnext, waiters_place hi, hi, Option.map_some, Option.map_some,
        hstage] at hsame
      cases hsame
    · rw [proceed_served hi hstage hnext] at hsame
      dsimp only at hsame
      rw [waiters_place hi, hi, Option.map_some, Option.map_some, hstage] at hsame
      cases hsame
  have hstill := congrArg Waiter.stage (h.still hi hregistered)
  unfold advance at hstill
  cases hstage : w.stage with
  | arrived => simp [hstage] at hstill
  | registered => exact absurd hstage hregistered
  | unserved =>
    simp only [hstage] at hstill
    split at hstill <;> cases hstill
  | watching =>
    simp only [hstage] at hstill
    split at hstill <;> cases hstill
  | uncalled =>
    simp only [hstage] at hstill
    split at hstill <;> cases hstill
  | asleep =>
    simp only [hstage] at hstill
    split at hstill
    · cases hstill
    · rename_i hquiet
      rw [Bool.not_eq_true, Bool.or_eq_false_iff] at hquiet
      exact ⟨rfl, hquiet.1, hquiet.2⟩
  | ended found => simp [Waiter.hasEnded, hstage] at hwaits

/-! How a wait comes to leave with nothing. -/

/-- A wait moves on by its own steps only, but for being woken. -/
theorem stage_perform {v : Waiter} {move : Move σ} (hi : l.waiters[i]? = some w)
    (hv : (l.perform move).waiters[i]? = some v) (hmove : move ≠ .proceed i) :
    v.stage = w.stage ∨ v.stage = .watching := by
  have hsame (h : l.waiters[i]? = some v) : v.stage = w.stage := by
    rw [hi, Option.some.injEq] at h
    rw [h]
  have hplaced {j : Nat} {u : Waiter} (hj : j ≠ i) (hplace : (l.place j u).waiters[i]? = some v) :
      v.stage = w.stage := by
    unfold place at hplace
    rw [List.getElem?_set_ne hj] at hplace
    exact hsame hplace
  cases move with
  | announce id what =>
    left
    simp only [perform, announce] at hv
    split at hv
    · rw [List.getElem?_map, hi, Option.map_some, Option.some.injEq] at hv
      rw [← hv]
      split <;> rfl
    · exact hsame hv
  | wait id limit =>
    left
    simp only [perform, join] at hv
    split at hv
    · rw [List.getElem?_append_left (List.getElem?_eq_some_iff.mp hi).1] at hv
      exact hsame hv
    · exact hsame hv
  | wake j =>
    simp only [perform, wake] at hv
    split at hv
    · exact .inl (hsame hv)
    · rename_i u hj
      split at hv
      · by_cases hne : j = i
        · subst hne
          rw [waiters_place hj, Option.some.injEq] at hv
          exact .inr (by rw [← hv])
        · exact .inl (hplaced hne hv)
      · exact .inl (hsame hv)
  | proceed j =>
    have hj : j ≠ i := fun heq => hmove (heq ▸ rfl)
    left
    have hstep := l.proceeds j
    simp only [perform] at hv
    generalize l.proceed j = next at hstep hv
    cases hstep with
    | missing => exact hsame hv
    | advance u => exact hplaced hj hv
    | unserved u => exact hplaced hj hv
    | served u => exact hplaced hj hv
  | _ =>
    rw [l.waiters_perform rfl] at hv
    exact .inl (hsame hv)

/-- A wait leaves with nothing when it finds its subscription closed, or at its deadline. Then each
event that is queued was announced since the wait last looked for that, or is still to be. -/
theorem leaves_advance (halert : l.Alert w) (hwaits : w.hasEnded = false)
    (hended : (l.advance w).stage = .ended none) :
    l.exchange.dispatcher.isOpen w.id = false ∨ l.isDue w = true ∧ l.Quiet w.id w.calls := by
  unfold advance at hended
  cases hstage : w.stage with
  | unserved =>
    simp only [hstage] at hended
    split at hended
    · cases hended
    · rename_i hclosed
      exact .inl (Bool.eq_false_iff.mpr hclosed)
  | uncalled =>
    simp only [hstage] at hended
    split at hended
    · rename_i hdue
      exact .inr ⟨hdue, halert.quiet (by rw [hstage]; rfl)⟩
    · cases hended
  | watching =>
    simp only [hstage] at hended
    split at hended <;> cases hended
  | asleep =>
    simp only [hstage] at hended
    split at hended
    · cases hended
    · cases hstage.symm.trans hended
  | ended found => simp [Waiter.hasEnded, hstage] at hwaits
  | _ => simp [hstage] at hended

theorem leaves_perform {v : Waiter} (halert : l.Alert w) (move : Move σ)
    (hi : l.waiters[i]? = some w) (hwaits : w.hasEnded = false)
    (hv : (l.perform move).waiters[i]? = some v) (hended : v.stage = .ended none) :
    l.exchange.dispatcher.isOpen w.id = false ∨ l.isDue w = true ∧ l.Quiet w.id w.calls := by
  by_cases hmove : move = .proceed i
  · subst hmove
    have hstep := l.proceeds i
    simp only [perform] at hv
    generalize l.proceed i = next at hstep hv
    cases hstep with
    | missing =>
      obtain rfl := Option.some.inj (hi.symm.trans hv)
      simp [Waiter.hasEnded, hended] at hwaits
    | advance u hu =>
      obtain rfl := Option.some.inj (hu.symm.trans hi)
      rw [waiters_place hi, Option.some.injEq] at hv
      rw [← hv] at hended
      exact leaves_advance halert hwaits hended
    | unserved u hu =>
      rw [waiters_place hu, Option.some.injEq] at hv
      rw [← hv] at hended
      cases hended
    | served u hu =>
      dsimp only at hv
      rw [waiters_place hu, Option.some.injEq] at hv
      rw [← hv] at hended
      cases hended
  · exfalso
    rcases stage_perform hi hv hmove with hstage | hstage
    · rw [hended] at hstage
      simp [Waiter.hasEnded, ← hstage] at hwaits
    · cases hended.symm.trans hstage

/-! What was begun comes to an end. -/

/-- How many steps a wait has before it at most, if nothing else happens. One that was called
registers again, and looks again at all it has looked at. -/
def stepsOf (l : SubscriptionWaits σ) (w : Waiter) : Nat :=
  match w.stage, w.called with
  | .ended _, _ => 0
  | .arrived, _ => 5
  | .registered, false => 4
  | .unserved, false => 3
  | .watching, false => 2
  | .uncalled, false => 1
  | .asleep, false => if l.isDue w then 3 else 0
  | .registered, true => 8
  | .unserved, true => 7
  | .watching, true => 6
  | .uncalled, true => 8
  | .asleep, true => 7

theorem stepsOf_le (l : SubscriptionWaits σ) (w : Waiter) : l.stepsOf w ≤ 8 := by
  unfold stepsOf
  split <;> (try split) <;> omega

theorem stepsOf_advance (hmoves : l.advance w ≠ w) : l.stepsOf (l.advance w) < l.stepsOf w := by
  obtain ⟨id, deadline, stage, calls⟩ := w
  cases hdue : deadline.any (fun due => due ≤ l.now) <;>
    cases hopen : l.exchange.dispatcher.isOpen id <;>
    cases stage <;> cases calls <;>
    simp_all [advance, stepsOf, isDue, Waiter.called]

theorem stepsOf_unserved (hstage : w.stage = .registered) :
    l.stepsOf { w with stage := .unserved } < l.stepsOf w := by
  cases hcalls : w.calls <;> simp [stepsOf, Waiter.called, hstage, hcalls]

theorem stepsOf_served (hstage : w.stage = .registered) (found : Option EventRef) :
    l.stepsOf { w with stage := .ended found } < l.stepsOf w := by
  cases hcalls : w.calls <;> simp [stepsOf, Waiter.called, hstage, hcalls]

/-- The steps that all waits together have before them. -/
def stepsLeft (l : SubscriptionWaits σ) : Nat := (l.waiters.map l.stepsOf).sum

theorem stepsLeft_le (l : SubscriptionWaits σ) : l.stepsLeft ≤ 8 * l.waiters.length := by
  have hsum : l.stepsLeft ≤ (l.waiters.map l.stepsOf).length • 8 := by
    refine List.sum_le_card_nsmul _ 8 fun n hn => ?_
    obtain ⟨w, -, rfl⟩ := List.mem_map.mp hn
    exact l.stepsOf_le w
  rw [List.length_map, smul_eq_mul] at hsum
  omega

theorem stepsLeft_place (hi : l.waiters[i]? = some w) {v : Waiter}
    (hless : l.stepsOf v < l.stepsOf w) : (l.place i v).stepsLeft < l.stepsLeft := by
  obtain ⟨hlt, rfl⟩ := List.getElem?_eq_some_iff.mp hi
  obtain ⟨before, after, hwaiters, -, hset⟩ :
      ∃ before after, l.waiters = before ++ l.waiters[i] :: after ∧ before.length = i ∧
        l.waiters.set i v = before ++ v :: after := List.exists_of_set hlt
  have hplaced : (l.place i v).stepsLeft = ((before ++ v :: after).map l.stepsOf).sum := by
    rw [← hset]
    rfl
  have hsum : l.stepsLeft = ((before ++ l.waiters[i] :: after).map l.stepsOf).sum := by
    rw [← hwaiters]
    rfl
  rw [hplaced, hsum]
  simp only [List.map_append, List.map_cons, List.sum_append, List.sum_cons]
  omega

/-- What is left to do: the announcements count most, since each may call all who wait. -/
def effort (l : SubscriptionWaits σ) : Nat :=
  (2 * l.closing.length + l.unannounced.length) * (8 * l.waiters.length + 1) + l.stepsLeft

theorem effort_clear (hid : id ∈ l.closing) : (l.clear id).effort < l.effort := by
  have hless : 2 * (l.closing.erase id).length + (l.unannounced.length + 1) + 1 =
      2 * l.closing.length + l.unannounced.length := by
    have hpos := List.length_pos_of_mem hid
    rw [List.length_erase_of_mem hid]
    omega
  unfold clear
  rw [if_pos hid]
  unfold effort stepsLeft
  dsimp only
  rw [List.length_cons, ← hless, Nat.succ_mul (_ + _)]
  refine Nat.add_lt_add_right ?_ _
  omega

/-- All who wait may have to start anew. -/
theorem effort_announce {what : Option EventRef} (hdue : (id, what) ∈ l.unannounced) :
    (l.announce id what).effort < l.effort := by
  have hlength : (l.announce id what).waiters.length = l.waiters.length := by
    unfold announce
    rw [if_pos hdue]
    exact List.length_map _
  have hless :
      2 * (l.announce id what).closing.length + (l.announce id what).unannounced.length + 1 =
        2 * l.closing.length + l.unannounced.length := by
    have hpos := List.length_pos_of_mem hdue
    unfold announce
    rw [if_pos hdue]
    dsimp only
    rw [List.length_erase_of_mem hdue]
    omega
  have hsteps := (l.announce id what).stepsLeft_le
  unfold effort
  rw [← hless, hlength, Nat.succ_mul (_ + _)]
  omega

theorem effort_place (hi : l.waiters[i]? = some w) {v : Waiter}
    (hless : l.stepsOf v < l.stepsOf w) : (l.place i v).effort < l.effort := by
  have hlength : (l.place i v).waiters.length = l.waiters.length := List.length_set
  unfold effort
  rw [hlength]
  exact Nat.add_lt_add_left (stepsLeft_place hi hless) _

theorem effort_perform {move : Move σ} (hgoes : move.goesOn = true) (hmoves : l.perform move ≠ l) :
    (l.perform move).effort < l.effort := by
  cases move with
  | clear id =>
    refine effort_clear ?_
    by_contra hid
    exact hmoves (if_neg hid)
  | announce id what =>
    refine effort_announce ?_
    by_contra hdue
    exact hmoves (if_neg hdue)
  | proceed i =>
    have hstep := l.proceeds i
    simp only [perform] at hmoves ⊢
    generalize l.proceed i = next at hstep hmoves ⊢
    cases hstep with
    | missing => exact absurd rfl hmoves
    | advance w hi =>
      refine effort_place hi (stepsOf_advance fun hsame => hmoves ?_)
      rw [hsame, place_self hi]
    | unserved w hi hstage => exact effort_place hi (stepsOf_unserved hstage)
    | served w hi hstage ref => exact effort_place hi (stepsOf_served hstage (some ref))
  | _ => cases hgoes

/-- Moves by which tasks go on with what was begun, each of which does something. -/
def Busy : SubscriptionWaits σ → List (Move σ) → Prop
  | _, [] => True
  | l, move :: rest => move.goesOn = true ∧ l.perform move ≠ l ∧ (l.perform move).Busy rest

/-- Left alone, tasks cannot go on for ever. -/
theorem Busy.length_le {moves : List (Move σ)} (h : l.Busy moves) : moves.length ≤ l.effort := by
  induction moves generalizing l with
  | nil => exact Nat.zero_le _
  | cons move rest ih =>
    obtain ⟨hgoes, hmoves, hrest⟩ := h
    exact (ih hrest).trans_lt (effort_perform hgoes hmoves)

/-- They can go on as long as they have not come to where none can run any more. -/
theorem busy_settled (l : SubscriptionWaits σ) : ∃ moves, l.Busy moves ∧ (l.run moves).Settled := by
  induction heffort : l.effort using Nat.strong_induction_on generalizing l with
  | _ n ih =>
    by_cases hsettled : l.Settled
    · exact ⟨[], trivial, hsettled⟩
    · unfold Settled at hsettled
      push Not at hsettled
      obtain ⟨move, hgoes, hmoves⟩ := hsettled
      obtain ⟨rest, hrest, hend⟩ := ih _ (heffort ▸ effort_perform hgoes hmoves) _ rfl
      exact ⟨move :: rest, ⟨hgoes, hmoves, hrest⟩, hend⟩

/-! The whole run. -/

/-- What everybody can depend on at any point. -/
structure Dependable (l : SubscriptionWaits σ) : Prop where
  /-- To dispatch an event and to close a subscription are moves that can come next. -/
  operations : (∀ ref client, l.Brings (Exchange.publish ref l.exchange client).2.1) ∧
    ∀ id, l.Brings (l.exchange.unsubscribe id)
  /-- Left alone, tasks come to where none can run any more, and cannot go on for ever. -/
  settles : (∃ moves, l.Busy moves ∧ (l.run moves).Settled) ∧
    ∃ bound, ∀ moves, l.Busy moves → moves.length ≤ bound
  /-- Who still waits where no task can run waits for good reason. -/
  blocked : l.Settled → ∀ w ∈ l.waiters, w.hasEnded = false →
    l.exchange.dispatcher.isOpen w.id = true ∧ l.exchange.dispatcher.queue w.id = [] ∧
      l.isDue w = false
  /-- Each event that was queued was taken once, was released once or is still queued, in order. -/
  order : ∀ id, entriesOf id l.queued =
    entriesOf id (l.taken.map Prod.snd) ++ entriesOf id l.dropped ++ l.exchange.dispatcher.queue id
  /-- Events are released only when their subscription is closed. -/
  released : ∀ id, entriesOf id l.dropped ≠ [] → l.exchange.dispatcher.isOpen id = false
  /-- What a wait took is what it was given, and that is one event at most. -/
  takers : ∀ i, l.takenBy i = l.foundBy i
  /-- A wait leaves with nothing only from a closed subscription or at its deadline. Then each event
  that is queued has an announcement of its own, which is still to come or came since the wait last
  looked for one: whoever looks and finds that it was called registers anew. -/
  leaves : ∀ (move : Move σ) (i : Nat) (w v : Waiter), l.waiters[i]? = some w →
    w.hasEnded = false → (l.perform move).waiters[i]? = some v → v.stage = .ended none →
      l.exchange.dispatcher.isOpen w.id = false ∨ l.isDue w = true ∧ l.Quiet w.id w.calls

/-- No wake-up is lost, whatever tasks do in whatever order. -/
theorem run_dependable (events : EventStore) (capacity : Nat) (counters : Counters)
    (now : Instant) (moves : List (Move σ)) :
    ((empty events capacity counters now).run moves).Dependable := by
  have hrun : let l := (empty events capacity counters now).run moves
      l.Orderly ∧ l.Honest ∧ ∀ w ∈ l.waiters, l.Alert w := by
    induction moves using List.reverseRecOn with
    | nil => exact ⟨empty_orderly events capacity counters now, fun _ => rfl, nofun⟩
    | append_singleton before move ih =>
      obtain ⟨horderly, hhonest, halert⟩ := ih
      rw [run_append]
      exact ⟨horderly.perform move, honest_perform hhonest move, alert_perform halert move⟩
  obtain ⟨horderly, hhonest, halert⟩ := hrun
  generalize (empty events capacity counters now).run moves = l at horderly hhonest halert
  constructor
  · exact ⟨l.brings_publish, l.brings_unsubscribe⟩
  · exact ⟨l.busy_settled, l.effort, fun moves h => h.length_le⟩
  · intro hsettled w hw hwaits
    obtain ⟨i, hi⟩ := List.getElem?_of_mem hw
    obtain ⟨hasleep, hcalled, hdue⟩ := hsettled.asleep hi hwaits
    have hquiet := (halert w hw).quiet (by rw [hasleep]; rfl)
    have hsecure := (halert w hw).secure (by rw [hasleep]; rfl)
    have hnone : entriesOf w.id l.unannounced ++ w.calls = [] := by
      rw [hsettled.unannounced, Waiter.calls_of_not_called hcalled]
      rfl
    unfold Quiet at hquiet
    unfold Secure at hsecure
    rw [hnone, List.subperm_nil, List.map_eq_nil_iff] at hquiet
    simp only [hnone, hsettled.closing, List.not_mem_nil, or_false] at hsecure
    exact ⟨hsecure, hquiet, hdue⟩
  · exact horderly.order
  · exact fun id hid => (horderly.dropped id hid).2.1
  · exact hhonest
  · intro move i w v hi
    exact leaves_perform (halert w (List.mem_of_getElem? hi)) move hi

/-- Before the first of at most one subscription is made, with one event about. -/
def withEvent : SubscriptionWaits Unit :=
  empty ((EventStore.new 1 0).freeze 0 none { kind := .data }).2 1 {} 0

/-- An event wakes who waits. -/
example :
    let asleep := (withEvent.run [.subscribe {}, .wait 1 none]).run (turn 0)
    let woken := (asleep.run [.queue 1 0, .announce 1 (some 0), .proceed 0, .proceed 0]).run (turn 0)
    woken.waiters.map Waiter.stage = [.ended (some 0)] := by
  decide

/-- An event is released with its subscription, and is not taken. An event that is queued at the
deadline of a wait may stay in the queue, before it is announced and also when that comes after the
wait has looked for an announcement. -/
theorem events_left :
    let closed := withEvent.run
      [.subscribe {}, .queue 1 0, .announce 1 (some 0), .shut 1, .clear 1, .announce 1 none]
    let asleep := (withEvent.run [.subscribe {}, .wait 1 (some 5)]).run (turn 0)
    let early := asleep.run [.pass 5, .queue 1 0, .proceed 0, .proceed 0, .proceed 0]
    let late := asleep.run
      [.pass 5, .proceed 0, .proceed 0, .queue 1 0, .announce 1 (some 0), .proceed 0]
    (closed.queued = [(1, 0)] ∧ closed.taken = [] ∧ closed.exchange.dispatcher.queue 1 = []) ∧
    (early.waiters.map Waiter.stage = [.ended none] ∧
      early.exchange.dispatcher.isOpen 1 = true ∧
      early.exchange.dispatcher.queue 1 = [0] ∧ early.unannounced = [(1, some 0)]) ∧
    (late.waiters.map Waiter.stage = [.ended none] ∧
      late.exchange.dispatcher.isOpen 1 = true ∧
      late.exchange.dispatcher.queue 1 = [0] ∧ late.unannounced = []) := by
  decide

end SubscriptionWaits

end HomeGateway
