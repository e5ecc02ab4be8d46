import Mathlib
import HomeGateway.Proofs.Device.History
import HomeGateway.Proofs.Hub.Tallies

/-!
The statistics of devices over whole runs. Every payload and every command of a known device leaves
its mark on that device, and nothing else does. The failures of all devices are the events that
were dropped, but for the events of commands that found no slot: those are dropped over all only.
-/

namespace HomeGateway

variable {κ σ : Type}

namespace Hub

variable {hub : Hub σ} {addr : DeviceAddr} {payload : Payload} {client : σ}

/-! What is marked. -/

/-- The mark that a payload leaves, with the position of the device. -/
def receiptMark? (hub : Hub σ) (addr : DeviceAddr) (payload : Payload) (client : σ) :
    Option (Nat × Mark) :=
  match (hub.register addr).1, (hub.receive addr payload.bytes payload.timestamp client).1 with
  | .ok index, .ok _ => some (index, .received payload)
  | .ok index, .error (.error (.ingest cause)) => some (index, .failed cause)
  | _, _ => none

/-- The mark that a command leaves, with the position of the device. -/
def orderMark? (hub : Hub σ) (addr : DeviceAddr) (endpoint : Nat) (value : DataValue)
    (client : σ) : Option (Nat × Mark) :=
  match hub.registry.lookup? addr, (hub.command addr endpoint value client).1 with
  | some (index, _), .ok frame => some (index, .sent frame)
  | some (index, _), .error (.ingest cause) => some (index, .failed cause)
  | _, _ => none

theorem absorb_marked {index : Nat} {device : Device}
    (hdevice : hub.registry.devices[index]? = some device) (payload : Payload) :
    hub.registry.Marked
      (some (index, .ofReceipt payload (hub.absorb index device payload).1))
      (hub.absorb index device payload).2.registry := by
  unfold Hub.absorb
  split
  · rename_i cause events hingest
    exact Registry.marked_update hdevice (.failed cause)
  · rename_i ref endpoint events hingest
    have hmarked := Registry.marked_update hdevice (.received payload)
    dsimp only
    split
    · rw [retain_registry]
      exact hmarked.retain index endpoint ref
    · exact hmarked

theorem receive_marked (hub : Hub σ) (addr : DeviceAddr) (payload : Payload) (client : σ) :
    hub.registry.Marked (hub.receiptMark? addr payload client)
      (hub.receive addr payload.bytes payload.timestamp client).2.1.registry := by
  have hjoined (i : Nat) :
      (hub.register addr).2.registry.statsAt i = hub.registry.statsAt i := by
    rw [register_registry]
    exact hub.registry.register_statsAt addr hub.now i
  unfold receiptMark? Hub.receive
  rcases hub.intake_cases addr payload with
    ⟨cause, hregister, hcase⟩ | ⟨hregister, hcase⟩ |
      ⟨index, device, hregister, hdevice, result, next, habsorb, hcase⟩
  · rw [hcase, hregister]
    exact (Registry.Marked.refl _).after hjoined
  · rw [hcase, hregister]
    exact (Registry.Marked.refl _).after hjoined
  · have hmarked := (absorb_marked hdevice payload).after hjoined
    rw [habsorb] at hmarked
    rw [hcase, hregister]
    cases result with
    | error cause => exact hmarked
    | ok made => exact hmarked

theorem order_marked (hub : Hub σ) (addr : DeviceAddr) (endpoint : Nat) (value : DataValue) :
    hub.registry.Marked
      (match hub.registry.lookup? addr, (hub.order addr endpoint value).1 with
        | some (index, _), .ok frame => some (index, .sent frame)
        | some (index, _), .error (.ingest cause) => some (index, .failed cause)
        | _, _ => none)
      (hub.order addr endpoint value).2.2.registry := by
  unfold Hub.order
  cases hlookup : hub.registry.lookup? addr with
  | none => exact .refl _
  | some known =>
    obtain ⟨index, device⟩ := known
    obtain ⟨-, hdevice⟩ := Registry.locate?_of_lookup? hlookup
    dsimp only
    cases hencode : device.encode endpoint value with
    | ok made =>
      dsimp only
      rw [report_registry]
      exact Registry.marked_update hdevice (.sent made.1)
    | error cause =>
      dsimp only
      rw [report_registry]
      exact Registry.marked_update hdevice (.failed cause)

theorem command_marked (hub : Hub σ) (addr : DeviceAddr) (endpoint : Nat) (value : DataValue)
    (client : σ) :
    hub.registry.Marked (hub.orderMark? addr endpoint value client)
      (hub.command addr endpoint value client).2.1.registry := by
  have hordered := hub.order_marked addr endpoint value
  unfold orderMark? Hub.command
  generalize hub.order addr endpoint value = ordered at hordered ⊢
  obtain ⟨result, made, next⟩ := ordered
  cases made with
  | none => exact hordered
  | some ref => exact hordered

end Hub

namespace HubInUse

/-- What an operation marks, and at which position. -/
def Deed.mark? (d : Deed κ σ) : Option (Nat × Mark) :=
  match d.operation with
  | .receive addr payload => d.before.hub.receiptMark? addr payload d.before.client
  | .command addr endpoint value =>
    d.before.hub.orderMark? addr endpoint value d.before.client
  | _ => none

/-- Only payloads and commands leave marks. -/
theorem operate_marked (confOf : Nat → κ → SubscriptionConf σ) (e : HubInUse κ σ)
    (operation : HubOperation κ) :
    e.hub.registry.Marked (Deed.mark? ⟨e, operation⟩)
      (e.operate confOf operation).hub.registry := by
  rw [operate_registry]
  cases operation with
  | register addr =>
    have hjoined := e.hub.registry.marked_register addr e.hub.now
    rw [← Hub.register_registry] at hjoined
    exact hjoined
  | receive addr payload => exact e.hub.receive_marked addr payload e.client
  | command addr endpoint value => exact e.hub.command_marked addr endpoint value e.client
  | _ => exact .refl _

/-! The history of a device. -/

/-- What an operation marks on the device at a position. -/
def Deed.markOn? (index : Nat) (d : Deed κ σ) : Option Mark :=
  d.mark?.bind fun (i, m) => if i = index then some m else none

/-- What some operations marked on the device at a position, in order. -/
def marks (deeds : List (Deed κ σ)) (index : Nat) : List Mark :=
  deeds.filterMap (Deed.markOn? index)

/-- The payloads of the device at a position that became events. -/
def payloads (deeds : List (Deed κ σ)) (index : Nat) : List Payload :=
  (marks deeds index).filterMap Mark.payload?

/-- The frames that commands to the device at a position were encoded to. -/
def frames (deeds : List (Deed κ σ)) (index : Nat) : List (List UInt8) :=
  (marks deeds index).filterMap Mark.frame?

/-- The failures of payloads of the device at a position, and of commands to it. -/
def causes (deeds : List (Deed κ σ)) (index : Nat) : List IngestError :=
  (marks deeds index).filterMap Mark.cause?

/-- The statistics of every device tell what some operations did to it, and no more. -/
def Recorded (e : HubInUse κ σ) (deeds : List (Deed κ σ)) : Prop :=
  ∀ index, (e.hub.registry.statsAt index).Tells (payloads deeds index) (frames deeds index)
    (causes deeds index)

theorem Recorded.device {e : HubInUse κ σ} {deeds : List (Deed κ σ)} (h : e.Recorded deeds)
    {index : Nat} {d : Device} (hdevice : e.hub.registry.devices[index]? = some d) :
    d.stats.Tells (payloads deeds index) (frames deeds index) (causes deeds index) := by
  rw [← Registry.statsAt_of_device hdevice]
  exact h index

theorem operate_statsAt (confOf : Nat → κ → SubscriptionConf σ) (e : HubInUse κ σ)
    (operation : HubOperation κ) (index : Nat) :
    (e.operate confOf operation).hub.registry.statsAt index =
      match Deed.markOn? index ⟨e, operation⟩ with
      | some m => (e.hub.registry.statsAt index).mark m
      | none => e.hub.registry.statsAt index := by
  rw [(e.operate_marked confOf operation).stats index]
  unfold Deed.markOn?
  cases Deed.mark? ⟨e, operation⟩ with
  | none => rfl
  | some mark => by_cases hi : mark.1 = index <;> simp [hi]

/-- One more operation. -/
theorem Recorded.operate {e : HubInUse κ σ} {deeds : List (Deed κ σ)} (h : e.Recorded deeds)
    (confOf : Nat → κ → SubscriptionConf σ) (operation : HubOperation κ) :
    (e.operate confOf operation).Recorded (deeds ++ [⟨e, operation⟩]) := by
  intro index
  have hbefore := h index
  have hmarks : marks (deeds ++ [⟨e, operation⟩]) index =
      marks deeds index ++ (Deed.markOn? index ⟨e, operation⟩).toList := by
    rw [marks, List.filterMap_append]
    cases hmark : Deed.markOn? index ⟨e, operation⟩ <;> simp [marks, hmark]
  rw [operate_statsAt, payloads, frames, causes, hmarks]
  simp only [List.filterMap_append]
  cases Deed.markOn? index ⟨e, operation⟩ with
  | none => simpa [payloads, frames, causes] using hbefore
  | some m =>
    have hafter := hbefore.mark m
    cases m <;> exact hafter

/-- Flags stay. -/
def Flagged (e later : HubInUse κ σ) : Prop :=
  ∀ index, (later.hub.registry.statsAt index).flags.contains
    (e.hub.registry.statsAt index).flags = true

theorem flagged_moves (confOf : Nat → κ → SubscriptionConf σ) :
    MovesBy confOf (Flagged : HubInUse κ σ → HubInUse κ σ → Prop) where
  refl e index := ErrorFlags.contains_refl _
  trans hfirst hlater index := ErrorFlags.contains_trans (hlater index) (hfirst index)
  operate e operation index := by
    rw [operate_statsAt]
    split
    · exact DeviceStats.mark_contains _ _
    · exact ErrorFlags.contains_refl _
  pin e held index := ErrorFlags.contains_refl _
  unpin e held pins index := ErrorFlags.contains_refl _

variable {config : HubConfig} {capability? : DeviceType → Option Capability} {now : UInt32}
  {hub : Hub σ}

/-- No device is there at first. -/
theorem start_recorded (hnew : Hub.new config capability? now = .ok hub) (client : σ) :
    (start hub client : HubInUse κ σ).Recorded [] := by
  intro index
  rw [Hub.new_eq hnew]
  exact DeviceStats.tells_nothing

theorem Path.recorded (hnew : Hub.new config capability? now = .ok hub) {client : σ}
    {confOf : Nat → κ → SubscriptionConf σ} {deeds : List (Deed κ σ)} {e : HubInUse κ σ}
    (h : Path confOf (HubInUse.start hub client) deeds e) : e.Recorded deeds := by
  induction h with
  | start => exact start_recorded hnew client
  | operate _ operation ih => exact ih.operate confOf operation
  | pin _ _ _ ih => exact ih
  | unpin _ _ ih => exact ih

/-- Whatever clients do, the statistics of a device are its own history: no operation moves those
of a device without a mark on it, and no flag that was set is cleared. -/
theorem states_recorded (hnew : Hub.new config capability? now = .ok hub) (client : σ)
    (confOf : Nat → κ → SubscriptionConf σ) :
    (∀ deeds e, Path confOf (HubInUse.start hub client) deeds e → ∀ index (d : Device),
        e.hub.registry.devices[index]? = some d →
          d.stats.Tells (payloads deeds index) (frames deeds index) (causes deeds index)) ∧
      (∀ actions, ∀ e ∈ states confOf actions (start hub client),
        ∃ deeds, Path confOf (HubInUse.start hub client) deeds e ∧ e.Recorded deeds) ∧
      (∀ (e : HubInUse κ σ) (operation : HubOperation κ),
        e.hub.registry.Marked (Deed.mark? ⟨e, operation⟩)
          (e.operate confOf operation).hub.registry) ∧
      ∀ actions, (states confOf actions (start hub client)).Pairwise Flagged := by
  refine ⟨?_, ?_, operate_marked confOf, ?_⟩
  · intro deeds e hpath index d hdevice
    exact (hpath.recorded hnew).device hdevice
  · intro actions e he
    obtain ⟨deeds, hpath⟩ := states_path confOf actions _ e he
    exact ⟨deeds, hpath, hpath.recorded hnew⟩
  · intro actions
    exact states_ordered (flagged_moves confOf) actions _

/-- A board on the bus takes a command. The gateway's own board sends a temperature and then no
number, and takes no command. -/
theorem states_recorded_both :
    ∃ hub : Hub Unit, Hub.new {} Builtin.capability? 0 = .ok hub ∧
      let run := states (fun _ (conf : SubscriptionConf Unit) => conf)
        [.operate (.register (.bus ⟨24⟩)),
          .operate (.command (.bus ⟨24⟩) 0 (.digital .digitalOut ⟨1, 3⟩)),
          .operate (.receive (.onBoard .nucleoF429zi) { bytes := [0, 0, 200, 65], timestamp := 0 }),
          .operate
            (.receive (.onBoard .nucleoF429zi) { bytes := [0, 0, 192, 127], timestamp := 0 }),
          .operate (.command (.onBoard .nucleoF429zi) 0 (.rssi ⟨0⟩))]
        (start hub ())
      ∃ e ∈ run, e.hub.registry.devices.map Device.stats =
          [{ sent := 1, sentBytes := 8 },
            { received := 1, receivedBytes := 4, failed := 2, flags := ⟨36⟩ }] ∧
        ∃ deeds, Path (fun _ conf => conf) (start hub ()) deeds e ∧ e.Recorded deeds := by
  refine ⟨_, rfl, ?_⟩
  intro run
  have hlast := List.mem_of_getElem? (l := run) (i := 5) rfl
  refine ⟨_, hlast, rfl, ?_⟩
  exact (@states_recorded _ _ {} Builtin.capability? 0 _ rfl () _).2.1 _ _ hlast

end HubInUse

/-! The failures of all devices. -/

namespace Registry

/-- The failures of all devices together, modulo the size of a word. -/
def failures (r : Registry) : UInt32 := (r.devices.map fun d => d.stats.failed).sum

/-- Positions where no device is add nothing. -/
theorem failures_eq {r : Registry} {n : Nat} (hn : r.devices.length ≤ n) :
    r.failures = ∑ i ∈ Finset.range n, (r.statsAt i).failed := by
  have hblank (i : Nat) (hi : r.devices.length ≤ i) : (r.statsAt i).failed = 0 := by
    rw [statsAt, List.getElem?_eq_none hi]
    rfl
  rw [Finset.eventually_constant_sum hblank hn, Finset.sum_range, failures,
    ← Fin.sum_univ_fun_getElem]
  refine Finset.sum_congr rfl fun i _ => ?_
  rw [statsAt_of_device (List.getElem?_eq_getElem i.isLt)]

/-- A mark of a failure is one more failure of all devices. -/
theorem Marked.failures {r next : Registry} {mark? : Option (Nat × Mark)}
    (h : r.Marked mark? next) (hjoined : r.devices.length ≤ next.devices.length) :
    next.failures =
      r.failures + UInt32.ofNat (mark?.any fun mark => mark.2.cause?.isSome).toNat := by
  rw [failures_eq le_rfl, failures_eq hjoined]
  cases mark? with
  | none =>
    rw [Finset.sum_congr rfl fun i _ => congrArg DeviceStats.failed (h.stats i)]
    exact (UInt32.add_zero _).symm
  | some mark =>
    obtain ⟨index, m⟩ := mark
    have hone (i : Nat) : (next.statsAt i).failed =
        (r.statsAt i).failed + if index = i then UInt32.ofNat m.cause?.isSome.toNat else 0 := by
      rw [h.stats i]
      dsimp only
      by_cases hi : index = i
      · rw [if_pos hi, if_pos hi]
        cases m with
        | failed cause => rfl
        | received | sent => exact (UInt32.add_zero _).symm
      · rw [if_neg hi, if_neg hi, UInt32.add_zero]
    have hin : index ∈ Finset.range next.devices.length :=
      Finset.mem_range.mpr (h.within index m rfl)
    rw [Finset.sum_congr rfl fun i _ => hone i, Finset.sum_add_distrib, Finset.sum_ite_eq,
      if_pos hin]
    rfl

end Registry

namespace Hub

variable {hub : Hub σ} {addr : DeviceAddr} {payload : Payload} {client : σ}

/-- A payload that is dropped has a device to be marked on. -/
theorem receiptMark?_fails (hub : Hub σ) (addr : DeviceAddr) (payload : Payload) (client : σ) :
    ((hub.receiptMark? addr payload client).any fun mark => mark.2.cause?.isSome) =
      match (hub.receive addr payload.bytes payload.timestamp client).1 with
      | .error (.error (.ingest _)) => true
      | _ => false := by
  unfold receiptMark? Hub.receive
  rcases hub.intake_cases addr payload with
    ⟨cause, hregister, hcase⟩ | ⟨hregister, hcase⟩ |
      ⟨index, device, hregister, -, result, next, -, hcase⟩
  · rw [hcase, hregister]
    rfl
  · rw [hcase, hregister]
    rfl
  · rw [hcase, hregister]
    cases result <;> rfl

theorem orderMark?_fails (hub : Hub σ) (addr : DeviceAddr) (endpoint : Nat) (value : DataValue)
    (client : σ) :
    ((hub.orderMark? addr endpoint value client).any fun mark => mark.2.cause?.isSome) =
      match (hub.command addr endpoint value client).1 with
      | .error (.ingest _) => true
      | _ => false := by
  unfold orderMark? Hub.command
  rcases hub.order_cases addr endpoint value with
    ⟨hlookup, hcase⟩ | ⟨hlookup, result, known, event, bumps, -, -, -, hcase, hresult⟩
  · rw [hcase, hlookup]
    rfl
  · obtain ⟨found, hfound⟩ := Option.isSome_iff_exists.mp hlookup
    rw [hcase, hfound]
    generalize known.report event = reported
    obtain ⟨made, next⟩ := reported
    rcases hresult with ⟨frame, rfl, -⟩ | ⟨cause, rfl, -⟩
    · cases made <;> rfl
    · cases made <;> rfl

end Hub

namespace HubInUse

variable {config : HubConfig} {capability? : DeviceType → Option Capability} {now : UInt32}
  {hub : Hub σ}

/-- A payload or a command that failed is marked as a failure, and so is nothing else. -/
theorem Deed.mark?_fails (d : Deed κ σ) :
    (d.mark?.any fun mark => mark.2.cause?.isSome).toNat =
      d.payloadDropped.toNat + d.commandRefused.toNat := by
  obtain ⟨e, operation⟩ := d
  cases operation with
  | receive addr payload =>
    change (Option.any _ (e.hub.receiptMark? addr payload e.client)).toNat = _
    rw [Hub.receiptMark?_fails]
    simp only [Deed.payloadDropped, Deed.receipt?, Deed.commandRefused]
    rcases (e.hub.receive addr payload.bytes payload.timestamp e.client).1 with
      (cause | _) | matched
    · cases cause <;> rfl
    · rfl
    · rfl
  | command addr endpoint value =>
    change (Option.any _ (e.hub.orderMark? addr endpoint value e.client)).toNat = _
    rw [Hub.orderMark?_fails]
    exact (Nat.zero_add _).symm
  | _ => rfl

theorem operate_failures (confOf : Nat → κ → SubscriptionConf σ) (e : HubInUse κ σ)
    (operation : HubOperation κ) :
    let d : Deed κ σ := ⟨e, operation⟩
    (e.operate confOf operation).hub.registry.failures =
      e.hub.registry.failures + UInt32.ofNat (d.payloadDropped.toNat + d.commandRefused.toNat) := by
  have hjoined := (e.operate_becomes confOf operation).extends.devices.length_le
  simp only [List.length_map] at hjoined
  rw [(e.operate_marked confOf operation).failures hjoined, Deed.mark?_fails]

theorem Path.failures (hnew : Hub.new config capability? now = .ok hub) {client : σ}
    {confOf : Nat → κ → SubscriptionConf σ} {deeds : List (Deed κ σ)} {e : HubInUse κ σ}
    (h : Path confOf (HubInUse.start hub client) deeds e) :
    e.hub.registry.failures =
      UInt32.ofNat (deeds.countP Deed.payloadDropped + deeds.countP Deed.commandRefused) := by
  induction h with
  | start =>
    rw [Hub.new_eq hnew]
    rfl
  | @operate deeds e _ operation ih =>
    have hone (p : Deed κ σ → Bool) (d : Deed κ σ) : [d].countP p = (p d).toNat := by
      rw [List.countP_singleton]
      cases p d <;> rfl
    rw [operate_failures, ih, ← UInt32.ofNat_add, List.countP_append, List.countP_append, hone,
      hone, Nat.add_add_add_comm]
  | pin _ _ _ ih => exact ih
  | unpin _ _ ih => exact ih

/-- The events that were dropped, over all and on the devices, after some operations. -/
structure Reconciled (e : HubInUse κ σ) (deeds : List (Deed κ σ)) : Prop where
  /-- The events of commands that found no slot are dropped over all and on no device. -/
  dropped : e.hub.counters.eventsDropped = e.hub.registry.failures +
    UInt32.ofNat (deeds.countP fun d => d.reports && !d.findsSlot)
  agreed : (∀ d ∈ deeds, d.reports = true → d.findsSlot = true) →
    e.hub.counters.eventsDropped = e.hub.registry.failures
  /-- Only payloads that found no slot raise the flag for it. -/
  noSlot : ∀ index d, e.hub.registry.devices[index]? = some d →
    (d.stats.flags.contains .noSlot = true ↔ .poolExhausted ∈ causes deeds index)

theorem Path.reconciled (hnew : Hub.new config capability? now = .ok hub) {client : σ}
    {confOf : Nat → κ → SubscriptionConf σ} {deeds : List (Deed κ σ)} {e : HubInUse κ σ}
    (h : Path confOf (HubInUse.start hub client) deeds e) : e.Reconciled deeds := by
  have hcounted := (states_counted hnew client confOf).1 deeds e h
  have hdropped : e.hub.counters.eventsDropped = e.hub.registry.failures +
      UInt32.ofNat (deeds.countP fun d => d.reports && !d.findsSlot) := by
    rw [hcounted.balanced.dropped, hcounted.data, hcounted.commands, h.failures hnew,
      ← UInt32.ofNat_add, ← UInt32.ofNat_add, Nat.add_assoc]
  refine ⟨hdropped, ?_, ?_⟩
  · intro hfound
    have hnone : (deeds.countP fun d => d.reports && !d.findsSlot) = 0 := by
      rw [List.countP_eq_zero]
      intro d hd
      cases hreports : d.reports with
      | false => simp
      | true => simp [hfound d hd hreports]
    rw [hdropped, hnone]
    exact UInt32.add_zero _
  · intro index d hdevice
    have hlatched := ((h.recorded hnew).device hdevice).latched .poolExhausted
    refine hlatched.trans ⟨?_, fun hin => ⟨_, hin, rfl⟩⟩
    rintro ⟨failure, hin, hflag⟩
    have hbit := (ErrorFlags.ofError_eq_iff _ _).mp hflag
    cases failure with
    | poolExhausted => exact hin
    | _ => cases hbit

/-- Whatever clients do, the failures of all devices are the events dropped over all, but for the
events of commands that found no slot. -/
theorem states_reconciled (hnew : Hub.new config capability? now = .ok hub) (client : σ)
    (confOf : Nat → κ → SubscriptionConf σ) :
    (∀ deeds e, Path confOf (HubInUse.start hub client) deeds e → e.Reconciled deeds) ∧
      ∀ actions, ∀ e ∈ states confOf actions (HubInUse.start hub client),
        ∃ deeds, Path confOf (HubInUse.start hub client) deeds e ∧ e.Reconciled deeds := by
  refine ⟨fun deeds e hpath => hpath.reconciled hnew, ?_⟩
  intro actions e he
  obtain ⟨deeds, hpath⟩ := states_path confOf actions _ e he
  exact ⟨deeds, hpath, hpath.reconciled hnew⟩

/-- The first payload takes the only slot. The second one finds none, which is marked on the
device. -/
theorem states_reconciled_full :
    ∃ hub : Hub Unit, Hub.new { maxEvents := 1 } Builtin.capability? 0 = .ok hub ∧
      let run := states (fun _ (conf : SubscriptionConf Unit) => conf)
        [.operate (.receive (.onBoard .nucleoF429zi) { bytes := [0, 0, 200, 65], timestamp := 0 }),
          .operate
            (.receive (.onBoard .nucleoF429zi) { bytes := [0, 0, 200, 65], timestamp := 0 })]
        (HubInUse.start hub ())
      ∃ e ∈ run, e.hub.counters.eventsDropped = 1 ∧ e.hub.registry.failures = 1 ∧
        (e.hub.registry.statsAt 0).flags = .noSlot ∧
        ∃ deeds, Path (fun _ conf => conf) (HubInUse.start hub ()) deeds e ∧
          e.Reconciled deeds := by
  refine ⟨_, rfl, ?_⟩
  intro run
  have hlast := List.mem_of_getElem? (l := run) (i := 2) rfl
  refine ⟨_, hlast, rfl, rfl, rfl, ?_⟩
  exact (@states_reconciled _ _ { maxEvents := 1 } Builtin.capability? 0 _ rfl () _).2 _ _ hlast

/-- The accounts differ once the event of a command finds no slot, here one that the board takes:
the event was dropped over all and on no device, and the board has no flag for it. -/
theorem states_unreconciled :
    ∃ hub : Hub Unit, Hub.new { maxEvents := 1 } Builtin.capability? 0 = .ok hub ∧
      ∃ deeds, ∃ e : HubInUse Unit Unit,
        Path (fun _ (_ : Unit) => {}) (HubInUse.start hub ()) deeds e ∧
        (∃ d ∈ deeds, d.reports = true ∧ d.findsSlot = false) ∧
        e.hub.counters.eventsDropped = 1 ∧ e.hub.registry.failures = 0 ∧
        ∀ d ∈ e.hub.registry.devices, d.stats.flags.contains .noSlot = false := by
  refine ⟨_, rfl, _, _, (Path.start.operate (.receive (.bus ⟨24⟩)
    { bytes := [0, 0, 0, 0, 0, 0, 0, 0], timestamp := 5 })).operate
      (.command (.bus ⟨24⟩) 0 (.digital .digitalOut ⟨1, 3⟩)), ?_, rfl, rfl, ?_⟩
  · exact ⟨_, List.mem_append_right _ List.mem_cons_self, rfl, rfl⟩
  · intro d hd
    rw [List.eq_of_mem_singleton hd]
    rfl

end HubInUse

end HomeGateway
