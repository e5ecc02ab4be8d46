import Mathlib
import HomeGateway.Device.Registry

/-!
What there is to tell of a device. Its statistics are the marks that its history left: the
payloads that it sent, the frames that were sent to it, and the failures of either. Numbers are
modulo the size of a word; a flag stays set once a failure of its class has set it.
-/

namespace HomeGateway

/-- What leaves a mark on a device. -/
inductive Mark where
  | received (payload : Payload)
  | sent (frame : List UInt8)
  | failed (cause : IngestError)

namespace Mark

def payload? : Mark → Option Payload
  | .received payload => some payload
  | _ => none

def frame? : Mark → Option (List UInt8)
  | .sent frame => some frame
  | _ => none

def cause? : Mark → Option IngestError
  | .failed cause => some cause
  | _ => none

/-- What becomes of a payload, as a mark. -/
def ofReceipt {α : Type} (payload : Payload) : Except IngestError α → Mark
  | .ok _ => .received payload
  | .error cause => .failed cause

end Mark

namespace ErrorFlags

/-- The bit of a class of failure. -/
def bit : IngestError → Nat
  | .poolExhausted => 0
  | .noEndpoint => 1
  | .invalidEndpoint _ => 2
  | .noCommandHandler _ => 2
  | .payloadSizeMismatch _ _ => 3
  | .noMemory _ => 4
  | .decode _ => 5
  | .command _ => 5

theorem bit_lt (cause : IngestError) : bit cause < 32 := by
  cases cause <;> simp only [bit] <;> decide

theorem ofError_toBitVec (cause : IngestError) :
    (ofError cause).bits.toBitVec = BitVec.twoPow 32 (bit cause) := by
  cases cause <;> rfl

theorem getLsbD_ofError (cause : IngestError) (i : Nat) :
    (ofError cause).bits.toBitVec.getLsbD i = decide (bit cause = i) := by
  rw [ofError_toBitVec, BitVec.getLsbD_twoPow, decide_eq_true (bit_lt cause), Bool.true_and]

/-- Flags contain the flag of a failure if its bit is set. -/
theorem contains_ofError (flags : ErrorFlags) (cause : IngestError) :
    flags.contains (ofError cause) = flags.bits.toBitVec.getLsbD (bit cause) := by
  have hnonzero : BitVec.twoPow 32 (bit cause) ≠ 0#32 := by
    intro hzero
    have hset := getLsbD_ofError cause (bit cause)
    rw [ofError_toBitVec, hzero] at hset
    simp at hset
  rw [Bool.eq_iff_iff]
  simp only [contains, decide_eq_true_eq]
  rw [← UInt32.toBitVec_inj, UInt32.toBitVec_and, ofError_toBitVec, BitVec.and_twoPow]
  split
  · rename_i hset
    exact iff_of_true rfl hset
  · rename_i hclear
    exact iff_of_false (fun heq => hnonzero heq.symm) hclear

/-- Failures have the same flag if they are of the same class. -/
theorem ofError_eq_iff (cause other : IngestError) :
    ofError cause = ofError other ↔ bit cause = bit other := by
  constructor
  · intro heq
    have hset := getLsbD_ofError cause (bit other)
    rw [heq, getLsbD_ofError other, decide_eq_true rfl] at hset
    exact of_decide_eq_true hset.symm
  · intro heq
    have hbits : (ofError cause).bits = (ofError other).bits := by
      rw [← UInt32.toBitVec_inj, ofError_toBitVec, ofError_toBitVec, heq]
    exact congrArg ErrorFlags.mk hbits

theorem contains_none (cause : IngestError) : none.contains (ofError cause) = false := by
  rw [contains_ofError]
  exact BitVec.getLsbD_zero

theorem contains_union (flags : ErrorFlags) (cause other : IngestError) :
    (flags.union (ofError cause)).contains (ofError other) =
      (flags.contains (ofError other) || ofError cause = ofError other) := by
  simp only [contains_ofError, union, UInt32.toBitVec_or, BitVec.getLsbD_or, getLsbD_ofError,
    ofError_eq_iff]

/-- Flags that are set contain each other as sets of bits. -/
theorem contains_iff (flags other : ErrorFlags) :
    flags.contains other = true ↔
      ∀ i < 32, other.bits.toBitVec.getLsbD i = true → flags.bits.toBitVec.getLsbD i = true := by
  simp only [contains, decide_eq_true_eq]
  rw [← UInt32.toBitVec_inj, UInt32.toBitVec_and, BitVec.eq_of_getLsbD_eq_iff]
  simp only [BitVec.getLsbD_and, Bool.and_eq_right_iff_imp]

theorem contains_refl (flags : ErrorFlags) : flags.contains flags = true := by
  simp [contains]

theorem contains_trans {flags mid other : ErrorFlags} (hmid : flags.contains mid = true)
    (hother : mid.contains other = true) : flags.contains other = true := by
  rw [contains_iff] at *
  exact fun i hi hset => hmid i hi (hother i hi hset)

/-- Flags that were set are set. -/
theorem union_contains (flags other : ErrorFlags) : (flags.union other).contains flags = true := by
  rw [contains_iff]
  intro i _ hset
  rw [union, UInt32.toBitVec_or, BitVec.getLsbD_or, hset, Bool.true_or]

end ErrorFlags

namespace DeviceStats

def mark (s : DeviceStats) : Mark → DeviceStats
  | .received payload => s.receive payload.bytes.length
  | .sent frame => s.send frame.length
  | .failed cause => s.fail cause

theorem lengthWord_eq {length : Nat} (h : length < UInt32.size) :
    lengthWord length = UInt32.ofNat length := by
  have hsize : UInt32.size = 0xFFFFFFFF + 1 := rfl
  have hmin : min length 0xFFFFFFFF = length := by omega
  unfold lengthWord
  rw [hmin]

/-- The statistics of a device that sent these payloads, to which these frames were sent, and of
which these failures are known. -/
structure Tells (s : DeviceStats) (payloads : List Payload) (frames : List (List UInt8))
    (causes : List IngestError) : Prop where
  received : s.received = UInt32.ofNat payloads.length
  receivedBytes : (∀ p ∈ payloads, p.bytes.length < UInt32.size) →
    s.receivedBytes = UInt32.ofNat (payloads.map fun p => p.bytes.length).sum
  sent : s.sent = UInt32.ofNat frames.length
  sentBytes : (∀ frame ∈ frames, frame.length < UInt32.size) →
    s.sentBytes = UInt32.ofNat (frames.map List.length).sum
  failed : s.failed = UInt32.ofNat causes.length
  flags : s.flags = (causes.map ErrorFlags.ofError).foldl ErrorFlags.union .none
  latched : ∀ cause, s.flags.contains (.ofError cause) ↔
    ∃ failure ∈ causes, ErrorFlags.ofError failure = .ofError cause

theorem tells_nothing : Tells {} [] [] [] where
  received := rfl
  receivedBytes _ := rfl
  sent := rfl
  sentBytes _ := rfl
  failed := rfl
  flags := rfl
  latched cause := by simp [ErrorFlags.contains_none]

/-- One more mark. -/
theorem Tells.mark {s : DeviceStats} {payloads : List Payload} {frames : List (List UInt8)}
    {causes : List IngestError} (h : s.Tells payloads frames causes) (m : Mark) :
    (s.mark m).Tells (payloads ++ m.payload?.toList) (frames ++ m.frame?.toList)
      (causes ++ m.cause?.toList) := by
  cases m with
  | received payload =>
    simp only [DeviceStats.mark, receive, Mark.payload?, Mark.frame?, Mark.cause?,
      Option.toList_some, Option.toList_none, List.append_nil]
    refine { h with received := ?_, receivedBytes := ?_ }
    · rw [h.received, List.length_append, UInt32.ofNat_add]
      rfl
    · intro hlengths
      have hbefore := h.receivedBytes fun p hp => hlengths p (List.mem_append_left _ hp)
      have hlast := lengthWord_eq (hlengths payload (List.mem_append_right _ List.mem_cons_self))
      rw [hbefore, hlast, ← UInt32.ofNat_add, List.map_append, List.sum_append]
      rfl
  | sent frame =>
    simp only [DeviceStats.mark, send, Mark.payload?, Mark.frame?, Mark.cause?,
      Option.toList_some, Option.toList_none, List.append_nil]
    refine { h with sent := ?_, sentBytes := ?_ }
    · rw [h.sent, List.length_append, UInt32.ofNat_add]
      rfl
    · intro hlengths
      have hbefore := h.sentBytes fun f hf => hlengths f (List.mem_append_left _ hf)
      have hlast := lengthWord_eq (hlengths frame (List.mem_append_right _ List.mem_cons_self))
      rw [hbefore, hlast, ← UInt32.ofNat_add, List.map_append, List.sum_append]
      rfl
  | failed cause =>
    simp only [DeviceStats.mark, fail, Mark.payload?, Mark.frame?, Mark.cause?,
      Option.toList_some, Option.toList_none, List.append_nil]
    refine { h with failed := ?_, flags := ?_, latched := ?_ }
    · rw [h.failed, List.length_append, UInt32.ofNat_add]
      rfl
    · rw [h.flags, List.map_append, List.foldl_append]
      rfl
    · intro other
      rw [ErrorFlags.contains_union, Bool.or_eq_true, h.latched other, decide_eq_true_eq]
      simp [List.mem_append, or_and_right, exists_or]

/-- No mark takes a flag away. -/
theorem mark_contains (s : DeviceStats) (m : Mark) :
    (s.mark m).flags.contains s.flags = true := by
  cases m with
  | received payload => exact s.flags.contains_refl
  | sent frame => exact s.flags.contains_refl
  | failed cause => exact s.flags.union_contains _

end DeviceStats

namespace Registry

/-- The statistics of the device at a position, blank as long as there is none. -/
def statsAt (r : Registry) (index : Nat) : DeviceStats :=
  (r.devices[index]?.map Device.stats).getD {}

theorem statsAt_of_device {r : Registry} {index : Nat} {d : Device}
    (h : r.devices[index]? = some d) : r.statsAt index = d.stats := by
  rw [statsAt, h]
  rfl

/-- Nothing is marked on a device that joins. -/
theorem register_statsAt (r : Registry) (addr : DeviceAddr) (now : UInt32) (i : Nat) :
    (r.register addr now).2.statsAt i = r.statsAt i := by
  unfold register
  split
  · rfl
  split
  · rfl
  · unfold statsAt
    rcases Nat.lt_trichotomy i r.devices.length with hlt | rfl | hgt
    · rw [List.getElem?_append_left hlt]
    · simp
    · rw [List.getElem?_eq_none hgt.le, List.getElem?_eq_none]
      simpa using hgt

/-- What does not mark a device leaves its statistics alone. -/
theorem update_statsAt_same (r : Registry) (index : Nat) {f : Device → Device}
    (hsame : ∀ d, (f d).stats = d.stats) (i : Nat) :
    (r.update index f).statsAt i = r.statsAt i := by
  simp only [statsAt, update, List.getElem?_modify]
  cases r.devices[i]? with
  | none => rfl
  | some d => by_cases hi : index = i <;> simp [hi, hsame]

/-- A mark on one device is no mark on any other. -/
theorem update_statsAt {r : Registry} {index : Nat} {d : Device}
    (hdevice : r.devices[index]? = some d) (f : DeviceStats → DeviceStats) (i : Nat) :
    (r.update index fun d => { d with stats := f d.stats }).statsAt i =
      if index = i then f (r.statsAt i) else r.statsAt i := by
  simp only [statsAt, update, List.getElem?_modify]
  by_cases hi : index = i
  · rw [if_pos hi, ← hi, hdevice]
    simp
  · rw [if_neg hi]
    cases r.devices[i]? <;> simp [hi]

/-- From one registry to a later one there is one mark, on the device at a position, or none. -/
structure Marked (r : Registry) (mark? : Option (Nat × Mark)) (next : Registry) : Prop where
  stats : ∀ i, next.statsAt i =
    match mark? with
    | some (index, m) => if index = i then (r.statsAt i).mark m else r.statsAt i
    | none => r.statsAt i
  within : ∀ index m, mark? = some (index, m) → index < next.devices.length

theorem Marked.refl (r : Registry) : r.Marked none r where
  stats _ := rfl
  within _ _ hmark := by cases hmark

theorem marked_register (r : Registry) (addr : DeviceAddr) (now : UInt32) :
    r.Marked none (r.register addr now).2 where
  stats i := r.register_statsAt addr now i
  within _ _ hmark := by cases hmark

theorem marked_update {r : Registry} {index : Nat} {d : Device}
    (hdevice : r.devices[index]? = some d) (m : Mark) :
    r.Marked (some (index, m))
      (r.update index fun d => { d with stats := d.stats.mark m }) where
  stats i := update_statsAt hdevice (fun stats => stats.mark m) i
  within _ _ hmark := by
    cases hmark
    simpa [update] using (List.getElem?_eq_some_iff.mp hdevice).1

/-- Before a mark, devices may join. -/
theorem Marked.after {r joined next : Registry} {mark? : Option (Nat × Mark)}
    (h : joined.Marked mark? next) (hjoined : ∀ i, joined.statsAt i = r.statsAt i) :
    r.Marked mark? next where
  stats i := by
    rw [h.stats i, hjoined i]
  within := h.within

/-- After a mark, devices may keep other events. -/
theorem Marked.retain {r next : Registry} {mark? : Option (Nat × Mark)}
    (h : r.Marked mark? next) (index endpoint : Nat) (ref : EventRef) :
    r.Marked mark? (next.update index fun d => d.retain endpoint ref) where
  stats i := by
    rw [next.update_statsAt_same index (f := fun d => d.retain endpoint ref) (fun _ => rfl) i]
    exact h.stats i
  within i m hmark := by
    simpa [update] using h.within i m hmark

end Registry

end HomeGateway
