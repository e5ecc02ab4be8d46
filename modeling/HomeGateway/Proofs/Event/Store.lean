import Mathlib
import HomeGateway.Event.Store
import HomeGateway.Proofs.Pool

/-!
Live events against their holders. A list with one entry for each holder says who holds what;
every operation of the store changes the count of an event as its caller changes that list,
so that an event goes exactly when its last holder lets go.
-/

namespace HomeGateway.EventStore

/-- The bytes reserved for live events. -/
def leases (store : EventStore) : List UInt64 := store.live.filterMap StoredEvent.lease

def refs (store : EventStore) : List EventRef := store.live.map StoredEvent.ref

/-- How many events there may be, and how many bytes. -/
structure Bounds where
  capacity : Nat
  limit : UInt64

/-- The events of `holders` are live and counted as often as they stand there; the slots of
`slots` are taken by no event yet, the bytes of `loans` belong to none. -/
structure Accounts (store : EventStore) (bounds : Bounds) (holders : List EventRef)
    (slots : List Nat) (loans : List UInt64) : Prop where
  capacity : store.slots.capacity = bounds.capacity
  limit : store.budget.limit = bounds.limit
  fresh : ∀ ref ∈ store.refs, ref < store.nextRef
  distinct : store.refs.Nodup
  counted : ∀ s ∈ store.live, s.holders = holders.count s.ref
  held : ∀ ref, ref ∈ holders ↔ ref ∈ store.refs
  slotted : store.slots.Lends (store.live.map StoredEvent.slot ++ slots)
  paid : store.budget.Lends (store.leases ++ loans)

theorem new_accounts (capacity : Nat) (dataLimit : UInt64) :
    (EventStore.new capacity dataLimit).Accounts ⟨capacity, dataLimit⟩ [] [] [] where
  capacity := rfl
  limit := rfl
  fresh := by simp [EventStore.new, refs]
  distinct := by simp [EventStore.new, refs]
  counted := by simp [EventStore.new]
  held := by simp [EventStore.new, refs]
  slotted := Pool.new_lends "event" capacity
  paid := Budget.new_lends dataLimit

variable {store : EventStore} {bounds : Bounds} {holders : List EventRef} {slots : List Nat}
  {loans : List UInt64} {ref : EventRef}

theorem Accounts.perm {other : List EventRef} {otherSlots : List Nat} {otherLoans : List UInt64}
    (h : store.Accounts bounds holders slots loans) (hholders : holders.Perm other)
    (hslots : slots.Perm otherSlots) (hloans : loans.Perm otherLoans) :
    store.Accounts bounds other otherSlots otherLoans where
  capacity := h.capacity
  limit := h.limit
  fresh := h.fresh
  distinct := h.distinct
  counted s hs := (h.counted s hs).trans (hholders.count_eq s.ref)
  held ref := hholders.mem_iff.symm.trans (h.held ref)
  slotted := h.slotted.perm (hslots.append_left _)
  paid := h.paid.perm (hloans.append_left _)

theorem Accounts.holders_perm {other : List EventRef}
    (h : store.Accounts bounds holders slots loans) (hholders : holders.Perm other) :
    store.Accounts bounds other slots loans :=
  h.perm hholders (List.Perm.refl _) (List.Perm.refl _)

theorem mem_of_find? {s : StoredEvent} (h : store.find? ref = some s) :
    s ∈ store.live ∧ s.ref = ref := by
  refine ⟨List.mem_of_find?_eq_some h, ?_⟩
  simpa using List.find?_some h

/-- What is held can be found. -/
theorem Accounts.find_held (h : store.Accounts bounds holders slots loans) (hheld : ref ∈ holders) :
    ∃ s, store.find? ref = some s ∧ s ∈ store.live ∧ s.ref = ref := by
  obtain ⟨s, hs, href⟩ := List.mem_map.mp ((h.held ref).mp hheld)
  have hsome : (store.find? ref).isSome :=
    List.find?_isSome.mpr ⟨s, hs, by simpa using href⟩
  obtain ⟨found, hfound⟩ := Option.isSome_iff_exists.mp hsome
  obtain ⟨hmem, heq⟩ := mem_of_find? hfound
  exact ⟨found, hfound, hmem, heq⟩

/-- An event has as many holders as it has entries in the list. -/
theorem Accounts.holders_eq (h : store.Accounts bounds holders slots loans) (ref : EventRef) :
    store.holders ref = holders.count ref := by
  unfold EventStore.holders
  cases hfind : store.find? ref with
  | none =>
    symm
    apply List.count_eq_zero.mpr
    intro hheld
    obtain ⟨s, hs, -⟩ := h.find_held hheld
    rw [hfind] at hs
    cases hs
  | some s =>
    obtain ⟨hs, rfl⟩ := mem_of_find? hfind
    exact h.counted s hs

theorem Accounts.lt_nextRef (h : store.Accounts bounds holders slots loans)
    (hheld : ref ∈ holders) : ref < store.nextRef :=
  h.fresh ref ((h.held ref).mp hheld)

/-- New counts for the same events. -/
theorem Accounts.recount {other : List EventRef} (h : store.Accounts bounds holders slots loans)
    (count : StoredEvent → Nat) (hcount : ∀ s ∈ store.live, count s = other.count s.ref)
    (hsame : ∀ ref, ref ∈ other ↔ ref ∈ holders) :
    ({ store with live := store.live.map fun s => { s with holders := count s } } :
      EventStore).Accounts bounds other slots loans := by
  have hrefs : (store.live.map fun s => { s with holders := count s }).map StoredEvent.ref =
      store.refs := by
    simp [refs, Function.comp_def]
  constructor
  · exact h.capacity
  · exact h.limit
  · simpa only [refs, hrefs] using h.fresh
  · simpa only [refs, hrefs] using h.distinct
  · intro s hs
    obtain ⟨old, hold, rfl⟩ := List.mem_map.mp hs
    exact hcount old hold
  · intro ref
    simpa only [refs, hrefs] using (hsame ref).trans (h.held ref)
  · simpa [Function.comp_def] using h.slotted
  · simpa [leases, List.filterMap_map, Function.comp_def] using h.paid

/-- One more holder of an event that is held already. -/
theorem Accounts.hold (h : store.Accounts bounds holders slots loans) (hheld : ref ∈ holders) :
    (store.hold ref).Accounts bounds (ref :: holders) slots loans := by
  have hlive : (store.live.map fun s => if s.ref = ref then { s with holders := s.holders + 1 }
      else s) = store.live.map fun s =>
        { s with holders := if s.ref = ref then s.holders + 1 else s.holders } := by
    apply List.map_congr_left
    intro s _
    split <;> rfl
  unfold EventStore.hold
  rw [hlive]
  apply h.recount
  · intro s hs
    rw [List.count_cons, h.counted s hs]
    by_cases heq : s.ref = ref
    · simp [heq]
    · simp [heq, Ne.symm heq]
  · intro other
    simp only [List.mem_cons, or_iff_right_iff_imp]
    rintro rfl
    exact hheld

/-- A live event and the others. -/
theorem perm_cons_others {live : List StoredEvent} (hdistinct : (live.map StoredEvent.ref).Nodup)
    {s : StoredEvent} (hs : s ∈ live) :
    live.Perm (s :: live.filter fun other => other.ref ≠ s.ref) := by
  induction live with
  | nil => cases hs
  | cons first rest ih =>
    simp only [List.map_cons, List.nodup_cons] at hdistinct
    rcases List.mem_cons.mp hs with rfl | hrest
    · have hothers : rest.filter (fun other => other.ref ≠ s.ref) = rest := by
        apply List.filter_eq_self.mpr
        intro other hother
        have hne : other.ref ≠ s.ref := fun heq =>
          hdistinct.1 (List.mem_map.mpr ⟨other, hother, heq⟩)
        simpa using hne
      simp only [List.filter_cons, ne_eq, not_true_eq_false, decide_false, Bool.false_eq_true,
        if_false]
      rw [hothers]
    · have hne : first.ref ≠ s.ref := fun heq =>
        hdistinct.1 (List.mem_map.mpr ⟨s, hrest, heq.symm⟩)
      simp only [List.filter_cons, ne_eq, hne, not_false_eq_true, decide_true, if_true]
      exact ((ih hdistinct.2 hrest).cons first).trans (List.Perm.swap s first _)

/-- The last holder lets go: the event is gone, and its slot and bytes are free. -/
theorem Accounts.remove {s : StoredEvent} (h : store.Accounts bounds (s.ref :: holders) slots loans)
    (hs : s ∈ store.live) (hlast : s.ref ∉ holders) :
    ({ store with live := store.live.filter fun other => other.ref ≠ s.ref } :
      EventStore).reclaim s |>.Accounts bounds holders slots loans := by
  have hperm := perm_cons_others h.distinct hs
  have hmem (ref : EventRef) :
      ref ∈ (store.live.filter fun other => other.ref ≠ s.ref).map StoredEvent.ref ↔
        ref ∈ store.refs ∧ ref ≠ s.ref := by
    simp only [refs, List.mem_map, List.mem_filter, decide_eq_true_eq]
    constructor
    · rintro ⟨other, ⟨hother, hne⟩, rfl⟩
      exact ⟨⟨other, hother, rfl⟩, hne⟩
    · rintro ⟨⟨other, hother, rfl⟩, hne⟩
      exact ⟨other, ⟨hother, hne⟩, rfl⟩
  constructor
  · exact h.capacity
  · unfold EventStore.reclaim
    cases s.lease <;> exact h.limit
  · intro ref href
    exact h.fresh ref ((hmem ref).mp href).1
  · exact h.distinct.sublist (List.filter_sublist.map StoredEvent.ref)
  · intro other hother
    obtain ⟨hlive, hne⟩ := List.mem_filter.mp hother
    have hne : ¬ s.ref = other.ref := fun heq => of_decide_eq_true hne heq.symm
    simpa [List.count_cons, hne] using h.counted other hlive
  · intro ref
    refine Iff.trans ?_ (hmem ref).symm
    rw [← h.held ref, List.mem_cons]
    constructor
    · intro href
      exact ⟨Or.inr href, fun heq => hlast (heq ▸ href)⟩
    · rintro ⟨heq | href, hne⟩
      · exact absurd heq hne
      · exact href
  · exact (h.slotted.perm ((hperm.map StoredEvent.slot).append_right slots)).release
  · have hpaid := h.paid.perm ((hperm.filterMap StoredEvent.lease).append_right loans)
    unfold EventStore.reclaim
    cases hlease : s.lease with
    | none => simpa [leases, hlease] using hpaid
    | some size =>
      simp only [List.filterMap_cons, hlease, List.cons_append] at hpaid
      exact hpaid.release

/-- One holder less. -/
theorem Accounts.release (h : store.Accounts bounds (ref :: holders) slots loans) :
    (store.release ref).Accounts bounds holders slots loans := by
  obtain ⟨s, hfind, hs, rfl⟩ := h.find_held List.mem_cons_self
  have hcount := h.counted s hs
  rw [List.count_cons_self] at hcount
  unfold EventStore.release
  simp only [hfind]
  split
  · rename_i hle
    exact h.remove hs (List.count_eq_zero.mp (by omega))
  · rename_i hmore
    have hlive : (store.live.map fun other =>
        if other.ref = s.ref then { other with holders := other.holders - 1 } else other) =
          store.live.map fun other => { other with
            holders := if other.ref = s.ref then other.holders - 1 else other.holders } := by
      apply List.map_congr_left
      intro other _
      split <;> rfl
    rw [hlive]
    apply h.recount
    · intro other hother
      have hother := h.counted other hother
      rw [List.count_cons] at hother
      by_cases heq : other.ref = s.ref
      · simp only [heq, beq_self_eq_true, if_true] at hother ⊢
        omega
      · have hne : ¬ s.ref = other.ref := fun h => heq h.symm
        simpa [heq, hne] using hother
    · intro other
      rw [List.mem_cons]
      constructor
      · exact Or.inr
      · rintro (rfl | hin)
        · exact List.count_pos_iff.mp (by omega)
        · exact hin

theorem Accounts.releaseAll {gone : List EventRef}
    (h : store.Accounts bounds (gone ++ holders) slots loans) :
    (store.releaseAll gone).Accounts bounds holders slots loans := by
  induction gone generalizing store with
  | nil => exact h
  | cons ref rest ih => exact ih h.release

/-- A slot is taken for an event under construction. -/
theorem Accounts.takeSlot {next : EventStore} {slot : Nat}
    (h : store.Accounts bounds holders slots loans) (htake : store.takeSlot = .ok (slot, next)) :
    next.Accounts bounds holders (slot :: slots) loans := by
  unfold EventStore.takeSlot at htake
  split at htake
  · rename_i taken pool hacquire
    cases htake
    obtain ⟨hlends, hcapacity⟩ := h.slotted.acquire hacquire
    exact { h with
      capacity := hcapacity.trans h.capacity
      slotted := hlends.perm List.perm_middle.symm }
  · cases htake

theorem Accounts.freeSlot {slot : Nat} (h : store.Accounts bounds holders (slot :: slots) loans) :
    (store.freeSlot slot).Accounts bounds holders slots loans :=
  { h with slotted := (h.slotted.perm List.perm_middle).release }

theorem Accounts.reserve {next : EventStore} {size : UInt64}
    (h : store.Accounts bounds holders slots loans) (hreserve : store.reserve size = .ok next) :
    next.Accounts bounds holders slots (size :: loans) := by
  unfold EventStore.reserve at hreserve
  split at hreserve
  · rename_i budget hbudget
    cases hreserve
    obtain ⟨hlends, hlimit⟩ := h.paid.reserve hbudget
    exact { h with
      limit := hlimit.trans h.limit
      paid := hlends.perm List.perm_middle.symm }
  · cases hreserve

theorem Accounts.repay {size : UInt64} (h : store.Accounts bounds holders slots (size :: loans)) :
    ({ store with budget := store.budget.release size } : EventStore).Accounts
      bounds holders slots loans :=
  { h with paid := (h.paid.perm List.perm_middle).release }

/-- A new event has a name of its own, and one holder. -/
theorem Accounts.freeze {slot : Nat} (lease : Option UInt64) (event : Event)
    (h : store.Accounts bounds holders (slot :: slots) (lease.toList ++ loans)) :
    (store.freeze slot lease event).2.Accounts bounds ((store.freeze slot lease event).1 :: holders)
      slots loans := by
  have hnew : store.nextRef ∉ store.refs := fun hmem => Nat.lt_irrefl _ (h.fresh _ hmem)
  have hunheld : store.nextRef ∉ holders := fun hmem => hnew ((h.held _).mp hmem)
  unfold EventStore.freeze
  constructor
  · exact h.capacity
  · exact h.limit
  · intro ref href
    simp only [refs, List.map_append, List.map_cons, List.map_nil, List.mem_append,
      List.mem_singleton] at href
    change ref < store.nextRef + 1
    rcases href with hold | rfl
    · exact Nat.lt_succ_of_lt (h.fresh ref hold)
    · exact Nat.lt_succ_self _
  · simp only [refs, List.map_append, List.map_cons, List.map_nil]
    exact List.nodup_append.mpr ⟨h.distinct, List.nodup_singleton _, by
      intro a ha b hb heq
      rw [List.mem_singleton] at hb
      exact hnew (hb ▸ heq ▸ ha)⟩
  · intro s hs
    simp only [List.mem_append, List.mem_singleton] at hs
    rcases hs with hold | rfl
    · have hne : ¬ store.nextRef = s.ref := fun heq =>
        hnew (heq ▸ List.mem_map.mpr ⟨s, hold, rfl⟩)
      simpa [List.count_cons, hne] using h.counted s hold
    · simp [List.count_eq_zero.mpr hunheld]
  · intro ref
    simp only [refs, List.map_append, List.map_cons, List.map_nil, List.mem_append,
      List.mem_singleton]
    rw [List.mem_cons, h.held ref, refs, or_comm]
  · simpa using h.slotted
  · have hpaid := h.paid
    cases lease with
    | none => simpa [leases] using hpaid
    | some size => simpa [leases] using hpaid

end HomeGateway.EventStore
