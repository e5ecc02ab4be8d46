import Mathlib
import HomeGateway.Proofs.Pool

/-!
Pools and budgets over whole histories. Slots and bytes are taken and given back in any order, one
call after the other. A slot is never handed out twice, and is refused only when all are out; bytes
are refused only when they are more than what is left, as numbers and not as words, and the peak is
the highest level that was ever reached.
-/

namespace HomeGateway

/-! Slots. -/

/-- A pool and the slots that are out, those taken last first. Every handle to the pool takes from
the same slots, and so it does not matter through which one is taken. -/
structure LentPool where
  pool : Pool
  held : List Nat

/-- A slot that is given back is one of those that are out. -/
inductive SlotStep where
  | acquire
  | release (place : Nat)

namespace LentPool

def opened (name : String) (capacity : Nat) : LentPool :=
  { pool := .new name capacity, held := [] }

def step (c : LentPool) : SlotStep → LentPool
  | .acquire =>
    match c.pool.acquire with
    | .ok (slot, pool) => { pool, held := slot :: c.held }
    | .error _ => c
  | .release place =>
    match c.held[place]? with
    | some slot => { pool := c.pool.release slot, held := c.held.eraseIdx place }
    | none => c

def run (steps : List SlotStep) (c : LentPool) : LentPool := steps.foldl step c

/-- What holds all along. -/
structure Keeps (c : LentPool) (name : String) (capacity : Nat) : Prop where
  lends : c.pool.Lends c.held
  name : c.pool.name = name
  capacity : c.pool.capacity = capacity

variable {c : LentPool} {name : String} {capacity : Nat}

theorem opened_keeps (name : String) (capacity : Nat) :
    (opened name capacity).Keeps name capacity where
  lends := Pool.new_lends name capacity
  name := rfl
  capacity := rfl

theorem Keeps.acquire (h : c.Keeps name capacity) : (c.step .acquire).Keeps name capacity := by
  unfold step
  dsimp only
  split
  · rename_i slot pool hacquire
    obtain ⟨hlends, hcapacity⟩ := h.lends.acquire hacquire
    exact ⟨hlends, (Pool.acquire_name hacquire).trans h.name, hcapacity.trans h.capacity⟩
  · exact h

theorem Keeps.release (h : c.Keeps name capacity) (place : Nat) :
    (c.step (.release place)).Keeps name capacity := by
  unfold step
  dsimp only
  split
  · rename_i slot hslot
    exact ⟨(h.lends.perm (perm_cons_eraseIdx hslot)).release, h.name, h.capacity⟩
  · exact h

theorem Keeps.step (h : c.Keeps name capacity) (s : SlotStep) :
    (c.step s).Keeps name capacity := by
  cases s with
  | acquire => exact h.acquire
  | release place => exact h.release place

theorem Keeps.run (h : c.Keeps name capacity) (steps : List SlotStep) :
    (c.run steps).Keeps name capacity := by
  induction steps generalizing c with
  | nil => exact h
  | cons s rest ih => exact ih (h.step s)

/-- The slots that are out against those that are free. -/
structure Tidy (c : LentPool) (name : String) (capacity : Nat) : Prop where
  distinct : c.held.Nodup
  below : ∀ slot ∈ c.held, slot < capacity
  /-- Together they are all slots, each once. -/
  all : (c.held ++ c.pool.free).Perm (List.range capacity)
  refuses : (∃ e, c.pool.acquire = .error e) ↔ c.held.length = capacity
  /-- A refusal says which pool has run out, and changes nothing. -/
  exhausted : ∀ e, c.pool.acquire = .error e →
    e = .exhausted name capacity ∧ c.step .acquire = c
  inUse : c.pool.inUse = c.held.length
  /-- No more slots are free than there are, so that the difference is one of numbers. -/
  available : c.pool.available ≤ c.pool.capacity
  balance : c.pool.inUse + c.pool.available = capacity

theorem Keeps.tidy (h : c.Keeps name capacity) : c.Tidy name capacity where
  distinct := h.lends.nodup
  below slot hslot := by
    have hall : slot ∈ List.range c.pool.capacity :=
      h.lends.mem_iff.mp (List.mem_append_right _ hslot)
    rw [← h.capacity]
    exact List.mem_range.mp hall
  all := by
    rw [← h.capacity]
    exact List.perm_append_comm.trans h.lends
  refuses := by
    rw [← h.capacity, ← h.lends.free_eq_nil_iff]
    simp only [Pool.acquire_eq_error_iff, exists_and_left, exists_eq, and_true]
  exhausted e he := by
    have herror := (Pool.acquire_eq_error_iff.mp he).2
    rw [h.name, h.capacity] at herror
    refine ⟨herror, ?_⟩
    unfold LentPool.step
    rw [he]
  inUse := h.lends.inUse
  available := by
    have hlength := h.lends.length
    omega
  balance := by
    have hlength := h.lends.length
    rw [h.lends.inUse, ← h.capacity]
    omega

/-- Whatever is taken and given back, in whatever order. -/
theorem run_tidy (name : String) (capacity : Nat) (steps : List SlotStep) :
    ((opened name capacity).run steps).Tidy name capacity :=
  ((opened_keeps name capacity).run steps).tidy

/-- Slots that come back in another order are handed out in that order, the last one first. -/
example :
    ((opened "event" 3).run [.acquire, .acquire, .acquire, .acquire, .release 2, .release 0,
      .acquire]).held = [2, 1] := by decide

end LentPool

/-! Bytes. -/

/-- A budget and the sizes of the leases that are live. -/
structure LentBudget where
  budget : Budget
  leases : List UInt64

/-- A lease that is dropped is one of those that are live. -/
inductive LeaseStep where
  | reserve (size : UInt64)
  | drop (place : Nat)

namespace LentBudget

def opened (limit : UInt64) : LentBudget := { budget := .new limit, leases := [] }

def step (t : LentBudget) : LeaseStep → LentBudget
  | .reserve size =>
    match t.budget.reserve size with
    | .ok budget => { budget, leases := size :: t.leases }
    | .error _ => t
  | .drop place =>
    match t.leases[place]? with
    | some size => { budget := t.budget.release size, leases := t.leases.eraseIdx place }
    | none => t

def run (steps : List LeaseStep) (t : LentBudget) : LentBudget := steps.foldl step t

/-- The bytes in use, as a number. -/
def level (t : LentBudget) : Nat := t.budget.used.toNat

/-- The levels on the way through a run, the first and the last among them. -/
def levels (steps : List LeaseStep) (t : LentBudget) : Set Nat :=
  { n | ∃ first, first <+: steps ∧ (t.run first).level = n }

/-- What holds all along. -/
structure Keeps (t : LentBudget) (limit : UInt64) : Prop where
  lends : t.budget.Lends t.leases
  limit : t.budget.limit = limit

variable {t : LentBudget} {limit : UInt64}

theorem opened_keeps (limit : UInt64) : (opened limit).Keeps limit where
  lends := Budget.new_lends limit
  limit := rfl

theorem toNat_max (a b : UInt64) : (max a b).toNat = max a.toNat b.toNat :=
  apply_ite UInt64.toNat (a ≤ b) b a

/-- A reservation as it is made: granted and counted, or refused without a trace. -/
theorem step_reserve (t : LentBudget) (size : UInt64) :
    (t.level + size.toNat ≤ t.budget.limit.toNat ∧
        t.step (.reserve size) =
          { budget :=
              { t.budget with
                used := t.budget.used + size
                peak := max t.budget.peak (t.budget.used + size) }
            leases := size :: t.leases } ∧
        (t.step (.reserve size)).level = t.level + size.toNat) ∨
      (t.budget.limit.toNat < t.level + size.toNat ∧ t.step (.reserve size) = t) := by
  unfold step level
  dsimp only
  rw [Budget.reserve_eq]
  by_cases hlimit : t.budget.used.toNat + size.toNat ≤ t.budget.limit.toNat
  · rw [if_pos hlimit]
    exact .inl ⟨hlimit, rfl, Budget.toNat_used_add hlimit⟩
  · rw [if_neg hlimit]
    exact .inr ⟨Nat.lt_of_not_le hlimit, rfl⟩

/-- A lease as it is dropped. -/
theorem Keeps.step_drop (h : t.Keeps limit) {place : Nat} {size : UInt64}
    (hsize : t.leases[place]? = some size) :
    t.step (.drop place) =
        { budget := t.budget.release size, leases := t.leases.eraseIdx place } ∧
      (t.step (.drop place)).level + size.toNat = t.level := by
  have hlends := h.lends.perm (perm_cons_eraseIdx hsize)
  have hstep : t.step (.drop place) =
      { budget := t.budget.release size, leases := t.leases.eraseIdx place } := by
    unfold step
    dsimp only
    rw [hsize]
  have hbefore := hlends.used
  have hafter := hlends.release.used
  rw [totalBytes_cons] at hbefore
  refine ⟨hstep, ?_⟩
  rw [hstep]
  change (t.budget.release size).used.toNat + size.toNat = t.budget.used.toNat
  omega

theorem Keeps.step (h : t.Keeps limit) (s : LeaseStep) : (t.step s).Keeps limit := by
  cases s with
  | reserve size =>
    unfold LentBudget.step
    dsimp only
    split
    · rename_i next hreserve
      obtain ⟨hlends, hlimit⟩ := h.lends.reserve hreserve
      exact ⟨hlends, hlimit.trans h.limit⟩
    · exact h
  | drop place =>
    cases hsize : t.leases[place]? with
    | none =>
      unfold LentBudget.step
      dsimp only
      rw [hsize]
      exact h
    | some size =>
      rw [(h.step_drop hsize).1]
      exact ⟨(h.lends.perm (perm_cons_eraseIdx hsize)).release, h.limit⟩

theorem Keeps.run (h : t.Keeps limit) (steps : List LeaseStep) : (t.run steps).Keeps limit := by
  induction steps generalizing t with
  | nil => exact h
  | cons s rest ih => exact ih (h.step s)

/-! The peak. -/

/-- With each step the peak takes in the level that is reached. -/
theorem Keeps.step_peak (h : t.Keeps limit) (hpeak : t.level ≤ t.budget.peak.toNat)
    (s : LeaseStep) :
    (t.step s).budget.peak.toNat = max (t.step s).level t.budget.peak.toNat := by
  cases s with
  | reserve size =>
    rcases t.step_reserve size with ⟨-, hstep, -⟩ | ⟨-, hstep⟩
    · rw [hstep]
      exact (toNat_max _ _).trans (max_comm _ _)
    · rw [hstep, max_eq_right hpeak]
  | drop place =>
    cases hsize : t.leases[place]? with
    | none =>
      have hstep : t.step (.drop place) = t := by
        unfold LentBudget.step
        dsimp only
        rw [hsize]
      rw [hstep, max_eq_right hpeak]
    | some size =>
      obtain ⟨hstep, hlevel⟩ := h.step_drop hsize
      have hbelow : (t.step (.drop place)).level ≤ t.budget.peak.toNat := by omega
      rw [max_eq_right hbelow, hstep]
      rfl

theorem run_concat (steps : List LeaseStep) (s : LeaseStep) (t : LentBudget) :
    t.run (steps ++ [s]) = (t.run steps).step s := by
  unfold run
  rw [List.foldl_append]
  rfl

theorem levels_nil (t : LentBudget) : t.levels [] = {t.level} := by
  ext n
  simp [levels, run, eq_comm]

theorem levels_concat (steps : List LeaseStep) (s : LeaseStep) (t : LentBudget) :
    t.levels (steps ++ [s]) = insert ((t.run steps).step s).level (t.levels steps) := by
  ext n
  simp only [levels, List.prefix_concat_iff, Set.mem_ofPred_eq, Set.mem_insert_iff, or_and_right,
    exists_or, exists_eq_left, run_concat]
  exact or_congr_left eq_comm

/-- Within a run the peak is the highest level so far. -/
theorem Keeps.run_peak (h : t.Keeps limit) (hpeak : t.level = t.budget.peak.toNat)
    (steps : List LeaseStep) :
    IsGreatest (t.levels steps) (t.run steps).budget.peak.toNat := by
  induction steps using List.reverseRecOn with
  | nil =>
    rw [levels_nil, hpeak]
    exact isGreatest_singleton
  | append_singleton steps s ih =>
    have hlevel : (t.run steps).level ≤ (t.run steps).budget.peak.toNat :=
      ih.2 ⟨steps, List.prefix_rfl, rfl⟩
    have hstep := (h.run steps).step_peak hlevel s
    rw [levels_concat, run_concat, hstep]
    exact ih.insert _

/-- The bytes in use against the leases. -/
structure Solvent (t : LentBudget) (limit : UInt64) : Prop where
  bound : t.budget.limit = limit
  /-- The bytes in use are those of the live leases together. -/
  used : t.level = (t.leases.map UInt64.toNat).sum
  within : t.level ≤ limit.toNat
  /-- What is dropped was in use, so that the difference is one of numbers. -/
  drops : ∀ place size, t.leases[place]? = some size →
    size.toNat ≤ t.level ∧ (t.step (.drop place)).level = t.level - size.toNat
  grants : ∀ size, (∃ next, t.budget.reserve size = .ok next) ↔
    t.level + size.toNat ≤ limit.toNat
  adds : ∀ size, t.level + size.toNat ≤ limit.toNat →
    (t.step (.reserve size)).leases = size :: t.leases ∧
      (t.step (.reserve size)).level = t.level + size.toNat
  /-- A refusal says what was left, and changes nothing. -/
  refuses : ∀ size, limit.toNat < t.level + size.toNat →
    t.budget.reserve size = .error (.noMemory size.toNat (limit.toNat - t.level)) ∧
      t.step (.reserve size) = t

theorem Keeps.solvent (h : t.Keeps limit) : t.Solvent limit where
  bound := h.limit
  used := h.lends.used
  within := by
    rw [← h.limit]
    exact UInt64.le_iff_toNat_le.mp h.lends.within
  drops place size hsize := by
    have hlevel := (h.step_drop hsize).2
    omega
  grants size := by
    rw [Budget.reserve_iff, h.limit]
    rfl
  adds size hfits := by
    rw [← h.limit] at hfits
    rcases t.step_reserve size with ⟨-, hstep, hlevel⟩ | ⟨hover, -⟩
    · exact ⟨by rw [hstep], hlevel⟩
    · omega
  refuses size hover := by
    rw [← h.limit] at hover ⊢
    rcases t.step_reserve size with ⟨hfits, -⟩ | ⟨-, hstep⟩
    · omega
    · have hnot : ¬t.budget.used.toNat + size.toNat ≤ t.budget.limit.toNat := Nat.not_le.mpr hover
      refine ⟨?_, hstep⟩
      rw [Budget.reserve_eq, if_neg hnot]
      rfl

/-- Whatever is reserved and dropped, in whatever order: what is in use is what the live leases hold,
and the peak is the highest level since the budget was made. -/
theorem run_solvent (limit : UInt64) (steps : List LeaseStep) :
    ((opened limit).run steps).Solvent limit ∧
      IsGreatest ((opened limit).levels steps)
        ((opened limit).run steps).budget.peak.toNat :=
  ⟨((opened_keeps limit).run steps).solvent, (opened_keeps limit).run_peak rfl steps⟩

/-- The largest size is more than what is left of the largest limit, although the sum of the words
would be small. -/
example :
    let last := (opened 0xFFFFFFFFFFFFFFFF).run [.reserve 10, .reserve 0xFFFFFFFFFFFFFFFF, .reserve 4,
      .drop 1]
    last.leases = [4] ∧ last.level = 4 ∧ last.budget.peak = 14 := by decide

end LentBudget

end HomeGateway
