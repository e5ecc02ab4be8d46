import Mathlib
import HomeGateway.Budget
import HomeGateway.Pool

/-!
Pools and budgets against what was taken from them. The slots in use and the free ones are
together all slots, each once, and the bytes in use are the sum of what was lent. Every
operation is stated on the list of what is out, which later proofs spread over the places
that hold slots and bytes.
-/

namespace HomeGateway

/-- What stands at a position, and the rest. -/
theorem perm_cons_eraseIdx {α : Type} {l : List α} {i : Nat} {a : α} (h : l[i]? = some a) :
    l.Perm (a :: l.eraseIdx i) := by
  obtain ⟨hlt, rfl⟩ := List.getElem?_eq_some_iff.mp h
  exact (List.getElem_cons_eraseIdx_perm hlt).symm

namespace Pool

/-- The slots of `taken` are out, each once, and all others are free. -/
def Lends (pool : Pool) (taken : List Nat) : Prop :=
  (pool.free ++ taken).Perm (List.range pool.capacity)

theorem new_lends (name : String) (capacity : Nat) : (Pool.new name capacity).Lends [] := by
  simp [Lends, Pool.new]

theorem Lends.perm {pool : Pool} {taken other : List Nat}
    (h : pool.Lends taken) (hperm : taken.Perm other) : pool.Lends other :=
  (hperm.symm.append_left pool.free).trans h

/-- A slot that is taken was free, and joins those that are out. -/
theorem Lends.acquire {pool next : Pool} {taken : List Nat} {slot : Nat}
    (h : pool.Lends taken) (hacquire : pool.acquire = .ok (slot, next)) :
    next.Lends (slot :: taken) ∧ next.capacity = pool.capacity := by
  unfold Pool.acquire at hacquire
  split at hacquire
  · rename_i first rest hfree
    simp only [Except.ok.injEq, Prod.mk.injEq] at hacquire
    obtain ⟨rfl, rfl⟩ := hacquire
    refine ⟨?_, rfl⟩
    unfold Lends at h ⊢
    rw [hfree] at h
    exact List.perm_middle.trans h
  · cases hacquire

/-- There is no other reason to refuse a slot. -/
theorem acquire_eq_error_iff {pool : Pool} {e : PoolError} :
    pool.acquire = .error e ↔ pool.free = [] ∧ e = .exhausted pool.name pool.capacity := by
  unfold Pool.acquire
  split
  · rename_i hfree
    simp [hfree]
  · rename_i hfree
    simp [hfree, eq_comm]

theorem acquire_name {pool next : Pool} {slot : Nat} (h : pool.acquire = .ok (slot, next)) :
    next.name = pool.name := by
  unfold Pool.acquire at h
  split at h
  · cases h
    rfl
  · cases h

theorem release_acquire {pool next : Pool} {slot : Nat}
    (h : pool.acquire = .ok (slot, next)) : next.release slot = pool := by
  obtain ⟨name, capacity, free⟩ := pool
  unfold Pool.acquire at h
  cases free with
  | nil => cases h
  | cons top rest =>
    cases h
    rfl

/-- A slot that comes back is free again. -/
theorem Lends.release {pool : Pool} {taken : List Nat} {slot : Nat}
    (h : pool.Lends (slot :: taken)) : (pool.release slot).Lends taken := by
  unfold Lends at h ⊢
  exact List.perm_middle.symm.trans h

theorem Lends.nodup {pool : Pool} {taken : List Nat} (h : pool.Lends taken) : taken.Nodup :=
  (List.nodup_append.mp (h.nodup_iff.mpr List.nodup_range)).2.1

theorem Lends.length {pool : Pool} {taken : List Nat} (h : pool.Lends taken) :
    pool.available + taken.length = pool.capacity := by
  have hlength := h.length_eq
  rwa [List.length_append, List.length_range] at hlength

/-- A slot is there unless all are out. -/
theorem Lends.free_eq_nil_iff {pool : Pool} {taken : List Nat} (h : pool.Lends taken) :
    pool.free = [] ↔ taken.length = pool.capacity := by
  have hlength := h.length
  unfold Pool.available at hlength
  rw [← List.length_eq_zero_iff]
  omega

theorem Lends.inUse {pool : Pool} {taken : List Nat} (h : pool.Lends taken) :
    pool.inUse = taken.length := by
  have hlength := h.length
  unfold Pool.inUse
  omega

theorem Lends.inUse_le {pool : Pool} {taken : List Nat} (h : pool.Lends taken) :
    pool.inUse ≤ pool.capacity := by
  have hlength := h.length
  rw [h.inUse]
  omega

end Pool

/-- The bytes of some loans together. -/
def totalBytes (loans : List UInt64) : Nat := (loans.map UInt64.toNat).sum

@[simp] theorem totalBytes_nil : totalBytes [] = 0 := rfl

@[simp] theorem totalBytes_cons (size : UInt64) (loans : List UInt64) :
    totalBytes (size :: loans) = size.toNat + totalBytes loans := by
  simp [totalBytes]

@[simp] theorem totalBytes_append (first second : List UInt64) :
    totalBytes (first ++ second) = totalBytes first + totalBytes second := by
  simp [totalBytes]

theorem totalBytes_perm {first second : List UInt64} (h : first.Perm second) :
    totalBytes first = totalBytes second :=
  (h.map UInt64.toNat).sum_eq

namespace Budget

/-- The loans are what is in use, and they are within the limit. -/
structure Lends (budget : Budget) (loans : List UInt64) : Prop where
  used : budget.used.toNat = totalBytes loans
  within : budget.used ≤ budget.limit

theorem new_lends (limit : UInt64) : (Budget.new limit).Lends [] :=
  ⟨rfl, UInt64.le_iff_toNat_le.mpr (by simp [Budget.new])⟩

theorem Lends.perm {budget : Budget} {loans other : List UInt64}
    (h : budget.Lends loans) (hperm : loans.Perm other) : budget.Lends other :=
  ⟨h.used.trans (totalBytes_perm hperm), h.within⟩

/-- Bytes are there as long as the sum, as a number, is within the limit. -/
theorem reserve_eq (budget : Budget) (size : UInt64) :
    budget.reserve size =
      if budget.used.toNat + size.toNat ≤ budget.limit.toNat then
        .ok
          { budget with
            used := budget.used + size
            peak := max budget.peak (budget.used + size) }
      else .error (.noMemory size.toNat (budget.limit.toNat - budget.used.toNat)) := by
  have hword := budget.limit.toNat_lt
  unfold Budget.reserve addChecked
  by_cases hfits : budget.used.toNat + size.toNat < UInt64.size
  · have hsum : (budget.used + size).toNat = budget.used.toNat + size.toNat := by
      rw [UInt64.toNat_add]
      exact Nat.mod_eq_of_lt hfits
    rw [if_pos hfits]
    by_cases hlimit : budget.used + size ≤ budget.limit
    · rw [Option.filter_some_pos (by simpa using hlimit)]
      rw [UInt64.le_iff_toNat_le, hsum] at hlimit
      rw [if_pos hlimit]
    · rw [Option.filter_some_neg (by simpa using hlimit)]
      rw [UInt64.le_iff_toNat_le, hsum] at hlimit
      rw [if_neg hlimit]
      rfl
  · have hlimit : ¬budget.used.toNat + size.toNat ≤ budget.limit.toNat := by
      change ¬_ < 2 ^ 64 at hfits
      omega
    rw [if_neg hfits, if_neg hlimit]
    rfl

theorem reserve_iff (budget : Budget) (size : UInt64) :
    (∃ next, budget.reserve size = .ok next) ↔
      budget.used.toNat + size.toNat ≤ budget.limit.toNat := by
  rw [reserve_eq]
  split <;> simp [*]

/-- What is granted does not wrap around. -/
theorem toNat_used_add {budget : Budget} {size : UInt64}
    (h : budget.used.toNat + size.toNat ≤ budget.limit.toNat) :
    (budget.used + size).toNat = budget.used.toNat + size.toNat := by
  have hword := budget.limit.toNat_lt
  rw [UInt64.toNat_add, Nat.mod_eq_of_lt (by omega)]

/-- A reservation that is granted adds its bytes, and stays within the limit. -/
theorem Lends.reserve {budget next : Budget} {loans : List UInt64} {size : UInt64}
    (h : budget.Lends loans) (hreserve : budget.reserve size = .ok next) :
    next.Lends (size :: loans) ∧ next.limit = budget.limit := by
  rw [reserve_eq] at hreserve
  split at hreserve
  · rename_i hlimit
    cases hreserve
    have hsum := toNat_used_add hlimit
    refine ⟨⟨?_, UInt64.le_iff_toNat_le.mpr (hsum ▸ hlimit)⟩, rfl⟩
    have hused := h.used
    simp only [totalBytes_cons]
    omega
  · cases hreserve

/-- Bytes that come back were in use, so that the difference is one of numbers. -/
theorem Lends.release {budget : Budget} {loans : List UInt64} {size : UInt64}
    (h : budget.Lends (size :: loans)) : (budget.release size).Lends loans := by
  have hused := h.used
  simp only [totalBytes_cons] at hused
  have hle : size ≤ budget.used := UInt64.le_iff_toNat_le.mpr (by omega)
  have hdifference := UInt64.toNat_sub_of_le budget.used size hle
  have hwithin := UInt64.le_iff_toNat_le.mp h.within
  constructor
  · change (budget.used - size).toNat = totalBytes loans
    omega
  · apply UInt64.le_iff_toNat_le.mpr
    change (budget.used - size).toNat ≤ budget.limit.toNat
    omega

end Budget

end HomeGateway
