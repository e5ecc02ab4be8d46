import HomeGateway.Error

/-! The bytes that decoded data may take up, in 64-bit words. -/

namespace HomeGateway

/-- The sum of two words, if it is one. -/
def addChecked (a b : UInt64) : Option UInt64 :=
  if a.toNat + b.toNat < UInt64.size then some (a + b) else none

/-- `peak` is the most that was ever reserved at once. -/
structure Budget where
  limit : UInt64
  used : UInt64
  peak : UInt64

namespace Budget

def new (limit : UInt64) : Budget := { limit, used := 0, peak := 0 }

def remaining (budget : Budget) : Nat := budget.limit.toNat - budget.used.toNat

def reserve (budget : Budget) (size : UInt64) : Except PoolError Budget :=
  match (addChecked budget.used size).filter fun total => total ≤ budget.limit with
  | some total => .ok { budget with used := total, peak := max budget.peak total }
  | none => .error (.noMemory size.toNat budget.remaining)

def release (budget : Budget) (size : UInt64) : Budget :=
  { budget with used := budget.used - size }

end Budget

end HomeGateway
