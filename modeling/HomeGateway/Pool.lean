import HomeGateway.Error

/-!
Fixed numbers of slots. Holding a slot entitles an event, a subscription or a query to
exist; when none is free, nothing more can be made.
-/

namespace HomeGateway

/-- `free` is a stack: the slot that was given back last is taken first. -/
structure Pool where
  name : String
  capacity : Nat
  free : List Nat

namespace Pool

/-- All slots free, the lowest on top. -/
def new (name : String) (capacity : Nat) : Pool :=
  { name, capacity, free := List.range capacity }

def available (pool : Pool) : Nat := pool.free.length

def inUse (pool : Pool) : Nat := pool.capacity - pool.available

def acquire (pool : Pool) : Except PoolError (Nat × Pool) :=
  match pool.free with
  | slot :: rest => .ok (slot, { pool with free := rest })
  | [] => .error (.exhausted pool.name pool.capacity)

def release (pool : Pool) (slot : Nat) : Pool :=
  { pool with free := slot :: pool.free }

end Pool

end HomeGateway
