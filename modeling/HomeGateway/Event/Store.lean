import HomeGateway.Budget
import HomeGateway.Event.Basic
import HomeGateway.Pool

/-!
Live events and their memory. Every holder of an event is counted; when the last one lets
go, the event disappears and its slot and its bytes are free again.
-/

namespace HomeGateway

/-- Names an event. No two events of a store ever have the same name. -/
abbrev EventRef := Nat

structure StoredEvent where
  ref : EventRef
  slot : Nat
  /-- Bytes reserved for the reading. -/
  lease : Option UInt64
  holders : Nat
  event : Event

structure EventStore where
  slots : Pool
  budget : Budget
  live : List StoredEvent
  nextRef : EventRef

namespace EventStore

def new (capacity : Nat) (dataLimit : UInt64) : EventStore :=
  { slots := .new "event" capacity, budget := .new dataLimit, live := [], nextRef := 0 }

def find? (store : EventStore) (ref : EventRef) : Option StoredEvent :=
  store.live.find? fun e => e.ref = ref

/-- The number of holders, zero if the event is gone. -/
def holders (store : EventStore) (ref : EventRef) : Nat :=
  match store.find? ref with
  | some e => e.holders
  | none => 0

/-! An event under construction is a slot that was taken and not yet filled. -/

def takeSlot (store : EventStore) : Except PoolError (Nat × EventStore) :=
  match store.slots.acquire with
  | .ok (slot, slots) => .ok (slot, { store with slots })
  | .error e => .error e

def freeSlot (store : EventStore) (slot : Nat) : EventStore :=
  { store with slots := store.slots.release slot }

def reserve (store : EventStore) (size : UInt64) : Except PoolError EventStore :=
  match store.budget.reserve size with
  | .ok budget => .ok { store with budget }
  | .error e => .error e

/-- Fills a slot. The maker of the event is its first holder. -/
def freeze (store : EventStore) (slot : Nat) (lease : Option UInt64) (event : Event) :
    EventRef × EventStore :=
  let stored := { ref := store.nextRef, slot, lease, holders := 1, event }
  (store.nextRef, { store with live := store.live ++ [stored], nextRef := store.nextRef + 1 })

def hold (store : EventStore) (ref : EventRef) : EventStore :=
  { store with
    live := store.live.map fun e => if e.ref = ref then { e with holders := e.holders + 1 } else e }

/-- Gives back what a removed event occupied. -/
def reclaim (store : EventStore) (e : StoredEvent) : EventStore :=
  { store with
    slots := store.slots.release e.slot
    budget := match e.lease with
      | some size => store.budget.release size
      | none => store.budget }

/-- One holder lets go. -/
def release (store : EventStore) (ref : EventRef) : EventStore :=
  match store.find? ref with
  | none => store
  | some e =>
    if e.holders ≤ 1 then
      { store with live := store.live.filter fun e => e.ref ≠ ref }.reclaim e
    else
      { store with
        live := store.live.map fun e =>
          if e.ref = ref then { e with holders := e.holders - 1 } else e }

def releaseAll (store : EventStore) (refs : List EventRef) : EventStore :=
  refs.foldl release store

end EventStore

end HomeGateway
