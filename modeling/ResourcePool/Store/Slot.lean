import ResourcePool.Config

/-!
# Slots

A slot holds what a pool knows about one key: the idle resources, how many resources are out on
loan, and how many borrows have reserved room without having a resource yet.
-/

namespace ResourcePool

/-- The idle resources and the counts of one key. -/
structure Slot (ω : Type) where
  /-- The idle resources, the one that came in last at the front. -/
  idle : List ω := []
  /-- The resources that are out on loan. -/
  active : Nat := 0
  /-- The borrows in progress that have reserved room. -/
  inFlight : Nat := 0
  /-- Whether the slot has been taken out of use for good. -/
  retired : Bool := false
  deriving DecidableEq, Repr

namespace Slot

variable {ω : Type}

/-- Nothing idle, nothing on loan and no borrow in progress. -/
def isVacant (slot : Slot ω) : Bool :=
  slot.idle.isEmpty && slot.active == 0 && slot.inFlight == 0

/-- Reserves room for a borrow. -/
def reserve (slot : Slot ω) : Slot ω := { slot with inFlight := slot.inFlight + 1 }

/-- Turns a reservation into a loan. -/
def commit (slot : Slot ω) : Slot ω :=
  { slot with inFlight := slot.inFlight - 1, active := slot.active + 1 }

/-- Gives a reservation up. -/
def cancel (slot : Slot ω) : Slot ω := { slot with inFlight := slot.inFlight - 1 }

/-- Forgets one loan. -/
def release (slot : Slot ω) : Slot ω := { slot with active := slot.active - 1 }

/-- Adds a resource to the idle ones. -/
def push (slot : Slot ω) (object : ω) : Slot ω := { slot with idle := object :: slot.idle }

/-- Takes the next idle resource. -/
def take? (slot : Slot ω) : Selection → Option (ω × Slot ω)
  | .lifo => slot.idle.head?.map fun object => (object, { slot with idle := slot.idle.tail })
  | .fifo => slot.idle.getLast?.map fun object => (object, { slot with idle := slot.idle.dropLast })

/-- Retires a vacant slot. -/
def retireIfVacant (slot : Slot ω) : Slot ω :=
  { slot with retired := slot.retired || slot.isVacant }

end Slot

end ResourcePool
