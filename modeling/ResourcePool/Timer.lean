/-!
# Timers

Virtual time is counted in whole milliseconds. A timer is the moment at which it is due; it fires
when somebody looks at it at that moment or later.

Whoever waits is looked at in rounds, and in one round only so many timers fire, so that nobody can
keep the others from their turn. What is left for a round is its `Ration`. Once that is used up a
timer does not fire even if it is due; it is looked at again in another round at the same moment.
-/

namespace ResourcePool

/-- The milliseconds of the longest sleep: thirty years of 365 days. -/
def longestSleep : Nat := 30 * 365 * 24 * 60 * 60 * 1000

/-- How many timers fire in one round. -/
def firingsPerRound : Nat := 128

/-- What is left of the timers that may fire in a round. -/
structure Ration where
  /-- How many more timers may fire. -/
  left : Nat := firingsPerRound
  /-- Whether a timer was looked at when none was left to fire, so that another round is due. -/
  isShort : Bool := false
  deriving DecidableEq, Repr

namespace Ration

/-- Looks at a timer: whether it fires, and what is left of the ration then. -/
def look (ration : Ration) (due now : Nat) : Bool × Ration :=
  if ration.left = 0 then (false, { ration with isShort := true })
  else if due ≤ now then (true, { ration with left := ration.left - 1 })
  else (false, ration)

/-- The last timer of a ration fires, and the one after it has to be looked at again. -/
example :
    ({ left := 1 } : Ration).look 5 5 = (true, { left := 0 }) ∧
      ({ left := 0 } : Ration).look 5 5 = (false, { left := 0, isShort := true }) := by
  decide

end Ration

end ResourcePool
