import ResourcePool.Pool.Completion

/-!
# A first use of a pool

The smallest use of a pool: one resource is borrowed, given back, and idle afterwards.
-/

namespace ResourcePool.Demo

/-- The factory of the demonstration: it never fails and calls every resource after its key. -/
def factory : Factory Unit String String Empty :=
  .ofCreate fun key state => (.ok (key ++ "-object"), state)

/-- The key of the demonstration. -/
def key : String := "alpha"

/-- What is said before the demonstration. -/
def heading : List String := [
  "=== Keyed Object Pool v1.0.0 ===",
  "See demos/ directory for usage examples",
  "Run: cargo run --example basic",
  "",
  "Quick Demo:"]

/-- Borrows a resource and gives it back, and tells what it was and how many are idle then. -/
def report : List String :=
  let (borrowed, pool, state) := Pool.run factory (.empty .standard .linking) (.borrow key) ()
  match borrowed.lent? with
  | none => []
  | some object =>
    let (_, pool, _) := Pool.run factory pool (.giveBack key object) state
    ["  Got object: " ++ object, "  Idle after return: " ++ toString (pool.numIdle key)]

/-- The text of the demonstration. -/
def text : String := String.join ((heading ++ report).map fun line => line ++ "\n")

end ResourcePool.Demo
