import ResourcePool.Scenario.Schedule

/-!
# Whole scenarios

A scenario is run from a fresh pool and a fresh factory. After its last command every guard and then
every handle is dropped, which closes the pool.
-/

namespace ResourcePool.Scenario

/-- What is reported of a whole scenario. -/
structure Transcript (ω : Type) where
  /-- The steps in order. -/
  steps : List (StepReport ω)
  /-- What happened when everything was dropped in the end. -/
  ending : Report ω

namespace Bench

variable {σ ω : Type}

/-- Carries out one top-level step. A waiting borrow is a task of its own. -/
def step (kit : Apparatus σ ω) (fuel : Nat) (command : Command) : Play σ ω (StepReport ω) := do
  match command with
  | .tasks _ lists =>
    let events ← runTasks kit fuel lists
    return { report := ← takeReport .nothing none, events := some events }
  | .through _ (.borrowWaiting ..) | .through _ (.getWaiting ..) =>
    let some event := (← runTasks kit fuel [[command]]).head? | failure
    return { report := event.report }
  | command =>
    let outcome ← perform kit (settle kit fuel) command
    return { report := ← takeReport outcome none }

/-- Drops every guard and then every handle. -/
def dropAll (kit : Apparatus σ ω) (fuel : Nat) : Play σ ω (Report ω) := do
  for name in (← get).guards.names do
    discard <| perform kit (settle kit fuel) (.dropGuard name)
  for name in (← get).handles.names do
    discard <| perform kit (settle kit fuel) (.dropHandle name)
  takeReport .nothing none

/-- Carries out a whole scenario. -/
def run (kit : Apparatus σ ω) (fuel : Nat) (commands : List Command) : Play σ ω (Transcript ω) := do
  let steps ← commands.mapM (step kit fuel)
  return { steps := steps, ending := ← dropAll kit fuel }

end Bench

/-- The fuel of a scenario: how many calls of the factory one step may lead to, and how many moments
may be of interest while tasks run. It is far more than any scenario is meant to need. -/
def fuel : Nat := 1000000000

/-- **The transcript of a scenario** on a new pool with one handle of the given name. There is none
if a step does not come to an end within the fuel. -/
def transcript? {σ ω : Type} (kit : Apparatus σ ω) (config : Config) (handle : String)
    (commands : List Command) : Option (Transcript ω) :=
  (Bench.run kit fuel commands (Bench.create kit config handle)).map (·.1)

end ResourcePool.Scenario
