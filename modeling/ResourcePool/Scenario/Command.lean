import ResourcePool.Factory
import ResourcePool.Scenario.Key

/-!
# The commands of a scenario

A scenario is a list of commands to clients of one pool. Handles, guards and borrowed resources go
by names that the scenario chooses.

* `Order` — what is done through a handle.
* `Command` — what can stand in a scenario: an order, the handling of guards and resources, the
  setting up of the factory, and tasks that run side by side.
* `Rule` — how the scripted factory treats some of its calls. A rule may hold commands, which the
  factory carries out on the same pool before it answers.
-/

namespace ResourcePool.Scenario

/-! ## Orders -/

/-- What is done through a handle. -/
inductive Order where
  /-- Borrow, and keep the resource under a name. -/
  | borrow (key : Key) (keep : Option String)
  /-- Borrow if that succeeds, and keep the resource under a name. -/
  | tryBorrow (key : Key) (keep : Option String)
  /-- Return a copy of a kept resource. -/
  | giveBack (key : Key) (object : String)
  /-- Invalidate a copy of a kept resource. -/
  | invalidate (key : Key) (object : String)
  /-- Borrow into a guard of the given name. -/
  | get (key : Key) (guard : String)
  /-- Add one idle resource. -/
  | add (key : Key)
  /-- Add so many idle resources. -/
  | prefill (key : Key) (count : Nat)
  /-- Destroy the idle resources of a key. -/
  | clearKey (key : Key)
  /-- Destroy all idle resources. -/
  | clear
  /-- Close the pool. -/
  | close
  /-- Ask whether the pool is open. -/
  | state
  /-- Ask for the counts of a key. -/
  | counts (key : Key)
  /-- Ask for the configuration. -/
  | config
  /-- Ask for the outline of the pool, on one line or spread over several. -/
  | debug (spread : Bool)
  /-- Ask for the metrics as a table. -/
  | metrics
  /-- Ask for the metrics as a record. -/
  | metricsRecord
  /-- Ask for the exposition of the metrics under the name of a pool and with tags. -/
  | exposition (pool : String) (tags : List (String × String))
  /-- Clone the handle under a new name. -/
  | clone (name : String)
  /-- Borrow, waiting while the key is at capacity, and keep the resource under a name. -/
  | borrowWaiting (key : Key) (keep : Option String)
  /-- Borrow into a guard, waiting while the key is at capacity. -/
  | getWaiting (key : Key) (guard : String)
  /-- An order that is not known. -/
  | unknown (name : String)

/-- The name of an order. -/
def Order.name : Order → String
  | .borrow .. => "borrow"
  | .tryBorrow .. => "try_borrow"
  | .giveBack .. => "return"
  | .invalidate .. => "invalidate"
  | .get .. => "get"
  | .add _ => "add"
  | .prefill .. => "prefill"
  | .clearKey _ => "clear_key"
  | .clear => "clear"
  | .close => "close"
  | .state => "state"
  | .counts _ => "counts"
  | .config => "config"
  | .debug _ => "debug"
  | .metrics => "metrics"
  | .metricsRecord => "metrics_json"
  | .exposition .. => "prometheus"
  | .clone _ => "clone"
  | .borrowWaiting .. => "borrow_async"
  | .getWaiting .. => "get_async"
  | .unknown name => name

/-! ## Rules -/

/-- How a call ends under a rule. -/
inductive Mode where
  /-- It succeeds. -/
  | ok
  /-- It fails. -/
  | fail
  /-- It panics. -/
  | panic
  /-- A validation finds the resource unusable; any other step succeeds. -/
  | reject
  /-- It succeeds, under a name of its own. -/
  | other (name : String)
  deriving DecidableEq, Repr

/-- The name of a mode. -/
def Mode.name : Mode → String
  | .ok => "ok"
  | .fail => "fail"
  | .panic => "panic"
  | .reject => "reject"
  | .other name => name

/-- The mode of a name. -/
def Mode.ofName : String → Mode
  | "ok" => .ok
  | "fail" => .fail
  | "panic" => .panic
  | "reject" => .reject
  | name => .other name

/-- How the scripted factory treats some of its calls; `α` is the type of the commands in it. -/
structure Rule (α : Type) where
  /-- The step whose calls it is about; a rule about no step at all never applies. -/
  step : Option Step
  /-- The key it is about, if it is about one only. -/
  key : Option Key
  /-- The number of the resource it is about, if it is about one only. -/
  id : Option Nat
  /-- How the call ends. -/
  mode : Mode
  /-- How many calls that it is about it lets pass first. -/
  skip : Nat
  /-- How often it is used, if not without end. -/
  times : Option Nat
  /-- What the factory does before it answers. -/
  hooks : List α

namespace Rule

variable {α : Type}

/-- A rule with something to do is used once if nothing else is said, because it would otherwise
apply to the calls that it leads to itself. -/
def armed (rule : Rule α) : Rule α :=
  { rule with times := rule.times <|> if rule.hooks.isEmpty then none else some 1 }

/-- Whether a rule is about a call and not used up. -/
def applies (rule : Rule α) (step : Step) (key : Key) (id : Nat) : Bool :=
  rule.step == some step && rule.key.all (· == key) && rule.id.all (· == id) && rule.times != some 0

/-- The rule after one use. -/
def usedOnce (rule : Rule α) : Rule α := { rule with times := rule.times.map (· - 1) }

/-- The first of some rules that applies to a call, and the rules afterwards. A rule that lets calls
pass counts the call and leaves it to later rules. -/
def pick (step : Step) (key : Key) (id : Nat) : List (Rule α) → Option (Rule α) × List (Rule α)
  | [] => (none, [])
  | rule :: rest =>
    if rule.applies step key id then
      if rule.skip = 0 then (some rule, rule.usedOnce :: rest)
      else
        let (picked, others) := pick step key id rest
        (picked, { rule with skip := rule.skip - 1 } :: others)
    else
      let (picked, others) := pick step key id rest
      (picked, rule :: others)

end Rule

/-! ## Commands -/

/-- What is asked of a recording factory. -/
inductive RecorderCommand where
  /-- Show the calls recorded so far. -/
  | calls
  /-- Show the calls recorded so far that did not destroy. -/
  | callsWithoutDestroy
  /-- Show the resources destroyed so far. -/
  | destroyed
  /-- Forget the calls recorded so far. -/
  | clearCalls
  /-- Start afresh. -/
  | reset
  /-- Switch the failing of a step on or off. -/
  | setFailing (step : Step) (on : Bool)
  /-- Switch the rejection of every resource on or off. -/
  | setRejecting (on : Bool)
  deriving DecidableEq, Repr

/-- The name of a command to a recording factory. -/
def RecorderCommand.name : RecorderCommand → String
  | .calls => "calls"
  | .callsWithoutDestroy => "calls_without_destroy"
  | .destroyed => "destroyed"
  | .clearCalls => "clear_calls"
  | .reset => "reset"
  | .setFailing step _ => "set_" ++ step.name ++ "_fail"
  | .setRejecting _ => "set_validate_reject"

/-- What can stand in a scenario. Some commands have a meaning only in some places; elsewhere they
count as orders that are not known, and this is all that their handle is for. -/
inductive Command where
  /-- Do something through the handle of a name. -/
  | through (handle : String) (order : Order)
  /-- Show a guard. -/
  | showGuard (guard : String)
  /-- Drop a guard. -/
  | dropGuard (guard : String)
  /-- Return the resource of a guard. -/
  | release (guard : String)
  /-- Invalidate the resource of a guard. -/
  | invalidateGuard (guard : String)
  /-- Change a resource in place: that of a guard, or a kept one if there is no such guard. -/
  | touch (guard : Option String) (object : String) (value : Json)
  /-- Keep a resource that the pool never made. -/
  | forge (value : Json) (keep : Option String)
  /-- Add a rule to a scripted factory. -/
  | rule (rule : Rule Command)
  /-- Forget the rules of a scripted factory. -/
  | clearRules
  /-- Drop a handle. -/
  | dropHandle (handle : String)
  /-- Ask something of the factory, if it is a recording one. -/
  | recorder (handle : String) (command : RecorderCommand)
  /-- Run lists of commands side by side, outside of tasks. -/
  | tasks (handle : String) (tasks : List (List Command))
  /-- Let time pass, in milliseconds, inside a task. -/
  | sleep (handle : String) (ms : Nat)
  deriving Inhabited

/-- The name of a command. -/
def Command.name : Command → String
  | .through _ order => order.name
  | .showGuard _ => "guard"
  | .dropGuard _ => "drop"
  | .release _ => "release"
  | .invalidateGuard _ => "invalidate_guard"
  | .touch .. => "touch"
  | .forge .. => "forge"
  | .rule _ => "rule"
  | .clearRules => "clear_rules"
  | .dropHandle _ => "drop_handle"
  | .recorder _ command => command.name
  | .tasks .. => "tasks"
  | .sleep .. => "sleep"

/-- Whether the destroys at the end of a command are those of a pool that is emptied, so that the
order of their keys has no meaning. -/
def Command.emptiesPool : Command → Bool
  | .through _ .clear | .through _ .close | .dropHandle _ | .dropGuard _ | .release _
  | .invalidateGuard _ => true
  | _ => false

end ResourcePool.Scenario
