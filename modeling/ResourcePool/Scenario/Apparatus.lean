import ResourcePool.Factory.Numbering
import ResourcePool.Scenario.Command
import ResourcePool.Scenario.Report

/-!
# The factories of scenarios

A scenario needs more of a factory than a pool does: resources can be forged and changed from
outside, and the factory may keep a log, carry out commands before it answers, or be asked about
itself. An `Apparatus` is a factory with all that.

* `Apparatus.scripted` — the factory that follows rules.
* `Apparatus.recording` — the recording factory.
* `Apparatus.sequence`, `Apparatus.numbering` — the two factories that number their resources.
-/

namespace ResourcePool.Scenario

/-- What a factory does about a call. -/
structure Consultation (ω : Type) where
  /-- The answer. -/
  answer : Answer ω String
  /-- What goes into the log. -/
  entry : Option (LogEntry ω) := none
  /-- The commands that it carries out before it answers. -/
  hooks : List Command := []

/-- A factory with state `σ` and resources `ω` as a scenario uses it. -/
structure Apparatus (σ ω : Type) where
  /-- The state at the start. -/
  initial : σ
  /-- What it does about a call. -/
  consult : Request Key ω → σ → Consultation ω × σ
  /-- Makes a resource behind the pool's back. -/
  forge : Json → ω
  /-- Changes a resource behind the pool's back. -/
  touch : Json → ω → ω
  /-- Adds a rule. -/
  addRule : Rule Command → σ → σ := fun _ state => state
  /-- Forgets all rules. -/
  clearRules : σ → σ := fun state => state
  /-- Carries out a command to a recording factory, if it is one. -/
  record : RecorderCommand → σ → Option (Outcome ω × σ) := fun _ _ => none

/-- A factory that answers every call on its own, as an apparatus; `wording` puts its errors into
words. -/
def Consultation.ofFactory {σ ω ε : Type} (factory : Factory σ Key ω ε) (wording : ε → String)
    (request : Request Key ω) (state : σ) : Consultation ω × σ :=
  let (answer, state) := factory request state
  ({ answer := answer.mapError wording }, state)

/-! ## The scripted factory -/

/-- A resource of the scripted factory. -/
structure ScriptedObject where
  /-- Its number. -/
  id : Nat
  /-- How often it was activated. -/
  activations : Nat := 0
  /-- How often it was passivated. -/
  passivations : Nat := 0
  /-- What was attached to it from outside. -/
  tag : Json := .null

/-- The state of the scripted factory. -/
structure Script where
  /-- The rules, the oldest first. -/
  rules : List (Rule Command) := []
  /-- The number for the next resource. -/
  nextId : Nat := 0

namespace Script

/-- The resource that a call is about, as the call finds or makes it. -/
def subject (script : Script) : Request Key ScriptedObject → ScriptedObject
  | .create _ => { id := script.nextId }
  | .activate _ object => { object with activations := object.activations + 1 }
  | .passivate _ object => { object with passivations := object.passivations + 1 }
  | .validate _ object | .destroy _ object => object

/-- How a call ends that no rule applies to: well, unless the resource has been passivated too
often to be found usable. -/
def usualMode (maxPassivations : Option Nat) (step : Step) (object : ScriptedObject) : Mode :=
  if step = .validate && maxPassivations.any (· ≤ object.passivations) then .reject else .ok

/-- The answer to a call that ends in a given mode. -/
def answerIn (step : Step) (object : ScriptedObject) : Mode → Answer ScriptedObject String
  | .ok | .other _ => .done object
  | .fail => .failed (StepFailure.message ⟨step⟩)
  | .panic => .panicked (step.name ++ " blew up")
  | .reject => .refused object

/-- **What the script says about a call.** A number is used up by every call to create, however it
ends. -/
def consult (maxPassivations : Option Nat) (request : Request Key ScriptedObject)
    (script : Script) : Consultation ScriptedObject × Script :=
  let object := script.subject request
  let nextId := if request.step = .create then script.nextId + 1 else script.nextId
  let (rule, rules) := Rule.pick request.step request.key object.id script.rules
  let mode := (rule.map (·.mode)).getD (usualMode maxPassivations request.step object)
  ({ answer := answerIn request.step object mode
     entry := some (.call request.step request.key object.id mode.name)
     hooks := (rule.map (·.hooks)).getD [] },
    { rules := rules, nextId := nextId })

end Script

namespace Apparatus

/-- The whole number in a JSON value, and zero if it holds none. -/
def numberIn : Json → Nat
  | .int value => value.toNat
  | _ => 0

/-- The text in a JSON value, and the empty text if it holds none. -/
def textIn : Json → String
  | .string text => text
  | _ => ""

/-- The scripted factory. Without a rule to the contrary, validation rejects resources that have
been passivated `maxPassivations` times. -/
def scripted (maxPassivations : Option Nat) : Apparatus Script ScriptedObject where
  initial := {}
  consult := Script.consult maxPassivations
  forge value := { id := numberIn value }
  touch value object := { object with tag := value }
  addRule rule script := { script with rules := script.rules ++ [rule.armed] }
  clearRules script := { script with rules := [] }

/-! ## The other factories -/

/-- Carries out a command to a recording factory. -/
def control (command : RecorderCommand) (recorder : Recorder Key) : Outcome Nat × Recorder Key :=
  match command with
  | .calls => (.calls recorder.calls, recorder)
  | .callsWithoutDestroy => (.calls recorder.callsWithoutDestroy, recorder)
  | .destroyed => (.numbers recorder.destroyed, recorder)
  | .clearCalls => (.nothing, recorder.clearCalls)
  | .reset => (.nothing, recorder.reset)
  | .setFailing step on => (.nothing, recorder.setFailing step on)
  | .setRejecting on => (.nothing, recorder.setRejecting on)

/-- The recording factory. -/
def recording : Apparatus (Recorder Key) Nat where
  initial := {}
  consult := Consultation.ofFactory Recorder.answer StepFailure.message
  forge := numberIn
  touch value _ := numberIn value
  record command recorder := some (control command recorder)

/-- The factory that numbers the resources of each key. -/
def sequence : Apparatus (Numbering.Counts Key) String where
  initial := []
  consult := Consultation.ofFactory (Numbering.perKey Key.label) id
  forge := textIn
  touch value _ := textIn value

/-- The factory that numbers all resources together. -/
def numbering : Apparatus Nat String where
  initial := 0
  consult := Consultation.ofFactory (Numbering.overall Key.label) Numbering.Failure.message
  forge := textIn
  touch value _ := textIn value

end Apparatus

end ResourcePool.Scenario
