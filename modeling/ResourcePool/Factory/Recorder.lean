import ResourcePool.Factory

/-!
# The recording factory

A factory for trials: its resources are the numbers 0, 1, 2, …, it keeps a record of every call, and
each of its steps can be switched to fail.

* `Recorder.answer` is the factory itself.
* `Recorder.destroyed` and `Recorder.callsWithoutDestroy` are views of the record.
-/

namespace ResourcePool

/-- A step that failed because it was switched to. -/
structure StepFailure where
  /-- The step. -/
  step : Step
  deriving DecidableEq, Repr

/-- The wording of a failed step. -/
def StepFailure.message (failure : StepFailure) : String := failure.step.name ++ " failed"

/-- A call of a recording factory, with what it returned if it succeeded. -/
inductive RecordedCall (κ : Type) where
  | create (key : κ) (returned : Option Nat)
  | activate (key : κ) (object : Nat)
  | validate (key : κ) (object : Nat) (returned : Option Bool)
  | passivate (key : κ) (object : Nat)
  | destroy (key : κ) (object : Nat)
  deriving DecidableEq, Repr

/-- The resource that a call destroyed. -/
def RecordedCall.destroyed? {κ : Type} : RecordedCall κ → Option Nat
  | .destroy _ object => some object
  | _ => none

/-- The state of a recording factory. -/
structure Recorder (κ : Type) where
  /-- The calls so far, the latest first. -/
  latest : List (RecordedCall κ) := []
  /-- The number for the next resource. -/
  next : Nat := 0
  /-- The steps that are switched to fail. -/
  failing : List Step := []
  /-- Whether validation is switched to find every resource unusable. -/
  rejecting : Bool := false
  deriving DecidableEq, Repr

namespace Recorder

variable {κ : Type}

/-! ## The factory -/

/-- Adds a call to the record. -/
def record (recorder : Recorder κ) (call : RecordedCall κ) : Recorder κ :=
  { recorder with latest := call :: recorder.latest }

/-- The answer of a step that succeeds unless it is switched to fail. -/
def unlessFailing (recorder : Recorder κ) (step : Step) (success : Answer Nat StepFailure) :
    Answer Nat StepFailure :=
  if step ∈ recorder.failing then .failed ⟨step⟩ else success

/-- The verdict of a validation, unless it is switched to fail. -/
def verdict? (recorder : Recorder κ) : Option Bool :=
  if .validate ∈ recorder.failing then none else some (!recorder.rejecting)

/-- **Answers a call and records it.** A number is used up even if creating fails. -/
def answer : Factory (Recorder κ) κ Nat StepFailure
  | .create key, recorder =>
    let object := recorder.next
    let returned := if .create ∈ recorder.failing then none else some object
    (recorder.unlessFailing .create (.done object),
      { recorder.record (.create key returned) with next := object + 1 })
  | .activate key object, recorder =>
    (recorder.unlessFailing .activate (.done object), recorder.record (.activate key object))
  | .validate key object, recorder =>
    let verdict := if recorder.rejecting then .refused object else .done object
    (recorder.unlessFailing .validate verdict,
      recorder.record (.validate key object recorder.verdict?))
  | .passivate key object, recorder =>
    (recorder.unlessFailing .passivate (.done object), recorder.record (.passivate key object))
  | .destroy key object, recorder =>
    (recorder.unlessFailing .destroy (.done object), recorder.record (.destroy key object))

/-! ## Switches -/

/-- Switches the failing of a step on or off. -/
def setFailing (recorder : Recorder κ) (step : Step) (on : Bool) : Recorder κ :=
  let others := recorder.failing.filter (· ≠ step)
  { recorder with failing := if on then step :: others else others }

/-- Switches the rejection of every resource on or off. -/
def setRejecting (recorder : Recorder κ) (on : Bool) : Recorder κ :=
  { recorder with rejecting := on }

/-- Forgets the calls recorded so far. -/
def clearCalls (recorder : Recorder κ) : Recorder κ := { recorder with latest := [] }

/-- Starts afresh: without calls, with the numbers from zero, and with every switch off. -/
def reset (_ : Recorder κ) : Recorder κ := {}

/-! ## The record -/

/-- The calls so far, in order. -/
def calls (recorder : Recorder κ) : List (RecordedCall κ) := recorder.latest.reverse

/-- The calls so far that did not destroy. -/
def callsWithoutDestroy (recorder : Recorder κ) : List (RecordedCall κ) :=
  recorder.calls.filter fun call => call.destroyed?.isNone

/-- The resources destroyed so far, in order. -/
def destroyed (recorder : Recorder κ) : List Nat := recorder.calls.filterMap (·.destroyed?)

end Recorder

end ResourcePool
