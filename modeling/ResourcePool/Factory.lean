/-!
# Factories

A pool does not make resources itself: it asks a factory to create a resource for a key, to prepare
and test it, and to dispose of it. The pool's side of that conversation is a `Request`, the
factory's side an `Answer`.

* `Factory` is a factory that answers every call on its own, out of a private state.
* `Factory.ofCreate` makes one that knows nothing but how to create.
-/

namespace ResourcePool

/-- The steps a factory takes with a resource. -/
inductive Step where
  | create
  | activate
  | validate
  | passivate
  | destroy
  deriving DecidableEq, Repr

namespace Step

/-- All steps, in the order in which a resource can come to them. -/
def all : List Step := [.create, .activate, .validate, .passivate, .destroy]

/-- The name of a step. -/
def name : Step → String
  | .create => "create"
  | .activate => "activate"
  | .validate => "validate"
  | .passivate => "passivate"
  | .destroy => "destroy"

/-- The step of a name. -/
def ofName? (name : String) : Option Step := all.find? fun step => step.name = name

end Step

/-- What a pool asks of its factory. -/
inductive Request (κ ω : Type) where
  /-- Make a resource for a key. -/
  | create (key : κ)
  /-- Prepare a resource for a borrower. -/
  | activate (key : κ) (object : ω)
  /-- Tell whether a resource can still be used. -/
  | validate (key : κ) (object : ω)
  /-- Reset a resource before it becomes idle. -/
  | passivate (key : κ) (object : ω)
  /-- Dispose of a resource. -/
  | destroy (key : κ) (object : ω)
  deriving DecidableEq, Repr

namespace Request

variable {κ ω : Type}

/-- The step that is asked for. -/
def step : Request κ ω → Step
  | .create _ => .create
  | .activate .. => .activate
  | .validate .. => .validate
  | .passivate .. => .passivate
  | .destroy .. => .destroy

/-- The key that the step is asked for under. -/
def key : Request κ ω → κ
  | .create key => key
  | .activate key _ => key
  | .validate key _ => key
  | .passivate key _ => key
  | .destroy key _ => key

/-- The resource that the step is asked for; there is none yet when one is to be created. -/
def object? : Request κ ω → Option ω
  | .create _ => none
  | .activate _ object => some object
  | .validate _ object => some object
  | .passivate _ object => some object
  | .destroy _ object => some object

end Request

/-- **How a factory step ends.** A step that succeeds leaves a resource: the new one after creating,
the possibly changed one after activating and passivating; validating and destroying leave nothing
to look at. A resource that failed a step only goes on to be destroyed, so what the failed step did
to it is the factory's own business. -/
inductive Answer (ω ε : Type) where
  /-- The step succeeded. -/
  | done (object : ω)
  /-- A validation found the resource unusable. From any other step this is success. -/
  | refused (object : ω)
  /-- The step failed. -/
  | failed (error : ε)
  /-- The step was abandoned in a panic, which ends the operation that asked for it. -/
  | panicked (reason : String)
  deriving DecidableEq, Repr

/-- The answer with its error put into other terms. -/
def Answer.mapError {ω ε ε' : Type} (change : ε → ε') : Answer ω ε → Answer ω ε'
  | .done object => .done object
  | .refused object => .refused object
  | .failed error => .failed (change error)
  | .panicked reason => .panicked reason

/-- The error that the factory answers with. -/
def Answer.error? {ω ε : Type} : Answer ω ε → Option ε
  | .failed error => some error
  | _ => none

/-- A factory with private state `σ`, which answers each request on its own. -/
abbrev Factory (σ κ ω ε : Type) := Request κ ω → σ → Answer ω ε × σ

/-- A factory that knows how to create resources and has nothing to do at any other step: the
resource stays as it is, passes every test and is simply forgotten in the end. -/
def Factory.ofCreate {σ κ ω ε : Type} (create : κ → σ → Except ε ω × σ) : Factory σ κ ω ε
  | .create key, state =>
    match create key state with
    | (.ok object, state) => (.done object, state)
    | (.error error, state) => (.failed error, state)
  | .activate _ object, state | .validate _ object, state | .passivate _ object, state
  | .destroy _ object, state => (.done object, state)

end ResourcePool
