import ResourcePool.PoolError

/-!
# Diagnostic notes

What a pool reports while it works: one constructor for each thing worth a line in a log, with its
level, its wording and the values that go with it.
-/

namespace ResourcePool

/-- How urgent a note is. -/
inductive Level where
  | debug
  | info
  | warn
  deriving DecidableEq, Repr

/-- The name of a level. -/
def Level.name : Level → String
  | .debug => "DEBUG"
  | .info => "INFO"
  | .warn => "WARN"

/-- Something worth a line in a log. -/
inductive Note (κ ε : Type) where
  /-- The factory created a resource. -/
  | created (key : κ)
  /-- A candidate could not be activated. -/
  | activationFailed (key : κ) (error : ε)
  /-- A resource was found unusable. -/
  | validationRejected (key : κ)
  /-- A resource could not be validated. -/
  | validationFailed (key : κ) (error : ε)
  /-- A fresh resource could not be prepared. -/
  | preparationFailed (key : κ) (attempt : Nat)
  /-- A returned resource could not be passivated. -/
  | passivationFailed (key : κ) (error : ε)
  /-- A resource was returned under a key with nothing on loan. -/
  | returnedUnborrowed (key : κ)
  /-- A destroy failed, and nobody else hears of it. -/
  | destroyFailed (key : κ) (error : ε)
  /-- The destroy of an invalidated resource failed on a closed pool, which nobody else hears of. -/
  | destroyFailedClosed (key : κ) (error : ε)
  /-- An added resource found no room. -/
  | idleFull (key : κ)
  /-- The idle resources of a key are about to be destroyed. -/
  | clearingKey (key : κ) (count : Nat)
  /-- The idle resources of all keys are about to be destroyed. -/
  | clearing (count : Nat)
  /-- The pool is closing. -/
  | closing (active : Nat)
  /-- A guard that went away could not return its resource. -/
  | returnFailed (key : κ) (error : PoolError ε)
  deriving DecidableEq

/-- A value that goes with a note. -/
inductive NoteValue where
  | number (value : Nat)
  | text (value : String)
  deriving DecidableEq, Repr

namespace Note

variable {κ ε : Type}

/-- How urgent a note is. -/
def level : Note κ ε → Level
  | .returnedUnborrowed _ | .destroyFailed .. | .destroyFailedClosed .. | .returnFailed .. => .warn
  | .closing _ => .info
  | _ => .debug

/-- The wording of a note. -/
def message : Note κ ε → String
  | .created _ => "created object"
  | .activationFailed .. => "activation failed"
  | .validationRejected _ => "validation rejected object"
  | .validationFailed .. => "validation failed"
  | .preparationFailed .. => "fresh object failed preparation"
  | .passivationFailed .. => "passivation failed, destroying object"
  | .returnedUnborrowed _ => "object returned under a key with no outstanding borrow"
  | .destroyFailed .. => "ignoring destroy failure"
  | .destroyFailedClosed .. => "ignoring destroy failure on closed pool"
  | .idleFull _ => "idle set full, destroying added object"
  | .clearingKey .. => "clearing idle objects"
  | .clearing _ => "clearing idle objects for all keys"
  | .closing _ => "closing keyed pool"
  | .returnFailed .. => "failed to return pooled object"

/-- The values that go with a note, by name; `showKey` and `wording` write keys and the factory's
errors. -/
def values (showKey : κ → String) (wording : ε → String) (note : Note κ ε) :
    List (String × NoteValue) :=
  let key k := ("key", NoteValue.text (showKey k))
  let error e := ("error", NoteValue.text (wording e))
  match note with
  | .created k | .validationRejected k | .returnedUnborrowed k | .idleFull k => [key k]
  | .activationFailed k e | .validationFailed k e | .passivationFailed k e | .destroyFailed k e
  | .destroyFailedClosed k e => [key k, error e]
  | .preparationFailed k attempt => [key k, ("attempt", .number attempt)]
  | .clearingKey k count => [key k, ("count", .number count)]
  | .clearing count => [("count", .number count)]
  | .closing active => [("active", .number active)]
  | .returnFailed k e => [key k, ("error", .text (e.message wording))]

end Note

end ResourcePool
