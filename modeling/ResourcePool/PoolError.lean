import ResourcePool.Duration

/-!
# Errors of a pool

Why an operation of a pool did not succeed, its wording and its outline.
-/

namespace ResourcePool

/-- Why an operation did not succeed; `ε` is the factory's own type of errors. -/
inductive PoolError (ε : Type) where
  /-- A factory step failed. -/
  | factory (error : ε)
  /-- No candidate could be prepared. -/
  | exhausted
  /-- The pool is closed. -/
  | closed
  /-- The key is at capacity. -/
  | atCapacity
  /-- Nothing is on loan under the key. -/
  | notBorrowed
  /-- The key stayed at capacity for the whole of the waiting time. -/
  | timedOut (patience : Duration)
  deriving DecidableEq

namespace PoolError

variable {ε : Type}

/-- The name of the kind of an error. -/
def kind : PoolError ε → String
  | .factory _ => "Factory"
  | .exhausted => "Exhausted"
  | .closed => "Closed"
  | .atCapacity => "MaxActiveObjectsReached"
  | .notBorrowed => "NotBorrowed"
  | .timedOut _ => "Timeout"

/-- The wording of an error; `wording` is that of the factory's errors. -/
def message (wording : ε → String) : PoolError ε → String
  | .factory error => "factory operation failed: " ++ wording error
  | .exhausted => "no object available - every candidate failed activation or validation"
  | .closed => "pool is closed"
  | .atCapacity => "maximum active objects for this key reached"
  | .notBorrowed => "object was not borrowed under this key"
  | .timedOut patience => "Operation timed out after " ++ patience.text

/-- The outline of an error; `shape` is that of the factory's errors. -/
def outline (shape : ε → Text.Outline) (error : PoolError ε) : Text.Outline :=
  match error with
  | .factory cause => .applied error.kind (shape cause)
  | .timedOut patience => .applied error.kind patience.outline
  | _ => .word error.kind

/-- Whether no candidate could be prepared. -/
def isExhausted : PoolError ε → Bool
  | .exhausted => true
  | _ => false

/-- Whether the pool was closed. -/
def isClosed : PoolError ε → Bool
  | .closed => true
  | _ => false

/-- The factory's error, if it is one. -/
def factoryError? : PoolError ε → Option ε
  | .factory error => some error
  | _ => none

end PoolError

end ResourcePool
