import ResourcePool.Factory

/-!
# Factories that number their resources

Two factories whose resources are texts that tell where they come from, for demonstrations and
trials.

* `Numbering.perKey` numbers the resources of each key from zero: `key:0`, `key:1`, and so on. It
  never fails.
* `Numbering.overall` numbers all resources together: `key#0`, `other#1`, and so on. It fails for
  keys without a label, and a failure uses no number up.
-/

namespace ResourcePool.Numbering

variable {κ ε : Type}

/-- How many resources have been created under each key. -/
abbrev Counts (κ : Type) := List (κ × Nat)

/-- How many resources have been created under one key. -/
def Counts.get [DecidableEq κ] (counts : Counts κ) (key : κ) : Nat :=
  ((counts.find? fun entry => entry.1 = key).map (·.2)).getD 0

/-- Counts one more resource under a key. -/
def Counts.bump [DecidableEq κ] (counts : Counts κ) (key : κ) : Counts κ :=
  (key, counts.get key + 1) :: counts.filter fun entry => entry.1 ≠ key

/-- Numbers the resources of each key on their own. -/
def perKey [DecidableEq κ] (label : κ → String) : Factory (Counts κ) κ String ε :=
  .ofCreate fun key counts => (.ok (label key ++ ":" ++ toString (counts.get key)), counts.bump key)

/-- Why a resource could not be created. -/
inductive Failure where
  /-- There is nothing to call it by. -/
  | unlabelled
  deriving DecidableEq, Repr

/-- The wording of a failure. -/
def Failure.message : Failure → String
  | .unlabelled => "cannot connect to \"\""

/-- Numbers all resources together. -/
def overall (label : κ → String) : Factory Nat κ String Failure :=
  .ofCreate fun key count =>
    if (label key).isEmpty then (.error .unlabelled, count)
    else (.ok (label key ++ "#" ++ toString count), count + 1)

end ResourcePool.Numbering
