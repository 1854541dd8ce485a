/-!
# Registers

A register holds things under names, in the order of the names.
-/

namespace ResourcePool.Scenario

/-- Things under names, in the order of the names. -/
abbrev Register (α : Type) := List (String × α)

namespace Register

variable {α : Type}

/-- What stands under a name. -/
def get? (register : Register α) (name : String) : Option α := List.lookup name register

/-- Whether something stands under a name. -/
def has (register : Register α) (name : String) : Bool := (get? register name).isSome

/-- Puts something under a name, in place of what stood there. -/
def set (register : Register α) (name : String) (value : α) : Register α :=
  match register with
  | [] => [(name, value)]
  | entry :: rest =>
    if name < entry.1 then (name, value) :: entry :: rest
    else if name = entry.1 then (name, value) :: rest
    else entry :: set rest name value

/-- Takes a name off. -/
def erase (register : Register α) (name : String) : Register α :=
  register.filter fun entry => entry.1 ≠ name

/-- The names in order. -/
def names (register : Register α) : List String := register.map (·.1)

end Register

end ResourcePool.Scenario
