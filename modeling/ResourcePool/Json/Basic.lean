import ResourcePool.Decimal.Shortest
import ResourcePool.Text.Quoted

/-!
# JSON values

A JSON value keeps whole numbers apart from doubles, because the two are accepted in different
places. The members of an object are kept in the order in which they were given; their names are
expected to be distinct.

* `Json.render` writes a value without any blanks.
-/

namespace ResourcePool

/-- A JSON value. -/
inductive Json where
  | null
  | bool (value : Bool)
  /-- A number written without a fraction or an exponent. -/
  | int (value : Int)
  /-- Any other number. -/
  | float (value : Binary64)
  | string (text : String)
  | array (elements : List Json)
  | object (members : List (String × Json))
  deriving Inhabited

namespace Json

/-- A natural number. -/
def ofNat (n : Nat) : Json := .int n

/-- A value that may be absent, which is written as null. -/
def ofOption {α : Type} (encode : α → Json) : Option α → Json
  | none => .null
  | some value => encode value

/-- Whether a value is null. -/
def isNull : Json → Bool
  | .null => true
  | _ => false

/-- The member of an object under a name. -/
def member? (name : String) : Json → Option Json
  | .object members => (members.find? fun entry => entry.1 = name).map (·.2)
  | _ => none

mutual

/-- The text of a value, without blanks. -/
def render : Json → String
  | .null => "null"
  | .bool value => if value then "true" else "false"
  | .int value => toString value
  | .float value => value.text
  | .string text => Text.json text
  | .array elements => "[" ++ ",".intercalate (renderElements elements) ++ "]"
  | .object members => "\x7b" ++ ",".intercalate (renderMembers members) ++ "\x7d"

/-- The texts of the elements of an array. -/
def renderElements : List Json → List String
  | [] => []
  | element :: rest => element.render :: renderElements rest

/-- The texts of the members of an object. -/
def renderMembers : List (String × Json) → List String
  | [] => []
  | (name, value) :: rest => (Text.json name ++ ":" ++ value.render) :: renderMembers rest

end

end Json

end ResourcePool
