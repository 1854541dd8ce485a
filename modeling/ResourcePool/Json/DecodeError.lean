import ResourcePool.Json.Basic

/-!
# Why a JSON value is refused

A `DecodeError` is the cause for which a JSON value does not denote the record that was asked for.
`DecodeError.message` is the one place where causes are put into words.
-/

namespace ResourcePool

/-- What a decoder came upon. -/
inductive Found where
  | null
  | bool (value : Bool)
  | int (value : Int)
  | float (value : Binary64)
  | string (text : String)
  | sequence
  | map
  deriving DecidableEq, Repr

/-- The kind of a JSON value, with the value itself where it is a scalar. -/
def Json.found : Json → Found
  | .null => .null
  | .bool value => .bool value
  | .int value => .int value
  | .float value => .float value
  | .string text => .string text
  | .array _ => .sequence
  | .object _ => .map

/-- What a decoder was looking for. -/
inductive Expected where
  | boolean
  /-- A count of things held in memory. -/
  | size
  /-- A whole number of 64 bits. -/
  | word64
  /-- A whole number of 32 bits. -/
  | word32
  | unit
  | stringOrMap
  | singleKeyMap
  /-- A record of the given name. -/
  | record (name : String)
  /-- The elements of a record that is given as an array. -/
  | elements (name : String) (count : Nat)
  | fewerElements
  deriving DecidableEq, Repr

/-- Why a JSON value was refused. -/
inductive DecodeError where
  /-- A value of the wrong kind. -/
  | invalidType (found : Found) (expected : Expected)
  /-- A value of the right kind that is out of range. -/
  | invalidValue (found : Found) (expected : Expected)
  /-- An array with too few or too many elements. -/
  | invalidLength (length : Nat) (expected : Expected)
  /-- A member that has to be there and is not. -/
  | missingField (name : String)
  /-- A member that the record does not have. -/
  | unknownField (name : String) (known : List String)
  /-- A choice that the type does not offer. -/
  | unknownVariant (name : String) (known : List String)
  /-- A duration whose seconds do not fit into 64 bits. -/
  | durationOverflow
  deriving DecidableEq, Repr

/-- What was found, in words. -/
def Found.describe : Found → String
  | .null => "null"
  | .bool value => "boolean `" ++ (if value then "true" else "false") ++ "`"
  | .int value => "integer `" ++ toString value ++ "`"
  | .float value => "floating point `" ++ value.text ++ "`"
  | .string text => "string " ++ Text.debug text
  | .sequence => "sequence"
  | .map => "map"

/-- What was looked for, in words. -/
def Expected.describe : Expected → String
  | .boolean => "a boolean"
  | .size => "usize"
  | .word64 => "u64"
  | .word32 => "u32"
  | .unit => "unit"
  | .stringOrMap => "string or map"
  | .singleKeyMap => "map with a single key"
  | .record name => "struct " ++ name
  | .elements name count => "struct " ++ name ++ " with " ++ toString count ++ " elements"
  | .fewerElements => "fewer elements in array"

/-- The names on offer, each in back quotes. -/
def DecodeError.alternatives (known : List String) : String :=
  " or ".intercalate (known.map fun name => "`" ++ name ++ "`")

/-- The wording of a refusal. -/
def DecodeError.message : DecodeError → String
  | .invalidType found expected =>
    "invalid type: " ++ found.describe ++ ", expected " ++ expected.describe
  | .invalidValue found expected =>
    "invalid value: " ++ found.describe ++ ", expected " ++ expected.describe
  | .invalidLength length expected =>
    "invalid length " ++ toString length ++ ", expected " ++ expected.describe
  | .missingField name => "missing field `" ++ name ++ "`"
  | .unknownField name known =>
    "unknown field `" ++ name ++ "`, expected " ++ DecodeError.alternatives known
  | .unknownVariant name known =>
    "unknown variant `" ++ name ++ "`, expected " ++ DecodeError.alternatives known
  | .durationOverflow => "overflow deserializing Duration"

end ResourcePool
