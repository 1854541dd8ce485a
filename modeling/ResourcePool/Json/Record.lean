import ResourcePool.Json.DecodeError

/-!
# Records as JSON

A record can be written as an object or as an array of its fields in order. A `RecordFormat` says
which fields there are and how one field is read into a draft and written from it; reading and
writing whole records is the same for all formats.

* `RecordFormat.decode` reads either form. The members of an object are read in the order of their
  names, so of two bad members the one with the smaller name is reported; a member that is missing
  is reported only when all that are there are good.
* `RecordFormat.encode` writes the object form.
-/

namespace ResourcePool

/-! ## Scalars -/

namespace Json

/-- A truth value. -/
def decodeBool : Json → Except DecodeError Bool
  | .bool value => .ok value
  | other => .error (.invalidType other.found .boolean)

/-- A whole number below `bound`; `expected` is how refusals name the range. A double is of the
wrong kind even when it is whole. -/
def decodeBelow (bound : Nat) (expected : Expected) : Json → Except DecodeError Nat
  | .int value =>
    if 0 ≤ value ∧ value < bound then .ok value.toNat
    else .error (.invalidValue (.int value) expected)
  | other => .error (.invalidType other.found expected)

/-- A word of 64 bits; `expected` is how refusals name the range. -/
def decodeWord64 (expected : Expected) (json : Json) : Except DecodeError UInt64 :=
  (json.decodeBelow UInt64.size expected).map UInt64.ofNat

/-- A word of 32 bits. -/
def decodeWord32 (json : Json) : Except DecodeError UInt32 :=
  (json.decodeBelow UInt32.size .word32).map UInt32.ofNat

/-- A value that may be absent, which null stands for. -/
def decodeOption {α : Type} (decode : Json → Except DecodeError α) :
    Json → Except DecodeError (Option α)
  | .null => .ok none
  | json => (decode json).map some

end Json

/-! ## Formats -/

/-- How a record with fields `φ` is read and written. Reading fills a draft field by field and then
turns it into the value. -/
structure RecordFormat (φ δ α : Type) where
  /-- The name under which refusals mention the record. -/
  name : String
  /-- What an array with too few elements is told. -/
  shortArray : Expected
  /-- The fields in order. -/
  fields : List φ
  /-- The name of a field. -/
  fieldName : φ → String
  /-- Whether a field may be left out. -/
  isOptional : φ → Bool
  /-- Whether members that are not fields are refused rather than passed over. -/
  isStrict : Bool
  /-- The draft before any field is read. -/
  blank : δ
  /-- Reads one field into a draft. -/
  set : φ → Json → δ → Except DecodeError δ
  /-- Turns a complete draft into the value. -/
  finish : δ → Except DecodeError α
  /-- Writes one field of a value. -/
  get : φ → α → Json

namespace RecordFormat

variable {φ δ α : Type}

/-- The field of a given name. -/
def field? (format : RecordFormat φ δ α) (name : String) : Option φ :=
  format.fields.find? fun field => format.fieldName field = name

/-- Reads one member of an object into a draft. -/
def setMember (format : RecordFormat φ δ α) (draft : δ) (entry : String × Json) :
    Except DecodeError δ :=
  match format.field? entry.1 with
  | some field => format.set field entry.2 draft
  | none =>
    if format.isStrict then .error (.unknownField entry.1 (format.fields.map format.fieldName))
    else .ok draft

/-- The members of an object in the order in which they are read. -/
def inNameOrder (members : List (String × Json)) : List (String × Json) :=
  members.mergeSort fun a b => a.1 ≤ b.1

/-- The first field that has to be there and is not. -/
def missing? (format : RecordFormat φ δ α) (members : List (String × Json)) : Option φ :=
  format.fields.find? fun field =>
    !format.isOptional field && !members.any fun entry => entry.1 = format.fieldName field

/-- Reads the object form. -/
def decodeObject (format : RecordFormat φ δ α) (members : List (String × Json)) :
    Except DecodeError α := do
  let draft ← (inNameOrder members).foldlM format.setMember format.blank
  match format.missing? members with
  | some field => .error (.missingField (format.fieldName field))
  | none => format.finish draft

/-- Reads the array form. Elements beyond the last field are refused only after the fields
themselves have been accepted. -/
def decodeArray (format : RecordFormat φ δ α) (elements : List Json) : Except DecodeError α := do
  let draft ← (format.fields.zip elements).foldlM
    (fun draft entry => format.set entry.1 entry.2 draft) format.blank
  if elements.length < format.fields.length then
    .error (.invalidLength elements.length format.shortArray)
  else
    let value ← format.finish draft
    if format.fields.length < elements.length then
      .error (.invalidLength elements.length .fewerElements)
    else .ok value

/-- **Reads a record** from an object or from an array of its fields. -/
def decode (format : RecordFormat φ δ α) : Json → Except DecodeError α
  | .object members => format.decodeObject members
  | .array elements => format.decodeArray elements
  | other => .error (.invalidType other.found (.record format.name))

/-- **Writes a record** as an object with all its fields in order. -/
def encode (format : RecordFormat φ δ α) (value : α) : Json :=
  .object (format.fields.map fun field => (format.fieldName field, format.get field value))

end RecordFormat

end ResourcePool
