/-!
# Outlines of values

Diagnostics show a value as an outline: a bare word, a word applied to one value, or a record of
named fields. `inline` writes an outline on one line; `spread` writes one field to a line, each
indented by four more spaces than the record it belongs to and followed by a comma.
-/

namespace ResourcePool.Text

/-- The shape in which a value is shown. -/
inductive Outline where
  /-- A word that stands for the whole value. -/
  | word (text : String)
  /-- A word applied to one value. -/
  | applied (name : String) (argument : Outline)
  /-- A record with its fields in order. -/
  | record (name : String) (fields : List (String × Outline))

namespace Outline

/-- An optional value: absent, or applied to what is there. -/
def ofOption {α : Type} (shape : α → Outline) : Option α → Outline
  | none => .word "None"
  | some value => .applied "Some" (shape value)

/-- A truth value. -/
def ofBool (value : Bool) : Outline := .word (if value then "true" else "false")

/-- A count. -/
def ofNat (value : Nat) : Outline := .word (toString value)

mutual

/-- The outline on one line. -/
def inline : Outline → String
  | word text => text
  | applied name argument => name ++ "(" ++ argument.inline ++ ")"
  | record name fields => name ++ " \x7b " ++ ", ".intercalate (inlineFields fields) ++ " \x7d"

/-- The fields of a one-line record. -/
def inlineFields : List (String × Outline) → List String
  | [] => []
  | (name, value) :: rest => (name ++ ": " ++ value.inline) :: inlineFields rest

end

/-- The blanks in front of a line at a depth of nesting. -/
def indent (depth : Nat) : String := String.ofList (List.replicate (4 * depth) ' ')

mutual

/-- The outline over several lines; `depth` is how deep the value itself stands. -/
def spread (depth : Nat) : Outline → String
  | word text => text
  | applied name argument =>
    name ++ "(\n" ++ indent (depth + 1) ++ argument.spread (depth + 1) ++ ",\n" ++
      indent depth ++ ")"
  | record name fields =>
    name ++ " \x7b\n" ++ spreadFields (depth + 1) fields ++ indent depth ++ "\x7d"

/-- The fields of a record, one to a line. -/
def spreadFields (depth : Nat) : List (String × Outline) → String
  | [] => ""
  | (name, value) :: rest =>
    indent depth ++ name ++ ": " ++ value.spread depth ++ ",\n" ++ spreadFields depth rest

end

end Outline

end ResourcePool.Text
