import ResourcePool.Decimal.Scaling
import ResourcePool.Json.Basic

/-!
# Reading JSON texts

`Json.parse?` reads the text of one JSON value, with blanks wherever the grammar allows them.

* A number is whole if it is written without a fraction and without an exponent and fits into 64
  bits, signed or unsigned; every other number, and the zero with a minus sign, is the double that
  `Binary64.ofText?` reads.
* Of members with the same name the last one counts.
* Arrays and objects may be nested up to `Reader.deepest`; a text that goes deeper is refused.

Every reader takes a text and gives what it read with the rest of the text. Where one calls itself
it is given a bound on what is still to be read, for which the length of the text is always enough,
and a value is also given how many arrays and objects it may still be nested in.
-/

namespace ResourcePool.Json

namespace Reader

/-- Whether a character is a blank between tokens. -/
def isBlank (c : Char) : Bool := c = ' ' || c = '\t' || c = '\n' || c = '\r'

/-- The text without the blanks in front. -/
def skipBlanks (text : List Char) : List Char := text.dropWhile isBlank

/-- The text after a word in front of it. -/
def afterWord? (word : String) (text : List Char) : Option (List Char) :=
  if word.toList.isPrefixOf text then some (text.drop word.length) else none

/-! ## Numbers -/

/-- The digits in front of a text, of which there must be one. -/
def digits? (text : List Char) : Option (List Char × List Char) :=
  match text.span Char.isDigit with
  | ([], _) => none
  | (digits, rest) => some (digits, rest)

/-- The digits of a whole number, which do not begin with a zero unless that is all. -/
def whole? (text : List Char) : Option (List Char × List Char) :=
  match digits? text with
  | some ('0' :: _ :: _, _) => none
  | other => other

/-- The digits after a decimal point, if there is one. -/
def fraction? (text : List Char) : Option (Option (List Char) × List Char) :=
  match text with
  | '.' :: rest => (digits? rest).map fun (digits, rest) => (some digits, rest)
  | text => some (none, text)

/-- The power of ten, if there is one. -/
def exponent? (text : List Char) : Option (Option Int × List Char) :=
  match text with
  | 'e' :: rest | 'E' :: rest =>
    let (negative, unsigned) :=
      match rest with
      | '+' :: rest => (false, rest)
      | '-' :: rest => (true, rest)
      | rest => (false, rest)
    (digits? unsigned).map fun (digits, rest) =>
      let power : Int := Nat.ofDigitChars 10 digits 0
      (some (if negative then -power else power), rest)
  | text => some (none, text)

/-- The value of a number. There is none if the number is too great for a double. -/
def numberOf? (negative : Bool) (whole : List Char) (fraction : Option (List Char))
    (exponent : Option Int) : Option Json :=
  let magnitude := Nat.ofDigitChars 10 whole 0
  let value : Int := if negative then -(magnitude : Int) else magnitude
  let isWhole := fraction.isNone && exponent.isNone && !(negative && magnitude = 0)
  if isWhole && Int64.minValue.toInt ≤ value && value < UInt64.size then some (.int value)
  else
    (Binary64.ofText? negative whole (fraction.getD []) (exponent.getD 0)).map .float

/-- A number. -/
def number? (text : List Char) : Option (Json × List Char) := do
  let (negative, unsigned) :=
    match text with
    | '-' :: rest => (true, rest)
    | text => (false, text)
  let (whole, rest) ← whole? unsigned
  let (fraction, rest) ← fraction? rest
  let (exponent, rest) ← exponent? rest
  let value ← numberOf? negative whole fraction exponent
  return (value, rest)

/-! ## Strings -/

/-- The value of a hexadecimal digit. -/
def hexDigit? (c : Char) : Option Nat :=
  if c.isDigit then some (c.toNat - '0'.toNat)
  else if 'a' ≤ c ∧ c ≤ 'f' then some (c.toNat - 'a'.toNat + 10)
  else if 'A' ≤ c ∧ c ≤ 'F' then some (c.toNat - 'A'.toNat + 10)
  else none

/-- A unit of 16 bits in four hexadecimal digits. -/
def unit? (text : List Char) : Option (Nat × List Char) := do
  let digits ← (text.take 4).mapM hexDigit?
  if digits.length = 4 then return (digits.foldl (fun value d => 16 * value + d) 0, text.drop 4)
  else none

/-- The character of one unit, or of two that make up a pair. Half a pair stands for nothing. -/
def codePoint? (text : List Char) : Option (Char × List Char) := do
  let (high, rest) ← unit? text
  if 0xD800 ≤ high ∧ high < 0xDC00 then
    let rest ← afterWord? "\\u" rest
    let (low, rest) ← unit? rest
    if 0xDC00 ≤ low ∧ low < 0xE000 then
      return (Char.ofNat (0x10000 + (high - 0xD800) * 0x400 + (low - 0xDC00)), rest)
    else none
  else if 0xDC00 ≤ high ∧ high < 0xE000 then none
  else return (Char.ofNat high, rest)

/-- The character that an escape stands for; the backslash has been read. -/
def escape? (text : List Char) : Option (Char × List Char) :=
  match text with
  | '"' :: rest => some ('"', rest)
  | '\\' :: rest => some ('\\', rest)
  | '/' :: rest => some ('/', rest)
  | 'b' :: rest => some ('\x08', rest)
  | 'f' :: rest => some ('\x0c', rest)
  | 'n' :: rest => some ('\n', rest)
  | 'r' :: rest => some ('\r', rest)
  | 't' :: rest => some ('\t', rest)
  | 'u' :: rest => codePoint? rest
  | _ => none

/-- The characters of a string up to its closing quote; the opening one has been read. A control
character must be given by an escape. -/
def characters? : Nat → List Char → Option (List Char × List Char)
  | 0, _ => none
  | _ + 1, [] => none
  | _ + 1, '"' :: rest => some ([], rest)
  | bound + 1, '\\' :: rest => do
    let (c, rest) ← escape? rest
    let (others, rest) ← characters? bound rest
    return (c :: others, rest)
  | bound + 1, c :: rest =>
    if c.toNat < 0x20 then none
    else do
      let (others, rest) ← characters? bound rest
      return (c :: others, rest)

/-- A string. -/
def string? (bound : Nat) (text : List Char) : Option (String × List Char) := do
  let rest ← afterWord? "\"" text
  let (characters, rest) ← characters? bound rest
  return (String.ofList characters, rest)

/-! ## Values -/

/-- Puts a member into an object, in place of one with the same name. -/
def put (members : List (String × Json)) (name : String) (value : Json) : List (String × Json) :=
  members.filter (fun entry => entry.1 ≠ name) ++ [(name, value)]

/-- How deep arrays and objects may be nested. -/
def deepest : Nat := 127

mutual

/-- A value that holds arrays and objects up to the given depth. -/
def value? : Nat → Nat → List Char → Option (Json × List Char)
  | _, 0, _ => none
  | depth, bound + 1, text =>
    match skipBlanks text with
    | 'n' :: rest => (afterWord? "ull" rest).map fun rest => (.null, rest)
    | 't' :: rest => (afterWord? "rue" rest).map fun rest => (.bool true, rest)
    | 'f' :: rest => (afterWord? "alse" rest).map fun rest => (.bool false, rest)
    | '"' :: rest =>
      (characters? bound rest).map fun (characters, rest) =>
        (.string (String.ofList characters), rest)
    | '[' :: rest =>
      match depth with
      | 0 => none
      | depth + 1 =>
        match skipBlanks rest with
        | ']' :: rest => some (.array [], rest)
        | rest => (elements? depth bound rest).map fun (elements, rest) => (.array elements, rest)
    | '\x7b' :: rest =>
      match depth with
      | 0 => none
      | depth + 1 =>
        match skipBlanks rest with
        | '\x7d' :: rest => some (.object [], rest)
        | rest => members? depth bound [] rest
    | text => number? text

/-- The elements of an array up to its closing bracket. -/
def elements? : Nat → Nat → List Char → Option (List Json × List Char)
  | _, 0, _ => none
  | depth, bound + 1, text => do
    let (element, rest) ← value? depth bound text
    match skipBlanks rest with
    | ',' :: rest =>
      let (others, rest) ← elements? depth bound rest
      return (element :: others, rest)
    | ']' :: rest => return ([element], rest)
    | _ => none

/-- The members of an object up to its closing brace, after those that have been read. -/
def members? : Nat → Nat → List (String × Json) → List Char → Option (Json × List Char)
  | _, 0, _, _ => none
  | depth, bound + 1, before, text => do
    let (name, rest) ← string? bound (skipBlanks text)
    let rest ← afterWord? ":" (skipBlanks rest)
    let (value, rest) ← value? depth bound rest
    let members := put before name value
    match skipBlanks rest with
    | ',' :: rest => members? depth bound members rest
    | '\x7d' :: rest => return (.object members, rest)
    | _ => none

end

end Reader

/-- **Reads the text of one value**, if it is one. -/
def parse? (text : String) : Option Json :=
  match Reader.value? Reader.deepest (text.length + 1) text.toList with
  | some (value, rest) => if rest.all Reader.isBlank then some value else none
  | none => none

end ResourcePool.Json
