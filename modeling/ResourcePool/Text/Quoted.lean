import ResourcePool.Text.Combining
import ResourcePool.Text.Printable

/-!
# Quoted text

Two ways of writing a text between double quotes.

* `debug` is the form of diagnostics: a character that would be invisible, or would merge with its
  neighbour, is written as an escape, so that two different texts never look alike.
* `json` is the form of JSON strings: only what the grammar demands is escaped.
-/

namespace ResourcePool.Text

/-! ## Escapes for diagnostics -/

/-- The digits of a number in base sixteen, in lower case and without leading zeros. -/
def hexDigits (n : Nat) : List Char := Nat.toDigits 16 n

/-- An escape that gives the code point in braces. -/
def codePointEscape (c : Char) : List Char :=
  ['\\', 'u', '\x7b'] ++ hexDigits c.toNat ++ ['\x7d']

/-- How one character is written inside a diagnostic: the common control characters, the backslash
and the double quote have short escapes, a combining or unprintable character is given by its code
point, and every other character stands for itself. -/
def debugEscape (c : Char) : List Char :=
  match c with
  | '\x00' => ['\\', '0']
  | '\t' => ['\\', 't']
  | '\r' => ['\\', 'r']
  | '\n' => ['\\', 'n']
  | '\\' => ['\\', '\\']
  | '"' => ['\\', '"']
  | c => if isCombining c || !isPrintable c then codePointEscape c else [c]

/-- A text in double quotes, as diagnostics show it. -/
def debug (text : String) : String :=
  String.ofList ('"' :: text.toList.flatMap debugEscape ++ ['"'])

/-! ## JSON strings -/

/-- A control character as four hexadecimal digits. -/
def fourDigitEscape (c : Char) : List Char :=
  let digits := hexDigits c.toNat
  ['\\', 'u'] ++ List.replicate (4 - digits.length) '0' ++ digits

/-- How one character is written inside a JSON string: the quote, the backslash and the control
characters are escaped, and nothing else is. -/
def jsonEscape (c : Char) : List Char :=
  match c with
  | '"' => ['\\', '"']
  | '\\' => ['\\', '\\']
  | '\x08' => ['\\', 'b']
  | '\x0c' => ['\\', 'f']
  | '\n' => ['\\', 'n']
  | '\r' => ['\\', 'r']
  | '\t' => ['\\', 't']
  | c => if c.toNat < 0x20 then fourDigitEscape c else [c]

/-- A text as a JSON string. -/
def json (text : String) : String :=
  String.ofList ('"' :: text.toList.flatMap jsonEscape ++ ['"'])

end ResourcePool.Text
