import FormulaLexer.Json.Basic
import FormulaLexer.Text.Hex
import FormulaLexer.Text.Integer

/-!
JSON text: one item or field a line, indented by two spaces a level, in ASCII. A character
beyond the sixteen-bit range is escaped as two surrogates.
-/

namespace FormulaLexer.Json

/-- A sixteen-bit unit as an escape. -/
def unitEscape (n : Nat) : List Char := '\\' :: 'u' :: Text.hexDigits 4 n

/-- A character as it stands in a string. -/
def stringChar (c : Char) : List Char :=
  if c = '"' || c = '\\' then ['\\', c]
  else if c = '\n' then ['\\', 'n']
  else if c = '\r' then ['\\', 'r']
  else if c = '\t' then ['\\', 't']
  else if c = '\x0c' then ['\\', 'f']
  else if c = '\x08' then ['\\', 'b']
  else if 0x20 ≤ c.toNat && c.toNat ≤ 0x7E then [c]
  else if c.toNat < 0x10000 then unitEscape c.toNat
  else
    let n := c.toNat - 0x10000
    unitEscape (0xD800 + n / 0x400) ++ unitEscape (0xDC00 + n % 0x400)

def stringText (s : String) : List Char := '"' :: s.toList.flatMap stringChar ++ ['"']

def newLine (margin : Nat) : List Char := '\n' :: List.replicate margin ' '

mutual

/-- The text of a value whose last line has the given margin. -/
def printAt (margin : Nat) : Json → List Char
  | null => "null".toList
  | bool value => (if value then "true" else "false").toList
  | int value => Text.decimal value
  | decimal mantissa exponent => Text.decimal mantissa ++ 'e' :: Text.decimal exponent
  | str value => stringText value
  | arr [] => ['[', ']']
  | arr (item :: items) =>
      '[' :: newLine (margin + 2) ++ printAt (margin + 2) item ++ printItems (margin + 2) items ++
        newLine margin ++ [']']
  | obj [] => ['\x7b', '\x7d']
  | obj (field :: fields) =>
      '\x7b' :: newLine (margin + 2) ++ printField (margin + 2) field ++
        printFields (margin + 2) fields ++ newLine margin ++ ['\x7d']

/-- The items of a list after the first. -/
def printItems (margin : Nat) : List Json → List Char
  | [] => []
  | item :: items => ',' :: newLine margin ++ printAt margin item ++ printItems margin items

def printField (margin : Nat) : String × Json → List Char
  | (name, value) => stringText name ++ ':' :: ' ' :: printAt margin value

/-- The fields of an object after the first. -/
def printFields (margin : Nat) : List (String × Json) → List Char
  | [] => []
  | field :: fields =>
      ',' :: newLine margin ++ printField margin field ++ printFields margin fields

end

def print (value : Json) : String := String.ofList (printAt 0 value)

end FormulaLexer.Json
