import FormulaLexer.Text.Blank
import FormulaLexer.Text.Digit

/-!
Integers written in decimal, as settings hold them.
-/

namespace FormulaLexer.Text

/-- Whether a character may surround an integer: the blanks but the four separators
`U+001C` to `U+001F`. -/
def isPadding (c : Char) : Bool :=
  isBlank c && !(0x1C ≤ c.toNat && c.toNat ≤ 0x1F)

/-- The values of digits of any script, at least one. Two digits may have an underscore
between them. -/
def digitValues? : List Char → Option (List Nat)
  | [] => none
  | [c] => (digitValue? c).map ([·])
  | c :: '_' :: rest => do return (← digitValue? c) :: (← digitValues? rest)
  | c :: d :: rest => do return (← digitValue? c) :: (← digitValues? (d :: rest))

def ofDigitValues (digits : List Nat) : Nat := digits.foldl (fun n d => 10 * n + d) 0

/-- The most digits that an integer may have. -/
def maxDigits : Nat := 4300

/-- Reads a natural number in the digits of any script. Leading zeros count as digits. -/
def natural? (s : List Char) : Option Nat := do
  let digits ← digitValues? s
  if digits.length ≤ maxDigits then some (ofDigitValues digits) else none

/-- Reads a natural number with a sign, if there is one. -/
def signed? : List Char → Option Int
  | '-' :: s => (natural? s).map fun n => -(n : Int)
  | '+' :: s => (natural? s).map Int.ofNat
  | s => (natural? s).map Int.ofNat

/-- Reads an integer in the digits of any script, with padding around it. -/
def integer? (s : List Char) : Option Int := signed? (trimWhere isPadding s)

def asciiDigitValue (c : Char) : Nat := c.toNat - '0'.toNat

/-- The number that ASCII digits are the decimal form of. -/
def ofDigits (digits : List Char) : Nat := ofDigitValues (digits.map asciiDigitValue)

def decimal (n : Int) : List Char := (toString n).toList

end FormulaLexer.Text
