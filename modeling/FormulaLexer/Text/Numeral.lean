import FormulaLexer.Text.Integer

/-!
Numerals: integers as arguments and fields hold them, in ASCII digits. Apart from padding, a
plus sign, zeros in front, zeros behind a point and underscores between digits, a numeral is
the decimal form of its integer. Its minus sign may also stand behind the zeros.
-/

namespace FormulaLexer.Text

/-- Why a text is no numeral. -/
inductive NumeralFault where
  | malformed
  /-- The text starts with more digits than an integer may have. -/
  | tooLong
  deriving DecidableEq, Repr

namespace Numeral

/-- Takes the sign off a text, and tells whether it is a minus sign. A plus sign must not
stand in front of a minus sign. -/
def unsign? : List Char → Option (Bool × List Char)
  | '-' :: s => some (true, s)
  | '+' :: '-' :: _ => none
  | '+' :: s => some (false, s)
  | s => some (false, s)

/-- Drops zeros and underscores behind a zero, up to a digit or a minus sign. The last of
them, and one in front of a point, stay: what is kept is given. -/
def withoutMoreZeros? (kept : Char) : List Char → Option (List Char)
  | [] => some [kept]
  | c :: rest =>
    if c = '0' || c = '_' then withoutMoreZeros? c rest
    else if isDigit c || c = '-' then some (c :: rest)
    else if c = '.' then some (kept :: c :: rest)
    else none

/-- Drops the zeros in front. A text that does not start with a digit is refused. -/
def withoutZeros? : List Char → Option (List Char)
  | [] => none
  | c :: rest =>
    if c = '0' then withoutMoreZeros? c rest
    else if isDigit c then some (c :: rest)
    else none

/-- Drops a point with one or more zeros behind it, at the end. -/
def withoutFraction (s : List Char) : List Char :=
  match s.dropWhile (· != '.') with
  | _ :: zero :: more =>
    if (zero :: more).all (· == '0') then s.takeWhile (· != '.') else s
  | _ => s

def hasDoubleUnderscore : List Char → Bool
  | '_' :: '_' :: _ => true
  | _ :: rest => hasDoubleUnderscore rest
  | [] => false

/-- Drops single underscores, if there is none at either end. -/
def withoutUnderscores (s : List Char) : List Char :=
  if s.head? = some '_' || s.getLast? = some '_' || hasDoubleUnderscore s then s
  else s.filter (· != '_')

/-- Reads digits without a zero in front, no more than an integer may have. -/
def magnitude? (s : List Char) : Option Nat :=
  if s = ['0'] then some 0
  else if s.all isDigit && s.head?.any (· != '0') && s.length ≤ maxDigits then some (ofDigits s)
  else none

/-- Reads the decimal form of an integer. -/
def ofPlain? : List Char → Option Int
  | '-' :: s => (magnitude? s).map fun n => -(n : Int)
  | s => (magnitude? s).map Int.ofNat

/-- The part of a text that has to be the decimal form of an integer. -/
def plain? (s : List Char) : Option (List Char) := do
  let (isNegative, s) ← unsign? (trimWhere isPadding s)
  let s := withoutUnderscores (withoutFraction (← withoutZeros? s))
  return if isNegative then '-' :: s else s

def withoutMinus : List Char → List Char
  | '-' :: s => s
  | s => s

/-- Whether a text starts with more digits than an integer may have, and no zero in front of
them. A minus sign may stand before them, but nothing else. -/
def startsTooLong (s : List Char) : Bool :=
  let digits := (withoutMinus s).takeWhile isDigit
  digits.head?.any (· != '0') && maxDigits < digits.length

/-- Reads a numeral. What stands in front of too many digits decides whether the text is too
long or malformed. -/
def read (s : List Char) : Except NumeralFault Int :=
  if startsTooLong s then .error .tooLong
  else
    match (plain? s).bind ofPlain? with
    | none => .error .malformed
    | some n => .ok n

end Numeral

end FormulaLexer.Text
