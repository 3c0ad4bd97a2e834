import FormulaLexer.Json.Basic
import FormulaLexer.Json.Binary64
import FormulaLexer.Text.Numeral
import FormulaLexer.Token.Basic

/-!
Checks of JSON values. A check gives a value, or all the issues that it found, each with
the path to the place at fault.
-/

namespace FormulaLexer

/-- What can be wrong with a JSON value. -/
inductive Fault where
  /-- A field is not there. -/
  | missing
  /-- A token has no kind. -/
  | kindMissing
  /-- The kind of a token is none of the kinds. -/
  | kindUnknown
  | notText
  | notInteger
  /-- A text is given for an integer, and it holds none. -/
  | notIntegerText
  /-- A number with a fraction is given for an integer. -/
  | fractional
  /-- A number beyond the binary64 format is given for an integer. -/
  | notFinite
  /-- A text that is too long is given for an integer, or a decimal that is too large. -/
  | integerTooLarge
  | notList
  /-- A reason is none of the reasons. -/
  | reasonUnknown
  /-- Something else than an object is given for a token. -/
  | tokenNotObject
  /-- Something else than an object is given for an error. -/
  | errorNotObject
  deriving DecidableEq, Repr

/-- The fault of a text that is given for an integer. -/
def Fault.ofNumeral : Text.NumeralFault → Fault
  | .malformed => .notIntegerText
  | .tooLong => .integerTooLarge

/-- A step of a path: into the reading of a token as one of a kind, into a field, or to an
item of a list. -/
inductive Step where
  | kind (kind : Kind)
  | field (name : String)
  | item (index : Nat)
  deriving DecidableEq, Repr

structure Issue where
  fault : Fault
  path : List Step
  deriving DecidableEq, Repr

/-- What a check gives. -/
abbrev Checked (α : Type) := Except (List Issue) α

namespace Checked

/-- A check that finds a single fault, where it looks. -/
def fault {α : Type} (fault : Fault) : Checked α := .error [⟨fault, []⟩]

/-- A check of the place that a step leads to. -/
def under {α : Type} (step : Step) (checked : Checked α) : Checked α :=
  checked.mapError (·.map fun issue => ⟨issue.fault, step :: issue.path⟩)

/-- Two checks; their issues are joined. -/
def both {α β : Type} : Checked α → Checked β → Checked (α × β)
  | .ok a, .ok b => .ok (a, b)
  | .ok _, .error issues => .error issues
  | .error issues, .ok _ => .error issues
  | .error issues, .error more => .error (issues ++ more)

/-- A check of a field that has to be there. -/
def required {α : Type} (name : String) (check : Json → Checked α)
    (fields : List (String × Json)) : Checked α :=
  under (.field name) <| match Json.field? fields name with
    | none => fault .missing
    | some value => check value

def text : Json → Checked String
  | .str s => .ok s
  | _ => fault .notText

/-- The integers that are given as decimals lie between this number and its opposite. -/
def decimalBound : Nat := Nat.pow 2 63

/-- The integer that a decimal gives. A decimal stands for the binary64 number nearest to
it. -/
def integerOfDecimal (mantissa exponent : Int) : Checked Int :=
  match Binary64.ofDecimal mantissa.natAbs exponent with
  | .infinite => fault .notFinite
  | .finite significand exponent =>
    match Binary64.whole? significand exponent with
    | none => fault .fractional
    | some n => if n < decimalBound then .ok (mantissa.sign * n) else fault .integerTooLarge

/-- An integer. Truth values count as one and zero, and texts may hold numerals. -/
def integer : Json → Checked Int
  | .int n => .ok n
  | .bool b => .ok (if b then 1 else 0)
  | .decimal mantissa exponent => integerOfDecimal mantissa exponent
  | .str s =>
    match Text.Numeral.read s.toList with
    | .ok n => .ok n
    | .error error => fault (.ofNumeral error)
  | _ => fault .notInteger

def span (fields : List (String × Json)) : Checked Span :=
  (both (required "start" integer fields) (required "end" integer fields)).map
    fun (start, stop) => ⟨start, stop⟩

end Checked

end FormulaLexer
