import FormulaLexer.Text.Quoted

/-!
Errors of the lexer: where it stopped, what was left there, and why.
-/

namespace FormulaLexer

inductive Reason where
  /-- No token starts here. -/
  | unrecognizedToken
  /-- No parenthesis closes the one that stands here. -/
  | unterminatedGroup
  /-- The group that starts here stands in too many others. -/
  | depthExceeded
  deriving DecidableEq, Repr

def Reason.name : Reason → String
  | .unrecognizedToken => "unrecognized_token"
  | .unterminatedGroup => "unterminated_group"
  | .depthExceeded => "depth_exceeded"

def Reason.ofName? : String → Option Reason
  | "unrecognized_token" => some .unrecognizedToken
  | "unterminated_group" => some .unterminatedGroup
  | "depth_exceeded" => some .depthExceeded
  | _ => none

@[simp] theorem Reason.ofName?_name (reason : Reason) :
    Reason.ofName? reason.name = some reason := by
  cases reason <;> rfl

/-- Where lexing stopped, what was left of the window there, and why. -/
structure LexError where
  position : Int
  remaining : String
  reason : Reason
  deriving DecidableEq, Repr

def LexError.message (error : LexError) : String :=
  s!"{error.reason.name} at position {error.position}: " ++
    String.ofList (Text.quoted error.remaining.toList)

end FormulaLexer
