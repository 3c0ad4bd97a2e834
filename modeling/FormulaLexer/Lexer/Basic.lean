import FormulaLexer.Lexer.DepthLimit
import FormulaLexer.Lexer.Error
import FormulaLexer.Lexer.Lexeme
import FormulaLexer.Text.Blank
import FormulaLexer.Token.Basic

/-!
The lexer. It reads a window of text from left to right: blanks are skipped, and each
lexeme becomes a token. The text between the parentheses of a group is a window of its
own, and lexing stops at the first error.
-/

namespace FormulaLexer

/-- The kind of token that a shape makes; none for the shape of a group. -/
def Shape.leafKind? : Shape → Option LeafKind
  | .reference => some .reference
  | .number => some .number
  | .operator => some .operator
  | .parenthetical => none

/-- The tokens of a window of text that starts at `position` and stands in `depth` groups.
The flag tells whether an operand is expected at its start, where a minus sign may belong
to a number. -/
def lexWindow (limit depth : Nat) (operand : Bool) (position : Int) (window : List Char) :
    Except LexError (List Token) :=
  match window with
  | [] => .ok []
  | c :: rest =>
    if Text.isBlank c then lexWindow limit depth operand (position + 1) rest
    else
      match _h : Lexeme.first? operand (c :: rest) with
      | none =>
        let reason := if c = '(' then .unterminatedGroup else .unrecognizedToken
        .error ⟨position, String.ofList (c :: rest), reason⟩
      | some lexeme =>
        let stop := position + lexeme.text.length
        let after := (c :: rest).drop lexeme.text.length
        match lexeme.shape.leafKind? with
        | some kind => do
          let tokens ← lexWindow limit depth (kind = .operator) stop after
          return .leaf kind (String.ofList lexeme.text) ⟨position, stop⟩ :: tokens
        | none =>
          if depth < limit then do
            let children ← lexWindow limit (depth + 1) true (position + 1) lexeme.interior
            let tokens ← lexWindow limit depth false stop after
            return .group children ⟨position, stop⟩ :: tokens
          else .error ⟨position, String.ofList (c :: rest), .depthExceeded⟩
termination_by window.length
decreasing_by
  · simp
  · exact Lexeme.length_rest_lt _h
  · exact Lexeme.length_interior_lt _h
  · exact Lexeme.length_rest_lt _h

/-- The tokens of an expression. All positions are counted from `offset`. -/
def tokenize (limit : DepthLimit) (offset : Int) (expression : String) :
    Except LexError (List Token) :=
  lexWindow limit.value 0 true offset expression.toList

/-- Why a request to lex fails. -/
inductive LexRequestError where
  /-- The requested limit is out of range. -/
  | limitOutOfRange (requested : Int)
  | lex (error : LexError)
  deriving DecidableEq, Repr

def LexRequestError.message : LexRequestError → String
  | limitOutOfRange requested =>
    s!"max_depth must be between 1 and {DepthLimit.highest}, got {requested}"
  | lex error => error.message

/-- The tokens of an expression under a limit that may be out of range. -/
def tokenizeWithin (requested offset : Int) (expression : String) :
    Except LexRequestError (List Token) :=
  match DepthLimit.ofInt? requested with
  | none => .error (.limitOutOfRange requested)
  | some limit => (tokenize limit offset expression).mapError .lex

end FormulaLexer
