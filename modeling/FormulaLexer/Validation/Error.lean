import FormulaLexer.Lexer.Error
import FormulaLexer.Validation.Issue

/-!
Errors of the lexer read from JSON values.
-/

namespace FormulaLexer.Checked

def reason : Json → Checked Reason
  | .str word =>
    match Reason.ofName? word with
    | some reason => .ok reason
    | none => fault .reasonUnknown
  | _ => fault .reasonUnknown

def lexError : Json → Checked LexError
  | .obj fields =>
    (both (required "position" integer fields)
      (both (required "remaining" text fields) (required "reason" reason fields))).map
      fun (position, remaining, reason) => ⟨position, remaining, reason⟩
  | _ => fault .errorNotObject

end FormulaLexer.Checked
