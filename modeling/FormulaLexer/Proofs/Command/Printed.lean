import FormulaLexer.Proofs.Command.Arguments
import FormulaLexer.Proofs.Command.Run
import FormulaLexer.Proofs.Json.Printer
import Mathlib

/-!
Results printed as JSON. Nothing is lost: from the text that a call writes, the tree of the result
is read back, and no other value.
-/

namespace FormulaLexer

open Json

/-- The outcome of a call that prints a result as JSON. -/
def printedOutcome (isVerbose : Bool) (result : Except LexError (List Token)) : Outcome where
  exitCode := if result.isOk then 0 else 1
  stdout := (resultTree result).print ++ "\n"
  stderr := logText isVerbose (lexLog result)

section

variable (isVerbose : Bool) (result : Except LexError (List Token))

theorem isText_printedOutcome :
    IsText (printedOutcome isVerbose result).stdout.toList (resultTree result) := by
  have hfeed : IsSpaces ['\n'] := List.forall_mem_singleton.2 rfl
  have h := isText_print isSpaces_nil hfeed (resultTree result)
  rw [printedOutcome, String.toList_append]
  exact h

theorem isAscii_printedOutcome : IsAscii (printedOutcome isVerbose result).stdout.toList := by
  simp [printedOutcome, isAscii_print]

/-- The exit code tells tokens from an error. -/
theorem exitCode_printedOutcome :
    match result with
    | .ok tokens => (printedOutcome isVerbose result).exitCode = 0 ∧
        resultTree result = .arr (Token.trees tokens)
    | .error error => (printedOutcome isVerbose result).exitCode = 1 ∧
        resultTree result = error.tree := by
  cases result with
  | ok tokens => exact ⟨rfl, rfl⟩
  | error error => exact ⟨rfl, rfl⟩

end

theorem Command.runTokenize_json (expression : String) (limit : DepthLimit) (isVerbose : Bool)
    (store : Store) : runTokenize expression ⟨true, some limit, isVerbose⟩ store =
      .ok (printedOutcome isVerbose (FormulaLexer.tokenize limit 0 expression)) :=
  rfl

end FormulaLexer
