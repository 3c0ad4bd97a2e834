import FormulaLexer.Proofs.Command.Arguments
import FormulaLexer.Proofs.Command.Run
import FormulaLexer.Proofs.Display.Outline
import Mathlib

/-!
Results printed as an outline. The last lines of a call that reads tokens are the lines of the
tokens, one for each, and the tokens are read back from these lines.
-/

namespace FormulaLexer

open Text

/-- The outcome of a call that prints a result as lines. -/
def outlinedOutcome (expression : String) (isVerbose : Bool)
    (result : Except LexError (List Token)) : Outcome where
  exitCode := if result.isOk then 0 else 1
  stdout := String.ofList (unlines (resultLines expression result))
  stderr := logText isVerbose (lexLog result)

theorem Command.runTokenize_outline (expression : String) (limit : DepthLimit) (isVerbose : Bool)
    (store : Store) : runTokenize expression ⟨false, some limit, isVerbose⟩ store =
      .ok (outlinedOutcome expression isVerbose (FormulaLexer.tokenize limit 0 expression)) :=
  rfl

/-- The lines of a call that prints an outline end with the lines of the tokens: for each place of
the tree its columns, its mark and its label, each group before its children. From each line what
its token says of itself is read back. -/
theorem runProgram_outlined {expression : String} {limit : DepthLimit} {tokens : List Token}
    (h : tokenize limit 0 expression = .ok tokens) (isVerbose : Bool) :
    Command.ofArguments (Command.tokenizeArguments expression ⟨false, some limit, isVerbose⟩) =
      .ok (.tokenize expression ⟨false, some limit, isVerbose⟩) ∧
    (∀ location, location ∈ Token.locations tokens ↔ Token.Stands tokens location) ∧
    (Token.locations tokens).map (Token.Location.entry 0) = Token.entries 0 tokens ∧
    ∀ arguments, Command.ofArguments arguments =
        .ok (.tokenize expression ⟨false, some limit, isVerbose⟩) →
      ∃ outcome ls, (∀ store, runProgram arguments store = (.ok outcome, store)) ∧
        outcome.exitCode = 0 ∧ lines outcome.stdout.toList = ls ++ [[]] ∧
        ls.rtake (Token.entries 0 tokens).length = (Token.locations tokens).map Outline.row ∧
        (ls.rtake (Token.entries 0 tokens).length).map (Outline.readRow? 0) =
          (Token.entries 0 tokens).map some := by
  have hreads := lexWindow_eq_ok_iff.1 h
  obtain ⟨titleLines, hdraw, hlines⟩ := Outline.exists_draw_eq hreads expression
  have hlength : ((Token.locations tokens).map Outline.row).length =
      (Token.entries 0 tokens).length := by
    rw [← Token.map_entry_locations, List.length_map, List.length_map]
  have hlast : (Outline.draw expression tokens).rtake (Token.entries 0 tokens).length =
      (Token.locations tokens).map Outline.row := by
    rw [hdraw, List.rtake, List.length_append, hlength, Nat.add_sub_cancel, List.drop_left]
  refine ⟨Command.ofArguments_tokenizeArguments expression _, fun _ => Token.mem_locations_iff,
    Token.map_entry_locations 0 tokens, fun arguments harguments => ?_⟩
  refine ⟨outlinedOutcome expression isVerbose (.ok tokens), Outline.draw expression tokens,
    fun store => ?_, rfl, ?_, hlast, ?_⟩
  · rw [runProgram_of_ok harguments, Command.run, Command.runTokenize_outline, h]
  · rw [outlinedOutcome, String.toList_ofList, resultLines, lines_unlines hlines]
  · rw [hlast, Outline.map_readRow?_rows hreads]

/-- A group with a later sibling, and the last of its children with a child of its own. -/
theorem runProgram_outlined_nested :
    let arguments := ["tokenize", "--max-depth=2", "--", "(A1+(B2))*3"]
    let tokens : List Token := [
      .group [.leaf .reference "A1" ⟨1, 3⟩, .leaf .operator "+" ⟨3, 4⟩,
        .group [.leaf .reference "B2" ⟨5, 7⟩] ⟨4, 8⟩] ⟨0, 9⟩,
      .leaf .operator "*" ⟨9, 10⟩, .leaf .number "3" ⟨10, 11⟩]
    let rows := ["├── group [0:9]", "│   ├── reference A1 [1:3]", "│   ├── operator + [3:4]",
      "│   └── group [4:8]", "│       └── reference B2 [5:7]", "├── operator * [9:10]",
      "└── number 3 [10:11]"].map String.toList
    tokenize { value := 2 } 0 "(A1+(B2))*3" = .ok tokens ∧
    ∃ outcome ls, (∀ store, runProgram arguments store = (.ok outcome, store)) ∧
      lines outcome.stdout.toList = ls ++ [[]] ∧ ls.rtake 7 = rows ∧
      rows.map (Outline.readRow? 0) = (Token.entries 0 tokens).map some := by
  intro arguments tokens rows
  have htokens : tokenize { value := 2 } 0 "(A1+(B2))*3" = .ok tokens := by cbv
  have hread : Command.ofArguments arguments =
      .ok (.tokenize "(A1+(B2))*3" ⟨false, some { value := 2 }, false⟩) := by rfl
  have hcount : (Token.entries 0 tokens).length = 7 := by cbv
  have hrows : (Token.locations tokens).map Outline.row = rows := by cbv
  obtain ⟨-, -, -, hrun⟩ := runProgram_outlined htokens false
  obtain ⟨outcome, ls, hstore, -, hlines, hlast, hentries⟩ := hrun arguments hread
  rw [hlast] at hentries
  rw [hcount] at hlast
  rw [hrows] at hlast hentries
  exact ⟨htokens, outcome, ls, hstore, hlines, hlast, hentries⟩

end FormulaLexer
