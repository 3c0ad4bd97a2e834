import FormulaLexer.Proofs.Command.Arguments
import FormulaLexer.Proofs.Command.Run
import FormulaLexer.Proofs.Settings.MaxDepth

/-!
The two ways to a limit. A limit from the settings and the same limit from an option give the
same outcome, and with the option the settings do not count at all.
-/

namespace FormulaLexer

namespace Command

variable {expression : String} {limit : DepthLimit} {asJson isVerbose : Bool} {store : Store}

/-- A limit that the settings give without a warning counts as one that an option gives. -/
theorem runTokenize_of_maxDepth (h : store.maxDepth = .ok (limit, [])) (other : Store) :
    runTokenize expression ⟨asJson, none, isVerbose⟩ store =
      runTokenize expression ⟨asJson, some limit, isVerbose⟩ other := by
  simp only [runTokenize, h]
  rfl

/-- With a limit of its own a command does not fail, and it does not depend on the store. -/
theorem exists_runTokenize (expression : String) (limit : DepthLimit) (asJson isVerbose : Bool) :
    ∃ outcome, ∀ store,
      runTokenize expression ⟨asJson, some limit, isVerbose⟩ store = .ok outcome :=
  ⟨_, fun _ => rfl⟩

end Command

/-- A limit can be set in the settings, and for each expression and each choice of options a
call can give it. A call that follows the settings, after they were set, does what the call
with the limit does. Of the latter nothing depends on the store, and it leaves the store as it
is. -/
theorem runProgram_limit_agrees (expression : String) (limit : DepthLimit)
    (asJson isVerbose : Bool) :
    Command.ofArguments ["config", "set-max-depth", toString limit.value] =
        .ok (.setMaxDepth limit.value) ∧
      (∀ limit?, Command.ofArguments
          (Command.tokenizeArguments expression ⟨asJson, limit?, isVerbose⟩) =
        .ok (.tokenize expression ⟨asJson, limit?, isVerbose⟩)) ∧
      ∀ setting plain limited,
        Command.ofArguments setting = .ok (.setMaxDepth limit.value) →
        Command.ofArguments plain = .ok (.tokenize expression ⟨asJson, none, isVerbose⟩) →
        Command.ofArguments limited =
          .ok (.tokenize expression ⟨asJson, some limit, isVerbose⟩) →
        (∀ store store' outcome, runProgram setting store = (.ok outcome, store') →
          outcome.exitCode = 0 → ∀ other,
            runProgram plain store' = ((runProgram limited other).1, store')) ∧
        ∃ outcome, ∀ store, runProgram limited store = (.ok outcome, store) := by
  refine ⟨Command.ofArguments_setMaxDepth limit,
    fun limit? => Command.ofArguments_tokenizeArguments expression _, ?_⟩
  intro setting plain limited hsetting hplain hlimited
  refine ⟨fun store store' outcome hrun hexit other => ?_, ?_⟩
  · rw [runProgram_of_ok hsetting] at hrun
    have hset := Command.setMaxDepth_of_exitCode hexit hrun
    rw [runProgram_of_ok hplain, runProgram_of_ok hlimited, Command.run, Command.run,
      Command.runTokenize_of_maxDepth (Store.maxDepth_of_setMaxDepth hset) other]
  · obtain ⟨outcome, houtcome⟩ :=
      Command.exists_runTokenize expression limit asJson isVerbose
    exact ⟨outcome, fun store => by rw [runProgram_of_ok hlimited, Command.run, houtcome]⟩

/-- A limit is set over one that is malformed, and the calls have their options in different
orders. -/
theorem runProgram_limit_agrees_malformed :
    let store := Store.directory (.file "CELLEX_MAX_DEPTH=x\r".toUTF8)
    let store' := Store.directory (.file "CELLEX_MAX_DEPTH=2\n".toUTF8)
    let plain := ["tokenize", "-v", "(-(1))", "--json"]
    let limited := ["tokenize", "--json", "--max-depth=2", "--verbose", "--", "(-(1))"]
    runProgram ["config", "set-max-depth", " +2 "] store =
        (.ok ⟨0, "✓ max depth set to 2\n", ""⟩, store') ∧
      (∀ other, runProgram plain store' = ((runProgram limited other).1, store')) ∧
      ∃ outcome, ∀ store, runProgram limited store = (.ok outcome, store) := by
  have hsetting : Command.ofArguments ["config", "set-max-depth", " +2 "] =
      .ok (.setMaxDepth 2) := by rfl
  have hplain : Command.ofArguments ["tokenize", "-v", "(-(1))", "--json"] =
      .ok (.tokenize "(-(1))" ⟨true, none, true⟩) := by rfl
  have hlimited : Command.ofArguments
      ["tokenize", "--json", "--max-depth=2", "--verbose", "--", "(-(1))"] =
        .ok (.tokenize "(-(1))" ⟨true, some { value := 2 }, true⟩) := by rfl
  have hrun : runProgram ["config", "set-max-depth", " +2 "]
      (Store.directory (.file "CELLEX_MAX_DEPTH=x\r".toUTF8)) =
        (.ok ⟨0, "✓ max depth set to 2\n", ""⟩,
          Store.directory (.file "CELLEX_MAX_DEPTH=2\n".toUTF8)) := by rfl
  obtain ⟨-, -, hagree⟩ := runProgram_limit_agrees "(-(1))" { value := 2 } true true
  obtain ⟨hplainLimited, houtcome⟩ := hagree _ _ _ hsetting hplain hlimited
  exact ⟨hrun, hplainLimited _ _ _ hrun rfl, houtcome⟩

end FormulaLexer
