import FormulaLexer.Command.Run
import FormulaLexer.Settings.Steps

/-!
What commands change in the store, and how their exit codes tell of it.
-/

namespace FormulaLexer

variable {store store' : Store} {requested : Int}

theorem runProgram_of_ok {arguments : List String} {command : Command}
    (h : Command.ofArguments arguments = .ok command) :
    runProgram arguments store = command.run store := by
  rw [runProgram, h]

namespace Command

theorem runSetMaxDepth_of_ok (h : store.setMaxDepth requested = .ok store') :
    runSetMaxDepth requested store =
      (.ok ⟨0, linesText [s!"✓ max depth set to {requested}"], ""⟩, store') := by
  rw [runSetMaxDepth, h]

theorem runSetMaxDepth_of_line {error : SettingsError} {line : String}
    (h : store.setMaxDepth requested = .error error) (hline : setErrorLine? error = some line) :
    runSetMaxDepth requested store = (.ok ⟨1, linesText [line], ""⟩, store) := by
  rw [runSetMaxDepth, h]
  simp only [hline]

theorem runSetMaxDepth_of_no_line {error : SettingsError}
    (h : store.setMaxDepth requested = .error error) (hline : setErrorLine? error = none) :
    runSetMaxDepth requested store = (.error error, store) := by
  rw [runSetMaxDepth, h]
  simp only [hline]

/-- Where the limit is not set, the store stays as it is and the exit code does not tell of
success. -/
theorem runSetMaxDepth_of_error {error : SettingsError}
    (h : store.setMaxDepth requested = .error error) :
    ∃ result, runSetMaxDepth requested store = (result, store) ∧
      ∀ outcome, result = .ok outcome → outcome.exitCode ≠ 0 := by
  cases hline : setErrorLine? error with
  | none =>
      refine ⟨.error error, runSetMaxDepth_of_no_line h hline, fun outcome houtcome => ?_⟩
      contradiction
  | some line =>
      refine ⟨_, runSetMaxDepth_of_line h hline, fun outcome houtcome => ?_⟩
      cases houtcome
      exact (by decide : (1 : UInt8) ≠ 0)

/-- The store that the command leaves is the one that the steps leave. -/
theorem runSetMaxDepth_eq_inSteps : runSetMaxDepth requested store =
    match store.setMaxDepthInSteps requested with
    | (.ok (), store') => (.ok ⟨0, linesText [s!"✓ max depth set to {requested}"], ""⟩, store')
    | (.error error, store') =>
      match setErrorLine? error with
      | some line => (.ok ⟨1, linesText [line], ""⟩, store')
      | none => (.error error, store') := by
  rw [runSetMaxDepth, Store.setMaxDepthInSteps_eq]
  cases store.setMaxDepth requested with
  | error error => rfl
  | ok store' => rfl

/-- The exit code tells whether the limit was set. -/
theorem setMaxDepth_of_exitCode {outcome : Outcome} (hexit : outcome.exitCode = 0)
    (h : runSetMaxDepth requested store = (.ok outcome, store')) :
    store.setMaxDepth requested = .ok store' := by
  cases hset : store.setMaxDepth requested with
  | error error =>
      obtain ⟨result, hrun, hfailed⟩ := runSetMaxDepth_of_error hset
      rw [h, Prod.mk.injEq] at hrun
      exact absurd hexit (hfailed outcome hrun.1.symm)
  | ok store'' =>
      rw [runSetMaxDepth_of_ok hset, Prod.mk.injEq] at h
      rw [h.2]

end Command

/-- Only the command that sets the limit changes the store. -/
theorem runProgram_store_of_ne {arguments : List String}
    (h : ∀ requested, Command.ofArguments arguments ≠ .ok (.setMaxDepth requested)) :
    (runProgram arguments store).2 = store := by
  rw [runProgram]
  cases hcommand : Command.ofArguments arguments with
  | error error => rfl
  | ok command =>
      cases command with
      | tokenize expression options => rfl
      | showSettings => rfl
      | setMaxDepth requested => exact absurd hcommand (h requested)
      | help => rfl

end FormulaLexer
