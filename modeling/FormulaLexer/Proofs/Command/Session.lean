import FormulaLexer.Command.Session
import FormulaLexer.Proofs.Command.Run
import FormulaLexer.Proofs.Settings.MaxDepth

/-!
Sessions leave the store as it was, apart from the limit that was set last.
-/

namespace FormulaLexer

/-- The store is as the last limit that was set alone would leave it, and as it was if no limit
was set. -/
def Store.SetLast (store : Store) : Option Int → Store → Prop
  | none, store' => store' = store
  | some requested, store' => store.setMaxDepth requested = .ok store'

/-- Of two limits the later one counts. -/
theorem Store.SetLast.trans {store store' store'' : Store} {first? second? : Option Int}
    (h : store.SetLast first? store') (h' : store'.SetLast second? store'') :
    store.SetLast (second?.or first?) store'' := by
  cases second? with
  | none =>
      obtain rfl : store'' = store' := h'
      exact h
  | some second =>
      cases first? with
      | none =>
          obtain rfl : store' = store := h
          exact h'
      | some first => exact Store.setMaxDepth_absorbs h h'

/-! ### One request -/

namespace Request

variable {arguments : List String} {requested : Int}

theorem limitSet?_program_of_ne
    (h : ∀ requested, Command.ofArguments arguments ≠ .ok (.setMaxDepth requested))
    (reply : Reply) : (program arguments).limitSet? reply = none := by
  cases reply with
  | maxDepth result => rfl
  | setMaxDepth result => rfl
  | program result =>
      cases result with
      | error error => rfl
      | ok outcome => simp only [limitSet?]

theorem limitSet?_program_of_failed {result : Except SettingsError Outcome}
    (h : ∀ outcome, result = .ok outcome → outcome.exitCode ≠ 0) :
    (program arguments).limitSet? (.program result) = none := by
  cases result with
  | error error => rfl
  | ok outcome =>
      simp only [limitSet?, h outcome rfl, if_false]
      split <;> rfl

theorem limitSet?_program (h : Command.ofArguments arguments = .ok (.setMaxDepth requested))
    {outcome : Outcome} (hexit : outcome.exitCode = 0) :
    (program arguments).limitSet? (.program (.ok outcome)) = some requested := by
  simp only [limitSet?, h, hexit, if_true]

/-- A call of the program changes the store by the limit that it has set, and in no other way. -/
theorem run_program_setLast (arguments : List String) (store : Store) :
    store.SetLast ((program arguments).limitSet? (.program (runProgram arguments store).1))
      (runProgram arguments store).2 := by
  by_cases hcommand : ∃ requested, Command.ofArguments arguments = .ok (.setMaxDepth requested)
  · obtain ⟨requested, hcommand⟩ := hcommand
    rw [runProgram_of_ok hcommand, Command.run]
    cases hset : store.setMaxDepth requested with
    | error error =>
        obtain ⟨result, hrun, hfailed⟩ := Command.runSetMaxDepth_of_error hset
        rw [hrun, limitSet?_program_of_failed hfailed]
        exact rfl
    | ok store' =>
        rw [Command.runSetMaxDepth_of_ok hset, limitSet?_program hcommand rfl]
        exact hset
  · rw [not_exists] at hcommand
    rw [limitSet?_program_of_ne hcommand, runProgram_store_of_ne hcommand]
    exact rfl

theorem run_setLast (request : Request) (store : Store) :
    store.SetLast (request.limitSet? (request.run store).1) (request.run store).2 := by
  cases request with
  | maxDepth => exact rfl
  | setMaxDepth requested =>
      rw [run, Store.setMaxDepthInSteps_eq]
      cases hset : store.setMaxDepth requested with
      | error error => exact rfl
      | ok store' => exact hset
  | program arguments => exact run_program_setLast arguments store

end Request

/-! ### Sessions -/

theorem lastLimitSet?_cons (request : Request) (reply : Reply) (requests : List Request)
    (replies : List Reply) : lastLimitSet? (request :: requests) (reply :: replies) =
      (lastLimitSet? requests replies).or (request.limitSet? reply) := by
  rw [lastLimitSet?, List.zip_cons_cons, List.filterMap_cons]
  cases h : request.limitSet? reply with
  | none => simp [h, lastLimitSet?]
  | some requested => simp [h, lastLimitSet?, List.getLast?_cons]

theorem runSession_setLast (requests : List Request) (store : Store) :
    store.SetLast (lastLimitSet? requests (runSession requests store).1)
      (runSession requests store).2 := by
  induction requests generalizing store with
  | nil => exact rfl
  | cons request rest ih =>
      rw [runSession, lastLimitSet?_cons]
      exact (request.run_setLast store).trans (ih (request.run store).2)

/-- A limit out of range and a call without a limit set nothing, so the first call counts. -/
example :
    let requests : List Request := [.setMaxDepth 3, .program ["config", "set-max-depth", "7"],
      .setMaxDepth 501, .maxDepth, .program ["config", "set-max-depth"]]
    lastLimitSet? requests (runSession requests .missing).1 = some 7 := by rfl

end FormulaLexer
