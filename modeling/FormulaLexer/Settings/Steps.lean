import FormulaLexer.Settings.MaxDepth

/-!
Setting the limit step by step: the directory is made, the settings are read, and the file is
written. A step that fails leaves what the steps before it have made.
-/

namespace FormulaLexer.Store

/-- Makes the directory, if nothing stands in its place. -/
def makeDirectory : Store → Except SettingsError Store
  | missing => .ok (directory .missing)
  | blocked => .error (.notWritten .directoryBlocked)
  | directory file => .ok (directory file)

/-- Sets the limit, and gives the store that is left in the end, also where a step fails. -/
def setMaxDepthInSteps (requested : Int) (store : Store) : Except SettingsError Unit × Store :=
  match DepthLimit.ofInt? requested with
  | none => (.error (.limitOutOfRange requested), store)
  | some limit =>
    match store.makeDirectory with
    | .error error => (.error error, store)
    | .ok store =>
      match store.read with
      | .error error => (.error error, store)
      | .ok settings =>
        match store.write (settings.set maxDepthKey (toString limit.value)) with
        | .error error => (.error error, store)
        | .ok store => (.ok (), store)

/-- Where a step fails, the steps before it have changed nothing. -/
theorem setMaxDepthInSteps_eq (requested : Int) (store : Store) :
    store.setMaxDepthInSteps requested =
      match store.setMaxDepth requested with
      | .error error => (.error error, store)
      | .ok store' => (.ok (), store') := by
  rw [setMaxDepthInSteps, setMaxDepth]
  cases DepthLimit.ofInt? requested with
  | none => rfl
  | some limit =>
      cases store with
      | missing => rfl
      | blocked => rfl
      | directory file =>
          cases hread : (directory file).read with
          | error error => simp [makeDirectory, hread, bind, Except.bind]
          | ok settings => simp [makeDirectory, hread, bind, Except.bind]

end FormulaLexer.Store
