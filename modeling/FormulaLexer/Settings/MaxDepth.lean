import FormulaLexer.Lexer.DepthLimit
import FormulaLexer.Log
import FormulaLexer.Settings.Store
import FormulaLexer.Text.Integer
import FormulaLexer.Text.Quoted

/-!
The setting for the depth of groups. A value that is no limit is ignored with a warning.
-/

namespace FormulaLexer

def maxDepthKey : String := "CELLEX_MAX_DEPTH"

/-- The message of an error; none where the bytes of the file are no text. -/
def SettingsError.message? : SettingsError → Option String
  | limitOutOfRange requested =>
      some s!"max depth must be between 1 and {DepthLimit.highest}, got {requested}"
  | notWritten .directoryBlocked => some StoreError.directoryBlocked.message
  | notWritten .fileIsDirectory =>
      some ("failed to write config file: " ++ StoreError.fileIsDirectory.message)
  | notText => none

namespace Settings

/-- The limit that a value of the setting gives, and the warning if it gives none. -/
def limitOfValue (value : String) : DepthLimit × List LogRecord :=
  match Text.integer? value.toList with
  | none =>
      let written := String.ofList (Text.quoted value.toList)
      (.standard, [⟨.warning, .settings, s!"ignoring malformed {maxDepthKey}={written}"⟩])
  | some n =>
    match DepthLimit.ofInt? n with
    | none =>
        (.standard, [⟨.warning, .settings,
          s!"ignoring out of range {maxDepthKey}={n}, limit is {DepthLimit.highest}"⟩])
    | some limit => (limit, [])

def maxDepth (settings : Settings) : DepthLimit × List LogRecord :=
  match settings.get? maxDepthKey with
  | none => (.standard, [])
  | some value => limitOfValue value

end Settings

namespace Store

def maxDepth (store : Store) : Except SettingsError (DepthLimit × List LogRecord) :=
  store.read.map Settings.maxDepth

/-- Sets the limit in the store. All other settings stay as they are. -/
def setMaxDepth (requested : Int) (store : Store) : Except SettingsError Store :=
  match DepthLimit.ofInt? requested with
  | none => .error (.limitOutOfRange requested)
  | some limit => do
    let settings ← store.read
    store.write (settings.set maxDepthKey (toString limit.value))

end Store

end FormulaLexer
