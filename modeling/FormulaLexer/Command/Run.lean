import FormulaLexer.Command.Basic
import FormulaLexer.Display.Outline
import FormulaLexer.Display.Report
import FormulaLexer.Json.Printer
import FormulaLexer.Lexer.Basic
import FormulaLexer.Settings.MaxDepth
import FormulaLexer.Token.Tree

/-!
What commands write, and what they change in the store.
-/

namespace FormulaLexer

/-- The exit code of a command and the text that it writes on both streams. -/
structure Outcome where
  exitCode : UInt8
  stdout : String
  stderr : String
  deriving DecidableEq, Repr

/-- Lines of text, each ended by a line feed. -/
def linesText (lines : List String) : String :=
  String.ofList (Text.unlines (lines.map String.toList))

/-- The records that a command writes: all of them if it is verbose, and otherwise the texts
of the warnings. -/
def logText (isVerbose : Bool) (log : List LogRecord) : String :=
  if isVerbose then linesText (log.map LogRecord.line)
  else linesText ((log.filter fun record => record.level = .warning).map LogRecord.text)

/-- The tree of a result: a list of tokens, or the error. -/
def resultTree : Except LexError (List Token) → Json
  | .ok tokens => .arr (Token.trees tokens)
  | .error error => error.tree

/-- A result as lines: the outline of the tokens, or the report of the error. -/
def resultLines (expression : String) : Except LexError (List Token) → List (List Char)
  | .ok tokens => Outline.draw expression tokens
  | .error error => Report.draw (Report.panel expression error)

/-- A row of the table of settings, between the given edges. -/
def settingsRow (edge : Char) (name value : String) : String :=
  let name := name.toList
  let value := value.toList
  String.ofList <| edge :: ' ' :: Text.padTo 11 name.length name ++ ' ' :: edge :: ' ' ::
    Text.padTo 14 value.length value ++ [' ', edge]

def settingsTable (limit : DepthLimit) : List String :=
  ["        cellex settings         ",
    "┏━━━━━━━━━━━━━┳━━━━━━━━━━━━━━━━┓",
    settingsRow '┃' "Setting" "Value",
    "┡━━━━━━━━━━━━━╇━━━━━━━━━━━━━━━━┩",
    settingsRow '│' "config file" settingsFile,
    settingsRow '│' "max depth" (toString limit.value),
    "└─────────────┴────────────────┘"]

/-- The calls that the program understands. -/
def usageLines : List String :=
  ["Usage: cellex tokenize [--json] [--max-depth N] [--verbose | -v] EXPRESSION",
    "       cellex config show",
    "       cellex config set-max-depth N"]

namespace Command

/-- Lexes an expression. The settings are read only where no limit is given. -/
def runTokenize (expression : String) (options : TokenizeOptions) (store : Store) :
    Except SettingsError Outcome := do
  let (limit, log) ← match options.limit? with
    | some limit => pure (limit, [])
    | none => store.maxDepth
  let result := FormulaLexer.tokenize limit 0 expression
  let stdout :=
    if options.asJson then (resultTree result).print ++ "\n"
    else String.ofList (Text.unlines (resultLines expression result))
  return { exitCode := if result.isOk then 0 else 1, stdout,
           stderr := logText options.isVerbose (log ++ lexLog result) }

def runShowSettings (store : Store) : Except SettingsError Outcome := do
  let (limit, log) ← store.maxDepth
  return { exitCode := 0, stdout := linesText (settingsTable limit), stderr := logText false log }

/-- The error line for a limit that was not set. Two of the errors have none. -/
def setErrorLine? (error : SettingsError) : Option String :=
  match error with
  | .limitOutOfRange _ => error.message?.map ("Error: " ++ ·)
  | .notWritten .fileIsDirectory => error.message?.map ("Unexpected error: " ++ ·)
  | .notWritten .directoryBlocked => none
  | .notText => none

/-- Sets the limit. An error that has no line of its own goes to the caller. -/
def runSetMaxDepth (requested : Int) (store : Store) : Except SettingsError Outcome × Store :=
  match store.setMaxDepth requested with
  | .ok store => (.ok ⟨0, linesText [s!"✓ max depth set to {requested}"], ""⟩, store)
  | .error error =>
    match setErrorLine? error with
    | some line => (.ok ⟨1, linesText [line], ""⟩, store)
    | none => (.error error, store)

def run (command : Command) (store : Store) : Except SettingsError Outcome × Store :=
  match command with
  | tokenize expression options => (runTokenize expression options store, store)
  | showSettings => (runShowSettings store, store)
  | setMaxDepth requested => runSetMaxDepth requested store
  | help => (.ok ⟨0, linesText usageLines, ""⟩, store)

end Command

def UsageError.message : UsageError → String
  | optionUnknown name => s!"unknown option: {name}"
  | valueMissing name => s!"option without its value: {name}"
  | valueUnexpected name => s!"option that takes no value: {name}"
  | notInteger argument => s!"not an integer: {argument}"
  | limitOutOfRange requested => s!"limit out of range: {requested}"
  | operandMissing => "an argument is missing"
  | operandUnexpected operand => s!"too many arguments: {operand}"
  | commandMissing => "a command is missing"
  | commandUnknown name => s!"unknown command: {name}"

def UsageError.outcome (error : UsageError) : Outcome :=
  ⟨2, "", linesText (usageLines ++ [s!"Error: {error.message}"])⟩

def runProgram (arguments : List String) (store : Store) :
    Except SettingsError Outcome × Store :=
  match Command.ofArguments arguments with
  | .error error => (.ok error.outcome, store)
  | .ok command => command.run store

end FormulaLexer
