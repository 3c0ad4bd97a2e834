/-!
Arguments of a command: options, which choose how the command works, and operands. A long
option is a word behind two dashes and may take a value; a short one is a letter behind a
single dash, and short ones may share the dash.
-/

namespace FormulaLexer

/-- Why arguments are refused. -/
inductive UsageError where
  | optionUnknown (name : String)
  /-- An option stands at the end, where its value should follow. -/
  | valueMissing (option : String)
  /-- A value is given to an option that takes none. -/
  | valueUnexpected (option : String)
  | notInteger (argument : String)
  | limitOutOfRange (requested : Int)
  | operandMissing
  | operandUnexpected (operand : String)
  | commandMissing
  | commandUnknown (name : String)
  deriving DecidableEq, Repr

/-- What a long option chooses. -/
inductive OptionForm (α : Type) where
  | flag (choice : α)
  | valued (choice : String → α)

structure OptionTable (α : Type) where
  /-- The option with the given name, dashes included. -/
  long? : String → Option (OptionForm α)
  /-- The choice of a letter. -/
  short? : Char → Option α

/-- The choices of a command's options and its operands, each in the order given. -/
structure Arguments (α : Type) where
  choices : List α
  operands : List String

inductive Argument (α : Type) where
  | operand (text : String)
  | chosen (choices : List α)
  /-- An option whose value is the next argument. -/
  | awaiting (name : String) (choice : String → α)
  /-- The mark after which all arguments are operands. -/
  | endOfOptions

namespace OptionTable

variable {α : Type}

/-- A long option, with a value behind an equals sign or without one. -/
def readLong (table : OptionTable α) (argument : List Char) :
    Except UsageError (Argument α) :=
  let name := String.ofList (argument.takeWhile (· != '='))
  match table.long? name, argument.dropWhile (· != '=') with
  | none, _ => .error (.optionUnknown name)
  | some (.flag choice), [] => .ok (.chosen [choice])
  | some (.flag _), _ :: _ => .error (.valueUnexpected name)
  | some (.valued choice), [] => .ok (.awaiting name choice)
  | some (.valued choice), _ :: value => .ok (.chosen [choice (String.ofList value)])

/-- The choices of letters that share a dash. -/
def readShort (table : OptionTable α) : List Char → Except UsageError (List α)
  | [] => .ok []
  | letter :: rest =>
    match table.short? letter with
    | none => .error (.optionUnknown (String.ofList ['-', letter]))
    | some choice => (table.readShort rest).map (choice :: ·)

/-- Reads one argument. A dash on its own is an operand. -/
def readArgument (table : OptionTable α) (argument : String) :
    Except UsageError (Argument α) :=
  match argument.toList with
  | ['-', '-'] => .ok .endOfOptions
  | '-' :: '-' :: rest => table.readLong ('-' :: '-' :: rest)
  | '-' :: letter :: rest => (table.readShort (letter :: rest)).map .chosen
  | _ => .ok (.operand argument)

/-- Reads arguments. An option may await its value from before. Where options may not follow
operands, the first operand makes operands of all arguments after it. -/
def readFrom (table : OptionTable α) (mayFollow : Bool) :
    Option (String × (String → α)) → List String → Except UsageError (Arguments α)
  | none, [] => .ok ⟨[], []⟩
  | some (name, _), [] => .error (.valueMissing name)
  | some (_, choice), value :: rest => do
    let arguments ← table.readFrom mayFollow none rest
    return { arguments with choices := choice value :: arguments.choices }
  | none, argument :: rest => do
    match ← table.readArgument argument with
    | .endOfOptions => return ⟨[], rest⟩
    | .awaiting name choice => table.readFrom mayFollow (some (name, choice)) rest
    | .chosen choices => do
      let arguments ← table.readFrom mayFollow none rest
      return { arguments with choices := choices ++ arguments.choices }
    | .operand text =>
      if mayFollow then do
        let arguments ← table.readFrom mayFollow none rest
        return { arguments with operands := text :: arguments.operands }
      else return ⟨[], text :: rest⟩

def read (table : OptionTable α) (mayFollow : Bool) (arguments : List String) :
    Except UsageError (Arguments α) :=
  table.readFrom mayFollow none arguments

end OptionTable

end FormulaLexer
