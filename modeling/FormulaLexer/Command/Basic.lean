import FormulaLexer.Command.Arguments
import FormulaLexer.Lexer.DepthLimit
import FormulaLexer.Text.Numeral

/-!
The commands of the program, and the arguments that call them.
-/

namespace FormulaLexer

/-- How the tokens of an expression are shown. -/
structure TokenizeOptions where
  asJson : Bool
  /-- The limit on the depth of groups, in place of the one that the settings give. -/
  limit? : Option DepthLimit
  isVerbose : Bool
  deriving DecidableEq, Repr

inductive Command where
  | tokenize (expression : String) (options : TokenizeOptions)
  | showSettings
  | setMaxDepth (requested : Int)
  | help
  deriving DecidableEq, Repr

inductive TokenizeChoice where
  | json
  | maxDepth (value : String)
  | verbose
  | help
  deriving DecidableEq, Repr

/-- The value of the last choice of a limit. -/
def TokenizeChoice.lastMaxDepth? : List TokenizeChoice → Option String
  | [] => none
  | maxDepth value :: rest => some ((lastMaxDepth? rest).getD value)
  | _ :: rest => lastMaxDepth? rest

namespace Command

def tokenizeTable : OptionTable TokenizeChoice where
  long?
    | "--json" => some (.flag .json)
    | "--max-depth" => some (.valued .maxDepth)
    | "--verbose" => some (.flag .verbose)
    | "--help" => some (.flag .help)
    | _ => none
  short?
    | 'v' => some .verbose
    | _ => none

/-- The options of a command that only offers help. -/
def helpTable : OptionTable Unit where
  long?
    | "--help" => some (.flag ())
    | _ => none
  short? _ := none

def integerOf (argument : String) : Except UsageError Int :=
  match Text.Numeral.read argument.toList with
  | .error _ => .error (.notInteger argument)
  | .ok n => .ok n

def limitOf (argument : String) : Except UsageError DepthLimit := do
  let n ← integerOf argument
  match DepthLimit.ofInt? n with
  | none => .error (.limitOutOfRange n)
  | some limit => return limit

def theOperand : List String → Except UsageError String
  | [] => .error .operandMissing
  | [operand] => .ok operand
  | _ :: extra :: _ => .error (.operandUnexpected extra)

def noOperand : List String → Except UsageError Unit
  | [] => .ok ()
  | extra :: _ => .error (.operandUnexpected extra)

/-- Reads the arguments of a command that only offers help, and goes on with its operands
where no help is asked for. -/
def withHelp (mayFollow : Bool) (arguments : List String)
    (command : List String → Except UsageError Command) : Except UsageError Command := do
  let arguments ← helpTable.read mayFollow arguments
  if arguments.choices.isEmpty then command arguments.operands else return help

def readTokenize (arguments : List String) : Except UsageError Command := do
  let arguments ← tokenizeTable.read true arguments
  let choices := arguments.choices
  if .help ∈ choices then return help
  let limit? ← match TokenizeChoice.lastMaxDepth? choices with
    | none => pure none
    | some value => some <$> limitOf value
  let expression ← theOperand arguments.operands
  return tokenize expression
    { asJson := .json ∈ choices, limit? := limit?, isVerbose := .verbose ∈ choices }

def readShowSettings (arguments : List String) : Except UsageError Command :=
  withHelp true arguments fun operands => do
    noOperand operands
    return showSettings

def readSetMaxDepth (arguments : List String) : Except UsageError Command :=
  withHelp true arguments fun operands => do
    let requested ← integerOf (← theOperand operands)
    return setMaxDepth requested

def readConfig (arguments : List String) : Except UsageError Command :=
  withHelp false arguments fun
    | [] => .error .commandMissing
    | "show" :: rest => readShowSettings rest
    | "set-max-depth" :: rest => readSetMaxDepth rest
    | name :: _ => .error (.commandUnknown name)

/-- The command that arguments call. -/
def ofArguments (arguments : List String) : Except UsageError Command :=
  withHelp false arguments fun
    | [] => .error .commandMissing
    | "tokenize" :: rest => readTokenize rest
    | "config" :: rest => readConfig rest
    | name :: _ => .error (.commandUnknown name)

end Command

end FormulaLexer
