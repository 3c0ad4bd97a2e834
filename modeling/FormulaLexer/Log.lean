import FormulaLexer.Lexer.Error

/-!
Records of what the program notices while it works.
-/

namespace FormulaLexer

/-- How much a record matters. -/
inductive Level where
  | debug
  | warning
  deriving DecidableEq, Repr

def Level.name : Level → String
  | .debug => "DEBUG"
  | .warning => "WARNING"

/-- The part of the program that a record comes from. -/
inductive Logger where
  | lexer
  | settings
  deriving DecidableEq, Repr

def Logger.name : Logger → String
  | .lexer => "cellex.lexing.tokenizer"
  | .settings => "cellex.config"

structure LogRecord where
  level : Level
  logger : Logger
  text : String
  deriving DecidableEq, Repr

/-- A record on one line, with its level and its part of the program. -/
def LogRecord.line (record : LogRecord) : String :=
  s!"{record.level.name}:{record.logger.name}:{record.text}"

/-- What is recorded of a run of the lexer: its error, if there is one. -/
def lexLog {α : Type} : Except LexError α → List LogRecord
  | .ok _ => []
  | .error error =>
      [⟨.debug, .lexer, s!"tokenize failed: {error.reason.name} at {error.position}"⟩]

end FormulaLexer
