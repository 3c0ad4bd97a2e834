import FormulaLexer.Command.Run
import FormulaLexer.Json.Reader
import FormulaLexer.Lexer.InPlace
import FormulaLexer.Lexer.Steps
import FormulaLexer.Main
import FormulaLexer.Token.Spacing
import FormulaLexer.Validation.Error
import FormulaLexer.Validation.Token
import FormulaLexer.Proofs.Lexer.Spelling
import FormulaLexer.Proofs.Lexer.Lead
import FormulaLexer.Proofs.Lexer.Derivation
import FormulaLexer.Proofs.Lexer.Tokenization
import FormulaLexer.Proofs.Lexer.LetterRun
import FormulaLexer.Proofs.Lexer.Acceptance
import FormulaLexer.Proofs.Lexer.Failure
import FormulaLexer.Proofs.Lexer.Limit
import FormulaLexer.Proofs.Lexer.Isolation
import FormulaLexer.Proofs.Text.Spacing
import FormulaLexer.Proofs.Lexer.WrittenBack
import FormulaLexer.Proofs.Token.Separated
import FormulaLexer.Proofs.Lexer.Reread
import FormulaLexer.Proofs.Text.Respacing
import FormulaLexer.Proofs.Lexer.Respacing
import FormulaLexer.Proofs.Text.Decimal
import FormulaLexer.Proofs.Settings.Reread
import FormulaLexer.Proofs.Settings.MaxDepth
import FormulaLexer.Command.Session
import FormulaLexer.Proofs.Command.Session
import FormulaLexer.Proofs.Command.Arguments
import FormulaLexer.Proofs.Command.Limit
import FormulaLexer.Proofs.Lexer.Pairing
import FormulaLexer.Proofs.Text.Quoted
import FormulaLexer.Proofs.Display.Report
import FormulaLexer.Proofs.Display.Caret
import FormulaLexer.Proofs.Command.AnyStore
import FormulaLexer.Proofs.Lexer.FirstShape
import FormulaLexer.Proofs.Settings.Refused
import FormulaLexer.Proofs.Text.Integer
import FormulaLexer.Proofs.Settings.LastLine
import FormulaLexer.Proofs.Json.Grammar
import FormulaLexer.Proofs.Json.Reader
import FormulaLexer.Proofs.Json.Printer
import FormulaLexer.Proofs.Command.Printed
import FormulaLexer.Proofs.Lexer.Ambiguity
import FormulaLexer.Proofs.Lexer.Message
import FormulaLexer.Proofs.Display.Outline
import FormulaLexer.Proofs.Command.Outlined
import FormulaLexer.Proofs.Validation.Issue
import FormulaLexer.Proofs.Validation.Token
import FormulaLexer.Proofs.Validation.Nested
import FormulaLexer.Proofs.Lexer.Turn
import FormulaLexer.Proofs.Lexer.Progress
