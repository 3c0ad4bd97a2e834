import FormulaLexer.Display.Styled
import FormulaLexer.Lexer.Error
import FormulaLexer.Text.Columns
import FormulaLexer.Text.Lines

/-!
The report of an error: the expression with a caret under the place of the error, the
reason, and the text that was left, all in a box.
-/

namespace FormulaLexer

/-- A body of text in a border with a title. -/
structure Panel where
  title : Piece
  border : Style
  /-- Whether the panel takes the whole width of the screen. -/
  isWide : Bool
  body : Styled
  deriving DecidableEq, Repr

namespace Report

/-- The index in a text of the given length that a position stands for. A negative position
counts from the end, and each index beyond an end is moved to that end. -/
def indexOf (length : Nat) (position : Int) : Nat :=
  if position < 0 then (length + position).toNat else min position.toNat length

def lastLine (s : List Char) : List Char := (s.reverse.takeWhile (· != '\n')).reverse

/-- Blanks as wide as a text: tabs stay, and any other character becomes a space. -/
def indentOf (s : List Char) : List Char := s.map fun c => if c = '\t' then c else ' '

/-- The expression through the line of the error, then a line with the caret, the rest of
the expression, the reason and the text that was left. -/
def pieces (expression : String) (error : LexError) : List Piece :=
  let s := expression.toList
  let index := indexOf s.length error.position
  let before := s.take index
  let after := s.drop index
  [⟨before ++ after.takeWhile (· != '\n') ++ ['\n'], none⟩,
    ⟨indentOf (lastLine before) ++ ['^'], some .boldRed⟩,
    ⟨after.dropWhile (· != '\n'), none⟩,
    ⟨("\nreason: " ++ error.reason.name).toList, none⟩,
    ⟨"\nremaining: ".toList ++ Text.quoted error.remaining.toList, some .dim⟩]

def body (expression : String) (error : LexError) : Styled :=
  Styled.ofPieces none (pieces expression error)

def panel (expression : String) (error : LexError) : Panel :=
  { title := ⟨"lex error".toList, some .red⟩, border := .red, isWide := false,
    body := body expression error }

/-- A line of a box: the text between two borders, with a space on each side. -/
def boxLine (width : Nat) (line : List Char) : List Char :=
  '│' :: ' ' :: Text.padTo width (Text.columns line) line ++ [' ', '│']

/-- A title in the middle of a border of the given width. Of two unequal sides the right
one is the longer. -/
def titledBorder (width : Nat) (title : List Char) : List Char :=
  let spare := width - title.length
  List.replicate (spare / 2) '─' ++ title ++ List.replicate (spare - spare / 2) '─'

def draw (panel : Panel) : List (List Char) :=
  let title := ' ' :: panel.title.text ++ [' ']
  let lines := (Text.lines panel.body.plain).map Text.expandTabs
  let width := (lines.map Text.columns).foldl max title.length
  ('╭' :: '─' :: titledBorder width title ++ ['─', '╮']) ::
    lines.map (boxLine width) ++ ['╰' :: List.replicate (width + 2) '─' ++ ['╯']]

end Report

end FormulaLexer
