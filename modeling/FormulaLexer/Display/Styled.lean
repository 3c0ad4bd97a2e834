/-!
Text with styles. It is put together from pieces, and some control characters are deleted
from each piece on the way.
-/

namespace FormulaLexer

inductive Style where
  | bold
  | dim
  | cyan
  | green
  | yellow
  | red
  | boldMagenta
  | boldRed
  deriving DecidableEq, Repr

def Style.name : Style → String
  | .bold => "bold"
  | .dim => "dim"
  | .cyan => "cyan"
  | .green => "green"
  | .yellow => "yellow"
  | .red => "red"
  | .boldMagenta => "bold magenta"
  | .boldRed => "bold red"

/-- Whether a display deletes a character: the bell, backspace, the vertical tab, the form
feed and the carriage return. -/
def isDeleted (c : Char) : Bool :=
  c == '\x07' || c == '\x08' || c == '\x0b' || c == '\x0c' || c == '\x0d'

/-- What a display shows of a text. -/
def shown (s : List Char) : List Char := s.filter (!isDeleted ·)

/-- Text in one style, or in none. -/
structure Piece where
  text : List Char
  style? : Option Style := none
  deriving DecidableEq, Repr

/-- The characters from `start` up to `stop`, the latter excluded, with their style. -/
structure StyledSpan where
  start : Nat
  stop : Nat
  style : Style
  deriving DecidableEq, Repr

/-- Characters with a style of their own in some spans, and one below them all. -/
structure Styled where
  plain : List Char
  base? : Option Style
  spans : List StyledSpan
  deriving DecidableEq, Repr

namespace Styled

/-- The span of a piece that starts at the given character. An empty piece has none. -/
def spanOf (start : Nat) (piece : Piece) : List StyledSpan :=
  match piece.style? with
  | none => []
  | some style =>
    if piece.text.isEmpty then [] else [⟨start, start + (shown piece.text).length, style⟩]

/-- The spans of pieces, the first of which starts at the given character. -/
def spansFrom (start : Nat) : List Piece → List StyledSpan
  | [] => []
  | piece :: rest =>
      spanOf start piece ++ spansFrom (start + (shown piece.text).length) rest

def ofPieces (base? : Option Style) (pieces : List Piece) : Styled :=
  ⟨pieces.flatMap fun piece => shown piece.text, base?, spansFrom 0 pieces⟩

theorem stop_le_of_mem_spansFrom {start : Nat} {pieces : List Piece} {span : StyledSpan}
    (h : span ∈ spansFrom start pieces) :
    span.stop ≤ start + (pieces.flatMap fun piece => shown piece.text).length := by
  induction pieces generalizing start with
  | nil => simp [spansFrom] at h
  | cons piece rest ih =>
      simp only [spansFrom, List.mem_append] at h
      simp only [List.flatMap_cons, List.length_append]
      rcases h with h | h
      · unfold spanOf at h
        split at h
        · contradiction
        · split at h
          · contradiction
          · simp only [List.mem_singleton] at h
            subst h
            simp only
            omega
      · have := ih h
        omega

end Styled

end FormulaLexer
