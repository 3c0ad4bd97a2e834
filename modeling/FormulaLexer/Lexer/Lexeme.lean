import FormulaLexer.Lexer.Shape

/-!
Lexemes, the pieces of text that become tokens. The lexeme at the start of a text has the
first shape in the given order that fits there, and is as long as that shape allows.
-/

namespace FormulaLexer

structure Lexeme where
  shape : Shape
  text : List Char
  deriving DecidableEq, Repr

/-- A bound of a slice that does not fit in a signed word of 64 bits. -/
structure BoundOverflow where
  bound : Int
  deriving DecidableEq, Repr

namespace Lexeme

/-- The lexeme at the start of a text, where the shapes are tried in the given order. -/
def firstIn? (order : List Shape) (signed : Bool) (s : List Char) : Option Lexeme :=
  order.findSome? fun shape => (shape.longest? signed s).map (⟨shape, ·⟩)

def first? (signed : Bool) (s : List Char) : Option Lexeme := firstIn? Shape.inOrder signed s

/-- The text between the parentheses of a parenthetical lexeme. -/
def interior (lexeme : Lexeme) : List Char := lexeme.text.tail.dropLast

/-- Moves a bound of a slice into the text. -/
def clampBound (length : Nat) (bound : Int) : Except BoundOverflow Nat :=
  if -Int.pow 2 63 ≤ bound ∧ bound < Int.pow 2 63 then .ok (min bound.toNat length)
  else .error ⟨bound⟩

/-- The lexeme at the start of a slice of a text; none if the bounds cross. A slice without
an upper bound goes to the end. -/
def inSlice? (signed : Bool) (s : List Char) (start : Int) (stop? : Option Int) :
    Except BoundOverflow (Option Lexeme) := do
  let start ← clampBound s.length start
  let stop ← match stop? with
    | none => .ok s.length
    | some stop => clampBound s.length stop
  return if start ≤ stop then first? signed ((s.take stop).drop start) else none

theorem prefix_of_firstIn? {order : List Shape} {signed : Bool} {s : List Char} {lexeme : Lexeme}
    (h : firstIn? order signed s = some lexeme) : lexeme.text <+: s ∧ lexeme.text ≠ [] := by
  obtain ⟨shape, -, hshape⟩ := List.exists_of_findSome?_eq_some h
  obtain ⟨text, htext, rfl⟩ := Option.map_eq_some_iff.1 hshape
  exact Shape.prefix_of_longest? htext

theorem prefix_of_first? {signed : Bool} {s : List Char} {lexeme : Lexeme}
    (h : first? signed s = some lexeme) : lexeme.text <+: s ∧ lexeme.text ≠ [] :=
  prefix_of_firstIn? h

theorem length_rest_lt {signed : Bool} {s : List Char} {lexeme : Lexeme}
    (h : first? signed s = some lexeme) :
    (s.drop lexeme.text.length).length < s.length := by
  have hprefix := prefix_of_first? h
  have hpos := List.length_pos_iff.2 hprefix.2
  have hle := hprefix.1.length_le
  simp only [List.length_drop]
  omega

theorem length_interior_lt {signed : Bool} {s : List Char} {lexeme : Lexeme}
    (h : first? signed s = some lexeme) : lexeme.interior.length < s.length := by
  have hprefix := prefix_of_first? h
  have hpos := List.length_pos_iff.2 hprefix.2
  have hle := hprefix.1.length_le
  simp only [interior, List.length_dropLast, List.length_tail]
  omega

end Lexeme

end FormulaLexer
