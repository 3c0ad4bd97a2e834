import FormulaLexer.Display.Styled
import FormulaLexer.Text.Columns
import FormulaLexer.Text.Integer
import FormulaLexer.Text.Lines
import FormulaLexer.Token.Basic

/-!
The outline of tokens: a root with a title, and a node for each token. Drawn as lines, the
outline marks each node by a branch, and each group around it that goes on by a stem.
-/

namespace FormulaLexer

/-- A node of an outline; the root has depth zero. -/
structure OutlineNode where
  depth : Nat
  label : Styled
  deriving DecidableEq, Repr

def LeafKind.style : LeafKind → Style
  | .reference => .cyan
  | .number => .green
  | .operator => .yellow

namespace Outline

/-- The two ends of a span, in brackets. -/
def spanText (span : Span) : List Char :=
  '[' :: Text.decimal span.start ++ ':' :: Text.decimal span.stop ++ [']']

def leafLabel (kind : LeafKind) (text : String) (span : Span) : Styled :=
  Styled.ofPieces none
    [⟨kind.name.toList ++ [' '], some kind.style⟩, ⟨text.toList, some .bold⟩,
      ⟨' ' :: spanText span, some .dim⟩]

def groupLabel (span : Span) : Styled :=
  Styled.ofPieces (some .boldMagenta) [⟨Kind.group.name.toList ++ ' ' :: spanText span, none⟩]

def rootLabel (title : String) : Styled := Styled.ofPieces (some .bold) [⟨title.toList, none⟩]

/-- The nodes of tokens at the given depth, each group before its children. -/
def nodesAt (depth : Nat) : List Token → List OutlineNode
  | [] => []
  | .leaf kind text span :: rest => ⟨depth, leafLabel kind text span⟩ :: nodesAt depth rest
  | .group children span :: rest =>
      ⟨depth, groupLabel span⟩ :: nodesAt (depth + 1) children ++ nodesAt depth rest

/-- All nodes of the outline of tokens under a title. -/
def nodes (title : String) (tokens : List Token) : List OutlineNode :=
  ⟨0, rootLabel title⟩ :: nodesAt 1 tokens

/-- The branch to a node, given the siblings after it. -/
def branch : List Token → List Char
  | [] => "└── ".toList
  | _ :: _ => "├── ".toList

/-- What stands below the branch to a node, in front of its children. -/
def stem : List Token → List Char
  | [] => "    ".toList
  | _ :: _ => "│   ".toList

/-- The lines of tokens, behind the stems of the groups around them. -/
def linesBehind (stems : List Char) : List Token → List (List Char)
  | [] => []
  | .leaf kind text span :: rest =>
      (stems ++ branch rest ++ (leafLabel kind text span).plain) :: linesBehind stems rest
  | .group children span :: rest =>
      (stems ++ branch rest ++ (groupLabel span).plain) ::
        linesBehind (stems ++ stem rest) children ++ linesBehind stems rest

/-- The lines of the outline of tokens under a title, which may itself have many lines. -/
def draw (title : String) (tokens : List Token) : List (List Char) :=
  (Text.lines (rootLabel title).plain).map Text.expandTabs ++ linesBehind [] tokens

end Outline

end FormulaLexer
