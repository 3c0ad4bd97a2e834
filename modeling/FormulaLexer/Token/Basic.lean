/-!
Tokens of an arithmetic formula: leaves, and groups that hold the tokens between two
parentheses. Every token carries the positions that it covers.
-/

namespace FormulaLexer

inductive LeafKind where
  /-- The address of a cell, such as `A1`. -/
  | reference
  | number
  | operator
  deriving DecidableEq, Repr

inductive Kind where
  | leaf (kind : LeafKind)
  | group
  deriving DecidableEq, Repr

def LeafKind.name : LeafKind → String
  | .reference => "reference"
  | .number => "number"
  | .operator => "operator"

def Kind.name : Kind → String
  | .leaf kind => kind.name
  | .group => "group"

def Kind.ofName? : String → Option Kind
  | "reference" => some (.leaf .reference)
  | "number" => some (.leaf .number)
  | "operator" => some (.leaf .operator)
  | "group" => some .group
  | _ => none

@[simp] theorem Kind.ofName?_name (kind : Kind) : Kind.ofName? kind.name = some kind := by
  rcases kind with (_ | _ | _) | _ <;> rfl

theorem Kind.name_of_ofName? {word : String} {kind : Kind} (h : Kind.ofName? word = some kind) :
    kind.name = word := by
  unfold Kind.ofName? at h
  split at h <;> cases h <;> rfl

/-- The positions from `start` up to `stop`, the latter excluded. -/
structure Span where
  start : Int
  stop : Int
  deriving DecidableEq, Repr

def Span.shift (n : Int) (span : Span) : Span := ⟨span.start + n, span.stop + n⟩

/-- A token. The span of a group covers both parentheses. -/
inductive Token where
  | leaf (kind : LeafKind) (text : String) (span : Span)
  | group (children : List Token) (span : Span)
  deriving Repr

namespace Token

def span : Token → Span
  | leaf _ _ span => span
  | group _ span => span

def kind : Token → Kind
  | leaf kind _ _ => .leaf kind
  | group _ _ => .group

def text? : Token → Option String
  | leaf _ text _ => some text
  | group _ _ => none

/-- The name of the cell that a reference stands for. -/
def name? : Token → Option String
  | leaf .reference text _ => some text
  | _ => none

def symbol? : Token → Option String
  | leaf .operator text _ => some text
  | _ => none

/-- The digits of a number, without any minus signs in front. -/
def digits? : Token → Option String
  | leaf .number text _ => some (String.ofList (text.toList.dropWhile (· == '-')))
  | _ => none

/-- Whether a number has a minus sign in front. -/
def negative? : Token → Option Bool
  | leaf .number text _ => some (text.toList.head? == some '-')
  | _ => none

/-- Tokens with all their spans moved to the right. -/
def shift (n : Int) : List Token → List Token
  | [] => []
  | leaf kind text span :: rest => leaf kind text (span.shift n) :: shift n rest
  | group children span :: rest => group (shift n children) (span.shift n) :: shift n rest

end Token

/-- What a token says of itself, and the number of groups around it. -/
structure Entry where
  depth : Nat
  kind : Kind
  text? : Option String
  span : Span
  deriving DecidableEq, Repr

/-- All tokens of a tree, each group before its children. -/
def Token.entries (depth : Nat) : List Token → List Entry
  | [] => []
  | leaf kind text span :: rest =>
      ⟨depth, .leaf kind, some text, span⟩ :: entries depth rest
  | group children span :: rest =>
      ⟨depth, .group, none, span⟩ :: entries (depth + 1) children ++ entries depth rest

end FormulaLexer
