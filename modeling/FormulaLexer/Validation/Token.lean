import FormulaLexer.Validation.Issue

/-!
Tokens read from JSON values. The kind of a token is looked at first; it decides which
fields the token has. Fields that a token does not have are ignored.
-/

namespace FormulaLexer.Checked

def kind? : Json → Option Kind
  | .str word => Kind.ofName? word
  | _ => none

def leaf (kind : LeafKind) (fields : List (String × Json)) : Checked Token :=
  (both (span fields) (required "text" text fields)).map
    fun (span, text) => .leaf kind text span

mutual

def token (value : Json) : Checked Token :=
  match value with
  | .obj fields =>
    match Json.field? fields "kind" with
    | none => fault .kindMissing
    | some word =>
      match kind? word with
      | none => fault .kindUnknown
      | some (.leaf kind) => under (.kind (.leaf kind)) (leaf kind fields)
      | some .group =>
        let children := match _h : Json.field? fields "children" with
          | none => .ok []
          | some (.arr items) => under (.field "children") (tokensFrom 0 items)
          | some _ => under (.field "children") (fault .notList)
        under (.kind .group) ((both (span fields) children).map
          fun (span, children) => .group children span)
  | _ => fault .tokenNotObject
termination_by sizeOf value
decreasing_by
  have := Json.sizeOf_lt_of_field? _h
  simp only [Json.arr.sizeOf_spec, Json.obj.sizeOf_spec] at this ⊢
  omega

/-- The items of a list as tokens; the first item has the given index. -/
def tokensFrom (index : Nat) (items : List Json) : Checked (List Token) :=
  match items with
  | [] => .ok []
  | item :: rest =>
    (both (under (.item index) (token item)) (tokensFrom (index + 1) rest)).map
      fun (token, tokens) => token :: tokens
termination_by sizeOf items

end

/-- Tokens that are checked one by one, up to the first with an issue. -/
def tokensInTurn (values : List Json) : Checked (List Token) := values.mapM token

end FormulaLexer.Checked
