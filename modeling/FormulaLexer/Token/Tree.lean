import FormulaLexer.Json.Basic
import FormulaLexer.Lexer.Error
import FormulaLexer.Token.Basic

/-!
Tokens and errors as JSON values. Tokens leave out their spans.
-/

namespace FormulaLexer

def LeafKind.tree (kind : LeafKind) (text : String) : Json :=
  .obj [("kind", .str kind.name), ("text", .str text)]

namespace Token

def trees : List Token → List Json
  | [] => []
  | leaf kind text _ :: rest => kind.tree text :: trees rest
  | group children _ :: rest =>
      .obj [("kind", .str Kind.group.name), ("children", .arr (trees children))] :: trees rest

end Token

def LexError.tree (error : LexError) : Json :=
  .obj [("position", .int error.position), ("remaining", .str error.remaining),
    ("reason", .str error.reason.name)]

end FormulaLexer
