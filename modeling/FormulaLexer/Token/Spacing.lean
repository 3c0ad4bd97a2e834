import FormulaLexer.Token.Basic

/-!
The text of tokens. Between two tokens of one list stands a single space if their spans
leave a gap, and nothing otherwise.
-/

namespace FormulaLexer.Token

/-- The space before a token, given where the token before it ends. -/
def gapBefore (token : Token) : Option Int → List Char
  | none => []
  | some stop => if stop < token.span.start then [' '] else []

/-- The text of the tokens that follow a token with the given end. -/
def textAfter (stop? : Option Int) : List Token → List Char
  | [] => []
  | leaf kind text span :: rest =>
      gapBefore (leaf kind text span) stop? ++ text.toList ++ textAfter (some span.stop) rest
  | group children span :: rest =>
      gapBefore (group children span) stop? ++ '(' :: textAfter none children ++ ')' ::
        textAfter (some span.stop) rest

def toText (tokens : List Token) : String := String.ofList (textAfter none tokens)

end FormulaLexer.Token
