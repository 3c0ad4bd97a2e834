import FormulaLexer.Text.Hex

/-!
Bytes shown as text: the characters that they encode, and an escape for each byte that
belongs to no character.
-/

namespace FormulaLexer.Text

/-- The text of the bytes from position `i` on. -/
def showBytesFrom (bytes : ByteArray) (i : Nat) : List Char :=
  if h : i < bytes.size then
    match bytes.utf8DecodeChar? i with
    | some c => c :: showBytesFrom bytes (i + c.utf8Size)
    | none => '\\' :: 'x' :: hexDigits 2 bytes[i].toNat ++ showBytesFrom bytes (i + 1)
  else []
termination_by bytes.size - i
decreasing_by
  · have := c.utf8Size_pos; omega
  · omega

def showBytes (bytes : ByteArray) : List Char := showBytesFrom bytes 0

end FormulaLexer.Text
