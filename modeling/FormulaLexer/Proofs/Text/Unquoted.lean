import FormulaLexer.Proofs.Text.Quoted
import Mathlib.Algebra.Group.Nat.Defs
import Mathlib.Logic.Function.Basic
import Mathlib.Tactic.SplitIfs

/-!
Quoted texts are read back. A character between quotes ends where it is known in full, so each
text is quoted in its own way.
-/

namespace FormulaLexer.Text

/-! ### Hexadecimal digits -/

/-- The number that hexadecimal digits are the form of. -/
def ofHexDigits? (digits : List Char) : Option Nat :=
  digits.foldlM (fun n c => (hexValue? c).map (16 * n + ·)) 0

theorem ofHexDigits?_hexDigits {width n : Nat} (h : n < 16 ^ width) :
    ofHexDigits? (hexDigits width n) = some n := by
  induction width generalizing n with
  | zero =>
      obtain rfl : n = 0 := Nat.lt_one_iff.1 h
      rfl
  | succ width ih =>
      have hdigit := hexValue?_digitChar (Nat.mod_lt n (by decide : 0 < 16))
      have hfront : n / 16 < 16 ^ width :=
        Nat.div_lt_of_lt_mul (by rwa [Nat.mul_comm, ← Nat.pow_succ])
      have hvalue : 16 * (n / 16) + n % 16 = n := Nat.div_add_mod n 16
      specialize ih hfront
      rw [ofHexDigits?] at ih ⊢
      rw [hexDigits, List.foldlM_append, ih]
      simp [hdigit, hvalue]

/-! ### One character -/

/-- Reads a code point of the given number of digits. -/
def readCode? (width : Nat) (s : List Char) : Option (Char × List Char) :=
  (ofHexDigits? (s.take width)).map fun n => (Char.ofNat n, s.drop width)

/-- Reads the rest of an escape, behind its backslash and the character after that. -/
def readEscape? (mark : Char) (rest : List Char) : Option (Char × List Char) :=
  if mark = 't' then some ('\t', rest)
  else if mark = 'n' then some ('\n', rest)
  else if mark = 'r' then some ('\r', rest)
  else if mark = 'x' then readCode? 2 rest
  else if mark = 'u' then readCode? 4 rest
  else if mark = 'U' then readCode? 8 rest
  else some (mark, rest)

/-- Reads a character that stands between quotes. -/
def readQuotedChar? : List Char → Option (Char × List Char)
  | [] => none
  | c :: s =>
    if c = '\\' then
      match s with
      | [] => none
      | mark :: rest => readEscape? mark rest
    else some (c, s)

section

variable {quote c : Char} {rest : List Char}

theorem readCode?_hexDigits (width : Nat) (h : c.toNat < 16 ^ width) :
    readCode? width (hexDigits width c.toNat ++ rest) = some (c, rest) := by
  have htake : (hexDigits width c.toNat ++ rest).take width = hexDigits width c.toNat := by
    rw [List.take_append_of_le_length (by simp), List.take_of_length_le (by simp)]
  have hdrop : (hexDigits width c.toNat ++ rest).drop width = rest := by
    rw [List.drop_append_of_le_length (by simp), List.drop_of_length_le (by simp),
      List.nil_append]
  rw [readCode?, htake, hdrop, ofHexDigits?_hexDigits h, Option.map_some, Char.ofNat_toNat]

theorem readQuotedChar?_codeEscape :
    readQuotedChar? (codeEscape c.toNat ++ rest) = some (c, rest) := by
  have hvalid : c.toNat < 0xD800 ∨ 0xDFFF < c.toNat ∧ c.toNat < 0x110000 := c.valid
  have hlong : c.toNat < 16 ^ 8 := by omega
  have hescape (mark : Char) (s : List Char) :
      readQuotedChar? ('\\' :: mark :: s) = readEscape? mark s := by
    rw [readQuotedChar?, if_pos rfl]
  rw [codeEscape]
  split_ifs with hbyte hunit
  · simp [hescape, readEscape?, readCode?_hexDigits 2 hbyte]
  · simp [hescape, readEscape?, readCode?_hexDigits 4 hunit]
  · simp [hescape, readEscape?, readCode?_hexDigits 8 hlong]

/-- A character between quotes is read back, whatever stands behind it. -/
theorem readQuotedChar?_quotedChar (hquote : quote = '\'' ∨ quote = '"') :
    readQuotedChar? (quotedChar quote c ++ rest) = some (c, rest) := by
  rw [quotedChar]
  split_ifs with hmark htab hfeed hreturn hplain
  · have hescaped : c = '\'' ∨ c = '"' ∨ c = '\\' := by
      simp only [Bool.or_eq_true, decide_eq_true_eq] at hmark
      rcases hmark with rfl | rfl
      · exact hquote.imp_right .inl
      · exact .inr (.inr rfl)
    rcases hescaped with rfl | rfl | rfl <;> rfl
  · exact htab ▸ rfl
  · exact hfeed ▸ rfl
  · exact hreturn ▸ rfl
  · simp only [Bool.or_eq_true, decide_eq_true_eq, not_or] at hmark
    exact if_neg hmark.2
  · exact readQuotedChar?_codeEscape

/-! ### Quoted texts -/

theorem quoteFor_cases (s : List Char) : quoteFor s = '\'' ∨ quoteFor s = '"' := by
  rw [quoteFor]
  split
  · exact .inr rfl
  · exact .inl rfl

theorem flatMap_quotedChar_inj (hquote : quote = '\'' ∨ quote = '"') {s t : List Char}
    (h : s.flatMap (quotedChar quote) = t.flatMap (quotedChar quote)) : s = t := by
  -- By induction on one of the texts: the first character is read back on both sides.
  have hcons (c : Char) (rest : List Char) : readQuotedChar?
      ((c :: rest).flatMap (quotedChar quote)) = some (c, rest.flatMap (quotedChar quote)) :=
    readQuotedChar?_quotedChar hquote
  induction s generalizing t with
  | nil =>
      cases t with
      | nil => rfl
      | cons d t => cases (congrArg readQuotedChar? h).trans (hcons d t)
  | cons c s ih =>
      have hread := hcons c s
      rw [h] at hread
      cases t with
      | nil => cases hread
      | cons d t =>
          rw [hcons, Option.some_inj, Prod.mk.injEq] at hread
          rw [hread.1, ih hread.2.symm]

/-- Each text is quoted in its own way. -/
theorem quoted_injective : Function.Injective quoted := by
  intro s t h
  simp only [quoted, List.cons_append, List.cons.injEq] at h
  obtain ⟨hquote, hbody⟩ := h
  rw [hquote] at hbody
  exact flatMap_quotedChar_inj (quoteFor_cases t) (List.append_cancel_right hbody)

end

end FormulaLexer.Text
