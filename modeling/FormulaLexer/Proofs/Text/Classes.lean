import FormulaLexer.Lexer.Shape
import FormulaLexer.Text.Blank
import Mathlib.Data.List.TakeWhile

/-!
The classes of characters that a formula is made of, by code point, and runs of a class.
-/

namespace FormulaLexer

open Text

namespace Shape

@[grind =] theorem isLetter_iff {c : Char} : isLetter c ↔ 65 ≤ c.toNat ∧ c.toNat ≤ 90 := by
  simp [isLetter, Char.le_def, UInt32.le_iff_toNat_le]

@[grind =] theorem isLeadingDigit_iff {c : Char} :
    isLeadingDigit c ↔ 49 ≤ c.toNat ∧ c.toNat ≤ 57 := by
  simp [isLeadingDigit, Char.le_def, UInt32.le_iff_toNat_le]

@[grind =] theorem isOperator_iff {c : Char} :
    isOperator c ↔ c.toNat = 43 ∨ c.toNat = 45 ∨ c.toNat = 42 ∨ c.toNat = 47 := by
  simp [isOperator, ← Char.toNat_inj, or_assoc]

end Shape

namespace Text

@[grind =] theorem isDigit_iff {c : Char} : isDigit c ↔ 48 ≤ c.toNat ∧ c.toNat ≤ 57 := by
  simp [isDigit, Char.le_def, UInt32.le_iff_toNat_le]

/-! ### Runs -/

theorem head_dropWhile {p : Char → Bool} {s : List Char} :
    ∀ c ∈ (s.dropWhile p).head?, p c = false := by
  intro c hc
  rw [Option.mem_def] at hc
  have := List.head?_dropWhile_not p s
  rwa [hc] at this

theorem takeWhile_append_eq {p : Char → Bool} {text rest : List Char}
    (htext : ∀ c ∈ text, p c) (hrest : ∀ c ∈ rest.head?, p c = false) :
    (text ++ rest).takeWhile p = text := by
  rw [List.takeWhile_append_of_pos htext]
  cases rest with
  | nil => simp
  | cons c rest => simp [hrest c rfl]

theorem dropWhile_append_eq {p : Char → Bool} {text rest : List Char}
    (htext : ∀ c ∈ text, p c) (hrest : ∀ c ∈ rest.head?, p c = false) :
    (text ++ rest).dropWhile p = rest := by
  rw [List.dropWhile_append_of_pos htext]
  cases rest with
  | nil => rfl
  | cons c rest => exact List.dropWhile_cons_of_neg (by simp [hrest c rfl])

/-! ### Blanks -/

/-- A visible ASCII character is not blank. -/
theorem isBlank_eq_false {c : Char} (hlow : 33 ≤ c.toNat) (hhigh : c.toNat ≤ 126) :
    isBlank c = false := by
  rw [Bool.eq_false_iff, isBlank, ne_eq, Ranges.has_iff]
  simp only [blankRanges, List.mem_cons, List.not_mem_nil]
  grind

/-- Blanks are told from what stands behind them. -/
theorem blanks_append_inj {blanks blanks' s t : List Char} (hblanks : ∀ c ∈ blanks, isBlank c)
    (hblanks' : ∀ c ∈ blanks', isBlank c) (hs : ∀ c ∈ s.head?, isBlank c = false)
    (ht : ∀ c ∈ t.head?, isBlank c = false) (h : blanks ++ s = blanks' ++ t) :
    blanks = blanks' ∧ s = t := by
  have hst : s = t := by
    rw [← dropWhile_append_eq hblanks hs, h, dropWhile_append_eq hblanks' ht]
  rw [hst] at h
  exact ⟨List.append_cancel_right h, hst⟩

end Text

end FormulaLexer
