import FormulaLexer.Lexer.Lexeme
import FormulaLexer.Proofs.Text.Classes
import Mathlib.Data.List.TakeWhile

/-!
The texts of each shape, and what it means that the longest such text ends somewhere.
The shapes are told apart by the first character alone, but for a minus sign: where signs
are read it starts a number if a digit follows it.
-/

namespace FormulaLexer

open Text

namespace Shape

theorem mem_inOrder (shape : Shape) : shape ∈ inOrder := by
  cases shape <;> decide

/-- The texts of a shape. A minus sign belongs to a number only where signs are read. -/
def Spells (signed : Bool) : Shape → List Char → Prop
  | .reference, text => ∃ c n d digits, isLetter c ∧ isLeadingDigit d ∧
      (∀ x ∈ digits, isDigit x) ∧ text = List.replicate (n + 1) c ++ d :: digits
  | .number, text => ∃ digits, digits ≠ [] ∧ (∀ x ∈ digits, isDigit x) ∧
      (text = digits ∨ signed ∧ text = '-' :: digits)
  | .operator, text => ∃ c, isOperator c ∧ text = [c]
  | .parenthetical, text => ∃ inner, text = '(' :: inner ++ [')']

/-- A text of the shape cannot be made longer by what stands behind it. -/
def EndsBefore : Shape → List Char → Prop
  | .reference, rest | .number, rest => ∀ c ∈ rest.head?, isDigit c = false
  | .operator, _ => True
  | .parenthetical, rest => ')' ∉ rest

/-- The characters that a text of the shape starts with. -/
def StartsWith (signed : Bool) : Shape → Char → Prop
  | .reference, c => isLetter c
  | .number, c => isDigit c ∨ signed ∧ c = '-'
  | .operator, c => isOperator c
  | .parenthetical, c => c = '('

theorem Spells.exists_cons {signed : Bool} {shape : Shape} {text : List Char}
    (h : Spells signed shape text) :
    ∃ c rest, text = c :: rest ∧ StartsWith signed shape c := by
  cases shape with
  | reference =>
      obtain ⟨c, n, d, digits, hc, -, -, rfl⟩ := h
      exact ⟨c, List.replicate n c ++ d :: digits, by simp [List.replicate_succ], hc⟩
  | number =>
      obtain ⟨digits, hne, hall, rfl | ⟨hsigned, rfl⟩⟩ := h
      · obtain ⟨c, rest, rfl⟩ := List.exists_cons_of_ne_nil hne
        exact ⟨c, rest, rfl, .inl (hall c (by simp))⟩
      · exact ⟨'-', digits, rfl, .inr ⟨hsigned, rfl⟩⟩
  | operator =>
      obtain ⟨c, hc, rfl⟩ := h
      exact ⟨c, [], rfl, hc⟩
  | parenthetical =>
      obtain ⟨inner, rfl⟩ := h
      exact ⟨'(', inner ++ [')'], rfl, rfl⟩

theorem StartsWith.not_blank {signed : Bool} {shape : Shape} {c : Char}
    (h : StartsWith signed shape c) : isBlank c = false := by
  cases shape with
  | reference =>
      have := isLetter_iff.1 h
      exact isBlank_eq_false (by omega) (by omega)
  | number =>
      rcases h with hdigit | ⟨-, rfl⟩
      · have := isDigit_iff.1 hdigit
        exact isBlank_eq_false (by omega) (by omega)
      · decide
  | operator =>
      have := isOperator_iff.1 h
      exact isBlank_eq_false (by omega) (by omega)
  | parenthetical =>
      cases h
      decide

/-! ### Longest texts -/

/-- A text is cut at the last place where a character stands. -/
theorem exists_last {c : Char} {s : List Char} (h : c ∈ s) :
    ∃ inner after, s = inner ++ c :: after ∧ c ∉ after := by
  obtain ⟨xs, ys, hs, hxs⟩ := List.eq_append_cons_of_mem (List.mem_reverse.2 h)
  refine ⟨ys.reverse, xs.reverse, ?_, by simpa using hxs⟩
  simpa using congrArg List.reverse hs

theorem throughLast_append {c : Char} {inner after : List Char} (h : c ∉ after) :
    throughLast c (inner ++ c :: after) = inner ++ [c] := by
  have hafter : ∀ x ∈ after.reverse, (x != c) = true := by
    intro x hx
    rw [bne_iff_ne]
    rintro rfl
    exact h (List.mem_reverse.1 hx)
  simp [throughLast, List.dropWhile_append_of_pos hafter]

theorem throughLast_eq_nil {c : Char} {s : List Char} (h : c ∉ s) : throughLast c s = [] := by
  have hall : ∀ x ∈ s.reverse, (x != c) = true := by
    intro x hx
    rw [bne_iff_ne]
    rintro rfl
    exact h (List.mem_reverse.1 hx)
  rw [throughLast, List.dropWhile_eq_nil_iff.2 hall, List.reverse_nil]

theorem longestDigits?_append {digits rest : List Char} (hne : digits ≠ [])
    (hall : ∀ x ∈ digits, isDigit x) (hrest : ∀ c ∈ rest.head?, isDigit c = false) :
    longestDigits? (digits ++ rest) = some digits := by
  rw [longestDigits?, takeWhile_append_eq hall hrest]
  cases digits with
  | nil => contradiction
  | cons => rfl

theorem exists_of_longestDigits? {s digits : List Char} (h : longestDigits? s = some digits) :
    ∃ rest, s = digits ++ rest ∧ digits ≠ [] ∧ (∀ x ∈ digits, isDigit x) ∧
      ∀ c ∈ rest.head?, isDigit c = false := by
  have hne := (prefix_of_longestDigits? h).2
  have hdigits : s.takeWhile isDigit = digits := by
    unfold longestDigits? at h
    split at h <;> simp_all
  refine ⟨s.dropWhile isDigit, ?_, hne, ?_, head_dropWhile⟩
  · rw [← hdigits, List.takeWhile_append_dropWhile]
  · intro x hx
    rw [← hdigits] at hx
    exact List.mem_takeWhile_imp hx

/-- A text of the shape that cannot be made longer is the longest one. -/
theorem longest?_append {signed : Bool} {shape : Shape} {text rest : List Char}
    (hspells : Spells signed shape text) (hends : EndsBefore shape rest) :
    longest? signed shape (text ++ rest) = some text := by
  cases shape with
  | reference =>
      obtain ⟨c, n, d, digits, hc, hd, hall, rfl⟩ := hspells
      have hdc : (d == c) = false := by
        rw [beq_eq_false_iff_ne]
        rintro rfl
        grind
      have hreplicate : ∀ x ∈ List.replicate n c, (x == c) = true := by simp
      have htake : (digits ++ rest).takeWhile isDigit = digits := takeWhile_append_eq hall hends
      simp [longest?, longestReference?, List.replicate_succ, hc, hd, hdc, htake,
        List.dropWhile_append_of_pos hreplicate, List.takeWhile_append_of_pos hreplicate]
  | number =>
      obtain ⟨digits, hne, hall, rfl | ⟨hsigned, rfl⟩⟩ := hspells
      · obtain ⟨c, digits, rfl⟩ := List.exists_cons_of_ne_nil hne
        have hc : (c == '-') = false := by
          rw [beq_eq_false_iff_ne]
          rintro rfl
          exact absurd (hall '-' (by simp)) (by decide)
        have := longestDigits?_append hne hall hends
        simpa [longest?, longestNumber?, hc] using this
      · simp [longest?, longestNumber?, hsigned, longestDigits?_append hne hall hends]
  | operator =>
      obtain ⟨c, hc, rfl⟩ := hspells
      simp [longest?, longestOperator?, hc]
  | parenthetical =>
      obtain ⟨inner, rfl⟩ := hspells
      have hclosed : throughLast ')' (inner ++ ')' :: rest) = inner ++ [')'] :=
        throughLast_append hends
      simp only [longest?, longestParenthetical?, List.cons_append, List.append_assoc,
        List.nil_append, hclosed]
      cases inner <;> simp

/-- What is found is a text of the shape, and it cannot be made longer. -/
theorem exists_of_longest? {signed : Bool} {shape : Shape} {s text : List Char}
    (h : longest? signed shape s = some text) :
    ∃ rest, s = text ++ rest ∧ Spells signed shape text ∧ EndsBefore shape rest := by
  cases shape with
  | reference =>
      cases s with
      | nil => contradiction
      | cons c s =>
          simp only [longest?, longestReference?] at h
          split at h
          · contradiction
          · next d t hdrop =>
              split at h
              · next hcd =>
                  cases h
                  rw [Bool.and_eq_true] at hcd
                  have htake : s.takeWhile (· == c) =
                      List.replicate (s.takeWhile (· == c)).length c := by
                    rw [List.eq_replicate_iff]
                    exact ⟨rfl, fun x hx => by simpa using List.mem_takeWhile_imp hx⟩
                  refine ⟨t.dropWhile isDigit, ?_, ⟨c, (s.takeWhile (· == c)).length, d,
                    t.takeWhile isDigit, hcd.1, hcd.2, fun x hx => List.mem_takeWhile_imp hx,
                    ?_⟩, head_dropWhile⟩
                  · simp only [List.cons_append, List.append_assoc,
                      List.takeWhile_append_dropWhile]
                    rw [← hdrop, List.takeWhile_append_dropWhile]
                  · rw [List.replicate_succ, List.cons_append, ← htake, List.cons_append]
              · contradiction
  | number =>
      cases s with
      | nil => contradiction
      | cons c s =>
          simp only [longest?, longestNumber?] at h
          split at h
          · next hsign =>
              rw [Bool.and_eq_true, beq_iff_eq] at hsign
              obtain ⟨hsigned, rfl⟩ := hsign
              obtain ⟨digits, hdigits, rfl⟩ := Option.map_eq_some_iff.1 h
              obtain ⟨rest, rfl, hne, hall, hrest⟩ := exists_of_longestDigits? hdigits
              exact ⟨rest, rfl, ⟨digits, hne, hall, .inr ⟨hsigned, rfl⟩⟩, hrest⟩
          · obtain ⟨rest, hs, hne, hall, hrest⟩ := exists_of_longestDigits? h
            exact ⟨rest, hs, ⟨text, hne, hall, .inl rfl⟩, hrest⟩
  | operator =>
      cases s with
      | nil => contradiction
      | cons c s =>
          simp only [longest?, longestOperator?] at h
          split at h
          · next hc =>
              cases h
              exact ⟨s, rfl, ⟨c, hc, rfl⟩, trivial⟩
          · contradiction
  | parenthetical =>
      cases s with
      | nil => contradiction
      | cons c s =>
          simp only [longest?, longestParenthetical?] at h
          split at h
          · next hc =>
              -- The group ends at the last closing parenthesis, if there is one.
              rw [beq_iff_eq] at hc
              subst hc
              by_cases hclose : ')' ∈ s
              · obtain ⟨inner, after, rfl, hafter⟩ := exists_last hclose
                rw [throughLast_append hafter] at h
                have htext : '(' :: inner ++ [')'] = text := by
                  cases inner <;> simpa using h
                exact ⟨after, by simp [← htext], ⟨inner, htext.symm⟩, hafter⟩
              · simp [throughLast_eq_nil hclose] at h
          · contradiction

end Shape

end FormulaLexer
