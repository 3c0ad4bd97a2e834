import Mathlib
import FormulaLexer.Proofs.Display.Report
import FormulaLexer.Proofs.Lexer.Failure

/-!
The caret of a report against the line above it. The indent is as long as the text in front of
the error, and what a display deletes of that text is missing on the line above.
-/

namespace FormulaLexer

open Text

/-! ### What is deleted of a text -/

theorem length_shown_add_countP (s : List Char) :
    (shown s).length + s.countP isDeleted = s.length := by
  have hsplit := List.length_eq_countP_add_countP isDeleted (l := s)
  simp only [Bool.not_eq_true, Bool.decide_eq_false] at hsplit
  rw [shown, ← List.countP_eq_length_filter, hsplit, Nat.add_comm]

/-- Of the characters that a display deletes, only those that are blank stand in a text that the
lexer accepts. -/
theorem Accepted.isDeleted_iff {room : Nat} {s : List Char} {c : Char} (h : Accepted room s)
    (hc : c ∈ s) : isDeleted c ↔ c = '\x0b' ∨ c = '\x0c' ∨ c = '\r' := by
  have hne : c ≠ '\x07' ∧ c ≠ '\x08' := by
    constructor <;> rintro rfl <;> exact absurd (h.characters _ hc) (by decide)
  simp [isDeleted, hne, or_assoc]

namespace Report

/-! ### The place of the caret -/

/-- The caret stands under what is shown at an index. On the line of the index, which starts at
`start`, as many characters are shown in front of the index as stand in front of the caret on the
line below, with tabs in the same places. -/
def CaretUnder (s : List Char) (index start : Nat) (ls : List (List Char)) : Prop :=
  ∃ indent : List Char,
    ls[(s.take index).count '\n']? = some (shown (slice s start index) ++
      shown ((s.drop index).takeWhile (· != '\n'))) ∧
    ls[(s.take index).count '\n' + 1]? = some (indent ++ ['^']) ∧
    indent.length = (shown (slice s start index)).length ∧
    ∀ j : Nat, indent[j]? = some '\t' ↔ (shown (slice s start index))[j]? = some '\t'

theorem getElem?_indentOf_eq_tab {s : List Char} {j : Nat} :
    (indentOf s)[j]? = some '\t' ↔ s[j]? = some '\t' := by
  rw [indentOf, List.getElem?_map, Option.map_eq_some_iff]
  constructor
  · rintro ⟨c, hc, htab⟩
    split at htab
    · next heq => rw [hc, heq]
    · contradiction
  · intro htab
    exact ⟨'\t', htab, if_pos rfl⟩

/-- The line of the caret has one blank for each character in front of the index. -/
theorem exists_caretLine {expression : String} {error : LexError} {index : Nat}
    (hindex : indexOf expression.toList.length error.position = index) :
    ∃ start, LineStart expression.toList index start ∧
      (lines (body expression error).plain)[(expression.toList.take index).count '\n']? =
        some (shown (slice expression.toList start index) ++
          shown ((expression.toList.drop index).takeWhile (· != '\n'))) ∧
      (lines (body expression error).plain)[(expression.toList.take index).count '\n' + 1]? =
        some (indentOf (slice expression.toList start index) ++ ['^']) := by
  obtain ⟨start, upper, below, hstart, hrow, -, hlines⟩ := exists_lines_body hindex
  refine ⟨start, hstart, ?_, ?_⟩
  · rw [hlines, ← hrow, List.getElem?_append_right (Nat.le_refl _), Nat.sub_self, shown_append]
    rfl
  · rw [hlines, ← hrow, List.getElem?_append_right (Nat.le_add_right _ 1), Nat.add_sub_cancel_left]
    rfl

/-- The caret stands under what is shown at the index if nothing is deleted of the text in front
of it, and only then. -/
theorem caretUnder_iff {s : List Char} {index start : Nat} {ls : List (List Char)}
    (hline : ls[(s.take index).count '\n']? = some (shown (slice s start index) ++
      shown ((s.drop index).takeWhile (· != '\n'))))
    (hcaret : ls[(s.take index).count '\n' + 1]? =
      some (indentOf (slice s start index) ++ ['^'])) :
    CaretUnder s index start ls ↔ ∀ c ∈ slice s start index, isDeleted c = false := by
  constructor
  · rintro ⟨indent, -, hindent, hlength, -⟩
    obtain rfl : indentOf (slice s start index) = indent :=
      List.append_cancel_right (Option.some.inj (hcaret.symm.trans hindent))
    rw [indentOf, List.length_map, shown, eq_comm, List.length_filter_eq_length_iff] at hlength
    intro c hc
    simpa using hlength c hc
  · intro h
    rw [shown_eq_self h] at hline
    rw [CaretUnder, shown_eq_self h]
    refine ⟨_, hline, hcaret, ?_, fun j => getElem?_indentOf_eq_tab⟩
    rw [indentOf, List.length_map]

/-- In the report of an error of the lexer the caret stands under the character of the error if no
vertical tab, form feed or carriage return is in front of that on its line, and only then. For
each of them the caret stands one character further to the right. -/
theorem caretUnder_iff_of_tokenize {limit : DepthLimit} {expression : String} {error : LexError}
    (h : tokenize limit 0 expression = .error error) :
    ∃ index start : Nat, error.position = index ∧ index < expression.toList.length ∧
      LineStart expression.toList index start ∧
      (CaretUnder expression.toList index start (lines (body expression error).plain) ↔
        ∀ c ∈ slice expression.toList start index, c ≠ '\x0b' ∧ c ≠ '\x0c' ∧ c ≠ '\r') ∧
      ∃ indent, (lines (body expression error).plain)[
          (expression.toList.take index).count '\n' + 1]? = some (indent ++ ['^']) ∧
        indent.length = (shown (slice expression.toList start index)).length +
          (slice expression.toList start index).countP isDeleted := by
  obtain ⟨before, here, beyond, hs, hstops⟩ := exists_stopsAt_of_tokenize h
  have hposition : error.position = before.length := by
    rw [hstops.position_eq, Int.zero_add]
  have hlt : before.length < expression.toList.length := by
    have hpos := List.length_pos_iff.2 hstops.cause.ne_nil
    rw [hs, List.length_append, List.length_append]
    omega
  have hindex : indexOf expression.toList.length error.position = before.length := by
    rw [hposition, indexOf, if_neg (by omega)]
    omega
  obtain ⟨start, hstart, hline, hcaret⟩ := exists_caretLine hindex
  refine ⟨before.length, start, hposition, hlt, hstart, ?_, _, hcaret, ?_⟩
  · rw [caretUnder_iff hline hcaret]
    refine forall₂_congr fun c hc => ?_
    have hmem : c ∈ before := by
      have hdrop := List.mem_of_mem_drop hc
      rwa [Int.toNat_natCast, hs, take_middle] at hdrop
    have hdeleted := hstops.repaired.isDeleted_iff (List.mem_append_left _ hmem)
    rw [← Bool.not_eq_true, hdeleted, not_or, not_or]
  · rw [indentOf, List.length_map, length_shown_add_countP]

/-- A tab stands in front of the error on its line, and a vertical tab on the line above. -/
theorem caretUnder_iff_of_tokenize_tab :
    let error : LexError := ⟨7, "!\r", .unrecognizedToken⟩
    tokenize { value := 1 } 0 "1 +\x0b\n\t !\r" = .error error ∧
      LineStart "1 +\x0b\n\t !\r".toList 7 5 ∧
      CaretUnder "1 +\x0b\n\t !\r".toList 7 5 (lines (body "1 +\x0b\n\t !\r" error).plain) := by
  intro error
  have h : tokenize { value := 1 } 0 "1 +\x0b\n\t !\r" = .error error := by cbv
  have hstart : LineStart "1 +\x0b\n\t !\r".toList 7 5 := ⟨by decide, .inr rfl, by decide⟩
  obtain ⟨index, start, hposition, -, hstart', hcaret, -⟩ := caretUnder_iff_of_tokenize h
  obtain rfl : index = 7 := (Int.natCast_inj.1 hposition).symm
  obtain rfl : start = 5 := hstart'.eq hstart
  refine ⟨h, hstart, hcaret.2 ?_⟩
  have hslice : slice "1 +\x0b\n\t !\r".toList (5 : Nat) (7 : Nat) = ['\t', ' '] := by decide
  rw [hslice]
  simp

/-- The vertical tab is not shown, and the caret stands one character to the right of the error. -/
theorem not_caretUnder_verticalTab :
    tokenize .standard 0 "1 \x0b!" = .error ⟨3, "!", .unrecognizedToken⟩ ∧
      LineStart "1 \x0b!".toList 3 0 ∧
      ¬ CaretUnder "1 \x0b!".toList 3 0
        (lines (body "1 \x0b!" ⟨3, "!", .unrecognizedToken⟩).plain) := by
  refine ⟨by cbv, ⟨Nat.zero_le _, .inl rfl, by decide⟩, ?_⟩
  rintro ⟨indent, -, hcaret, hlength, -⟩
  have hbelow : (lines (body "1 \x0b!" ⟨3, "!", .unrecognizedToken⟩).plain)[1]? =
      some ([' ', ' ', ' '] ++ ['^']) := by decide
  obtain rfl : [' ', ' ', ' '] = indent :=
    List.append_cancel_right (Option.some.inj (hbelow.symm.trans hcaret))
  exact absurd hlength (by decide)

end Report

end FormulaLexer
