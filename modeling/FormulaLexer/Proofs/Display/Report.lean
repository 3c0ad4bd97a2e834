import FormulaLexer.Display.Report
import FormulaLexer.Proofs.Lexer.Spelling
import FormulaLexer.Proofs.Text.Lines
import FormulaLexer.Proofs.Text.Quoted
import FormulaLexer.Proofs.Text.Slice

/-!
The lines of a report. They are the lines of the expression with one line put in for the caret,
and behind them the reason and the text that was left, each on a line of its own.
-/

namespace FormulaLexer

open Text

/-! ### What is shown of a text -/

section

variable {s : List Char} {c : Char}

@[simp] theorem shown_nil : shown [] = [] := rfl

@[simp] theorem shown_append (s t : List Char) : shown (s ++ t) = shown s ++ shown t :=
  List.filter_append s t

theorem shown_cons (hc : isDeleted c = false) : shown (c :: s) = c :: shown s :=
  List.filter_cons_of_pos (by simpa using hc)

theorem shown_eq_self (h : ∀ c ∈ s, isDeleted c = false) : shown s = s :=
  List.filter_eq_self.2 fun c hc => by simpa using h c hc

theorem mem_of_mem_shown (h : c ∈ shown s) : c ∈ s := (List.mem_filter.1 h).1

theorem count_shown (hc : isDeleted c = false) : (shown s).count c = s.count c :=
  List.count_filter (by simpa using hc)

theorem isDeleted_eq_false_of_isPrintable (h : isPrintable c) : isDeleted c = false := by
  have hne {d : Char} (hd : d.toNat < 0x20) : (c == d) = false :=
    beq_eq_false_iff_ne.2 (ne_of_isPrintable h hd)
  simp [isDeleted, hne]

theorem lineFeed_isDeleted : isDeleted '\n' = false := by decide

end

namespace Report

/-! ### The line of an index -/

theorem indexOf_le (length : Nat) (position : Int) : indexOf length position ≤ length := by
  rw [indexOf]
  split <;> omega

section

variable {s line : List Char} {index : Nat}

theorem lastLine_of_not_mem (h : '\n' ∉ line) : lastLine line = line := by
  have htake : line.reverse.takeWhile (· != '\n') = line.reverse :=
    List.takeWhile_eq_self_iff.2 fun c hc => bne_iff_ne.2 fun heq =>
      h (heq ▸ List.mem_reverse.1 hc)
  rw [lastLine, htake, List.reverse_reverse]

theorem lastLine_append (h : '\n' ∉ line) (front : List Char) :
    lastLine (front ++ '\n' :: line) = line := by
  have hline : ∀ c ∈ line.reverse, (c != '\n') = true := fun c hc =>
    bne_iff_ne.2 fun heq => h (heq ▸ List.mem_reverse.1 hc)
  have hreverse : (front ++ '\n' :: line).reverse = line.reverse ++ '\n' :: front.reverse := by
    simp
  rw [lastLine, hreverse, List.takeWhile_append_of_pos hline,
    List.takeWhile_cons_of_neg (by simp), List.append_nil, List.reverse_reverse]

/-- A text is a single line, or its last line stands behind a line feed. -/
theorem lastLine_cases (s : List Char) :
    '\n' ∉ s ∨ ∃ front line, s = front ++ '\n' :: line ∧ '\n' ∉ line := by
  by_cases h : '\n' ∈ s
  · exact .inr (Shape.exists_last h)
  · exact .inl h

/-- The line of a text that goes on at an index starts at `start`. -/
structure LineStart (s : List Char) (index start : Nat) : Prop where
  le : start ≤ index
  left : start = 0 ∨ s[start - 1]? = some '\n'
  oneLine : '\n' ∉ slice s start index

theorem exists_lineStart (h : index ≤ s.length) :
    ∃ start, LineStart s index start ∧ slice s start index = lastLine (s.take index) := by
  have hlength : (s.take index).length = index := by rw [List.length_take, Nat.min_eq_left h]
  rcases lastLine_cases (s.take index) with hline | ⟨front, line, hs, hline⟩
  · refine ⟨0, ⟨Nat.zero_le _, .inl rfl, ?_⟩, ?_⟩
    · simpa [slice] using hline
    · simp [slice, lastLine_of_not_mem hline]
  · have hslice : slice s (front.length + 1 : Nat) index = line := by
      rw [slice, Int.toNat_natCast, Int.toNat_natCast, hs, ← List.drop_drop, List.drop_left]
      rfl
    rw [hs, List.length_append, List.length_cons] at hlength
    refine ⟨front.length + 1, ⟨by omega, .inr ?_, ?_⟩, ?_⟩
    · have hfeed : (s.take index)[front.length]? = some '\n' := by
        rw [hs, List.getElem?_append_right (Nat.le_refl _), Nat.sub_self]
        rfl
      rwa [List.getElem?_take_of_lt (by omega)] at hfeed
    · rwa [hslice]
    · rw [hslice, hs, lastLine_append hline]

/-- The line of an index has one start. -/
theorem LineStart.eq {start start' : Nat} (h : LineStart s index start)
    (h' : LineStart s index start') : start = start' := by
  have hle {a b : Nat} (ha : LineStart s index a) (hb : LineStart s index b) : b ≤ a := by
    by_contra hlt
    have hindex := hb.le
    have hleft : s[a + (b - 1 - a)]? = some '\n' := by
      rw [show a + (b - 1 - a) = b - 1 by omega]
      exact hb.left.resolve_left (by omega)
    apply ha.oneLine
    exact List.mem_of_getElem? ((getElem?_slice (by omega)).trans hleft)
  exact Nat.le_antisymm (hle h' h) (hle h h')

end

/-! ### The lines of the body -/

def reasonLine (reason : Reason) : List Char := ("reason: " ++ reason.name).toList

def remainingLine (remaining : String) : List Char :=
  "remaining: ".toList ++ quoted remaining.toList

theorem shown_reason (reason : Reason) :
    shown ("\nreason: " ++ reason.name).toList = '\n' :: reasonLine reason := by
  cases reason <;> decide

theorem shown_remaining (remaining : String) :
    shown ("\nremaining: ".toList ++ quoted remaining.toList) = '\n' :: remainingLine remaining := by
  have hquoted : shown (quoted remaining.toList) = quoted remaining.toList :=
    shown_eq_self fun c hc => isDeleted_eq_false_of_isPrintable (isPrintable_of_mem_quoted hc)
  rw [shown_append, hquoted]
  rfl

theorem mem_caretLine {s : List Char} {c : Char} (h : c ∈ indentOf s ++ ['^']) :
    c = '\t' ∨ c = ' ' ∨ c = '^' := by
  rw [List.mem_append, List.mem_singleton, indentOf, List.mem_map] at h
  rcases h with ⟨d, -, rfl⟩ | rfl
  · split
    · next hd => exact .inl hd
    · exact .inr (.inl rfl)
  · exact .inr (.inr rfl)

theorem shown_caretLine (s : List Char) : shown (indentOf s ++ ['^']) = indentOf s ++ ['^'] := by
  apply shown_eq_self
  intro c hc
  rcases mem_caretLine hc with rfl | rfl | rfl <;> decide

theorem lineFeed_not_mem_caretLine (s : List Char) : '\n' ∉ indentOf s ++ ['^'] := by
  intro h
  rcases mem_caretLine h with h | h | h <;> contradiction

theorem lineFeed_not_mem_reasonLine (reason : Reason) : '\n' ∉ reasonLine reason := by
  cases reason <;> decide

theorem lineFeed_not_mem_remainingLine (remaining : String) : '\n' ∉ remainingLine remaining := by
  have hfeed : '\n'.toNat < 0x20 := by decide
  intro h
  rcases List.mem_append.1 h with h | h
  · exact absurd h (by decide)
  · exact ne_of_isPrintable (isPrintable_of_mem_quoted h) hfeed rfl

/-- The shown lines of a text through the end of the line that goes on behind it. -/
theorem exists_lines_shown (before : List Char) {rest : List Char} (hrest : '\n' ∉ rest) :
    ∃ upper, lines (shown (before ++ rest)) = upper ++ [shown (lastLine before ++ rest)] ∧
      upper.length = before.count '\n' := by
  have hline {line : List Char} (h : '\n' ∉ line) : '\n' ∉ shown (line ++ rest) := fun hmem => by
    rcases List.mem_append.1 (mem_of_mem_shown hmem) with hmem | hmem
    · exact h hmem
    · exact hrest hmem
  rcases lastLine_cases before with h | ⟨front, line, rfl, h⟩
  · refine ⟨[], ?_, (List.count_eq_zero.2 h).symm⟩
    rw [lastLine_of_not_mem h, lines_of_not_mem (hline h), List.nil_append]
  · refine ⟨lines (shown front), ?_, ?_⟩
    · rw [lastLine_append h, List.append_assoc, List.cons_append, shown_append,
        shown_cons lineFeed_isDeleted, lines_append, lines_of_not_mem (hline h)]
    · rw [lines_length, count_shown lineFeed_isDeleted, List.count_append, List.count_cons_self,
        List.count_eq_zero.2 h]

theorem plain_body {expression : String} {error : LexError} {index : Nat}
    (hindex : indexOf expression.toList.length error.position = index) :
    (body expression error).plain =
      shown (expression.toList.take index ++
        (expression.toList.drop index).takeWhile (· != '\n')) ++ '\n' ::
          (indentOf (lastLine (expression.toList.take index)) ++ ['^'] ++
            (shown ((expression.toList.drop index).dropWhile (· != '\n')) ++ '\n' ::
              (reasonLine error.reason ++ '\n' :: remainingLine error.remaining))) := by
  have hfeed : shown ['\n'] = ['\n'] := rfl
  simp only [body, pieces, hindex, Styled.ofPieces, List.flatMap_cons, List.flatMap_nil,
    shown_reason, shown_remaining, shown_caretLine]
  rw [shown_append _ ['\n'], hfeed]
  simp

/-- The lines of a body are those that are shown of the expression, the line of the caret behind
the line that goes on at the index, and the lines of the reason and of what was left. -/
theorem exists_lines_body {expression : String} {error : LexError} {index : Nat}
    (hindex : indexOf expression.toList.length error.position = index) :
    ∃ start upper below, LineStart expression.toList index start ∧
      upper.length = (expression.toList.take index).count '\n' ∧
      lines (shown expression.toList) = upper ++ shown (slice expression.toList start index ++
        (expression.toList.drop index).takeWhile (· != '\n')) :: below ∧
      lines (body expression error).plain = upper ++ shown (slice expression.toList start index ++
        (expression.toList.drop index).takeWhile (· != '\n')) ::
          (indentOf (slice expression.toList start index) ++ ['^']) ::
            (below ++ [reasonLine error.reason, remainingLine error.remaining]) := by
  obtain ⟨start, hstart, hslice⟩ := exists_lineStart (hindex ▸ indexOf_le _ error.position)
  have hrest : '\n' ∉ (expression.toList.drop index).takeWhile (· != '\n') := fun h => by
    simpa using List.mem_takeWhile_imp h
  obtain ⟨upper, hupper, hlength⟩ := exists_lines_shown (expression.toList.take index) hrest
  have hcaret := lineFeed_not_mem_caretLine (slice expression.toList start index)
  have hlast : lines (reasonLine error.reason ++ '\n' :: remainingLine error.remaining) =
      [reasonLine error.reason, remainingLine error.remaining] := by
    rw [lines_append, lines_of_not_mem (lineFeed_not_mem_reasonLine _),
      lines_of_not_mem (lineFeed_not_mem_remainingLine _), List.singleton_append]
  have hsplit : shown expression.toList =
      shown (expression.toList.take index ++
        (expression.toList.drop index).takeWhile (· != '\n')) ++
          shown ((expression.toList.drop index).dropWhile (· != '\n')) := by
    rw [← shown_append, List.append_assoc, List.takeWhile_append_dropWhile,
      List.take_append_drop]
  rw [← hslice] at hupper
  rw [plain_body hindex, lines_append, hupper, hsplit, ← hslice]
  -- Either the line is the last one of the expression, or a line feed ends it.
  cases hback : (expression.toList.drop index).dropWhile (· != '\n') with
  | nil =>
      refine ⟨start, upper, [], hstart, hlength, ?_, ?_⟩
      · rw [shown_nil, List.append_nil, hupper]
      · rw [shown_nil, List.nil_append, lines_append, lines_of_not_mem hcaret, hlast]
        simp
  | cons c back =>
      have hc := List.head?_dropWhile_not (· != '\n') (expression.toList.drop index)
      rw [hback] at hc
      obtain rfl : c = '\n' := by simpa using hc
      refine ⟨start, upper, lines (shown back), hstart, hlength, ?_, ?_⟩
      · rw [shown_cons lineFeed_isDeleted, lines_append, hupper, List.append_assoc,
          List.singleton_append]
      · rw [shown_cons lineFeed_isDeleted, List.cons_append, lines_append,
          lines_of_not_mem hcaret, lines_append, hlast]
        simp

/-! ### The report of an error -/

theorem getElem?_indentOf {s : List Char} {j : Nat} (h : j < s.length) :
    (indentOf s)[j]? = some (if s[j]? = some '\t' then '\t' else ' ') := by
  rw [indentOf, List.getElem?_map, List.getElem?_eq_getElem h, Option.map_some]
  simp only [Option.some.injEq]
  split
  · next hc => rw [hc]
  · rfl

/-- What the lines of the report of an error at an index say of an expression: one line is put
in for the caret, below the line that starts at `start` and goes on at the index, and the reason
and what was left stand at the end. -/
structure Reported (s : List Char) (error : LexError) (index start : Nat)
    (ls : List (List Char)) : Prop where
  length : ls.length = s.count '\n' + 4
  expression : ['\n'].intercalate
    (ls.dropLast.dropLast.eraseIdx ((s.take index).count '\n' + 1)) = shown s
  caret : ∃ indent, ls[(s.take index).count '\n' + 1]? = some (indent ++ ['^']) ∧
    indent.length = index - start ∧
    ∀ j < index - start, indent[j]? = some (if s[start + j]? = some '\t' then '\t' else ' ')
  reason : ls[s.count '\n' + 2]? = some (reasonLine error.reason)
  remaining : ls[s.count '\n' + 3]? = some (remainingLine error.remaining)

theorem exists_reported {expression : String} {error : LexError} {index : Nat}
    (hindex : indexOf expression.toList.length error.position = index) :
    ∃ start, LineStart expression.toList index start ∧
      Reported expression.toList error index start (lines (body expression error).plain) := by
  have hle : index ≤ expression.toList.length := hindex ▸ indexOf_le _ _
  obtain ⟨start, upper, below, hstart, hrow, hshown, hlines⟩ := exists_lines_body hindex
  have hcount : (lines (shown expression.toList)).length = expression.toList.count '\n' + 1 := by
    rw [lines_length, count_shown lineFeed_isDeleted]
  rw [hshown, List.length_append, List.length_cons, hrow] at hcount
  have hwidth := length_slice (Int.natCast_nonneg start) (Int.ofNat_le.2 hstart.le)
    (Int.ofNat_le.2 hle)
  generalize shown (slice expression.toList start index ++ _) = line at hshown hlines
  generalize hindent : indentOf (slice expression.toList start index) = indent at hlines
  -- The lines in front of the caret, those in front of the reason, and all of them.
  have hfront : (upper ++ [line]).length = (expression.toList.take index).count '\n' + 1 := by
    rw [List.length_append, hrow, List.length_singleton]
  have hupper : (upper ++ [line] ++ (indent ++ ['^']) :: below).length =
      expression.toList.count '\n' + 2 := by
    rw [List.length_append, hfront, List.length_cons]
    omega
  have hreason : (upper ++ [line] ++ (indent ++ ['^']) :: below ++
      [reasonLine error.reason]).length = expression.toList.count '\n' + 3 := by
    rw [List.length_append, hupper, List.length_singleton]
  have hends : lines (body expression error).plain = upper ++ [line] ++
      (indent ++ ['^']) :: below ++ [reasonLine error.reason] ++
        [remainingLine error.remaining] := by
    rw [hlines]
    simp
  rw [hends]
  refine ⟨start, hstart, ⟨?_, ?_, ⟨indent, ?_, ?_, ?_⟩, ?_, ?_⟩⟩
  · rw [List.length_append, hreason, List.length_singleton]
  · rw [List.dropLast_concat, List.dropLast_concat, ← hfront,
      List.eraseIdx_append_of_length_le (Nat.le_refl _), Nat.sub_self, List.eraseIdx_cons_zero,
      List.append_assoc, List.singleton_append, ← hshown, intercalate_lines]
  · rw [← hfront, List.append_assoc, List.append_assoc,
      List.getElem?_append_right (Nat.le_refl _), Nat.sub_self]
    rfl
  · rw [← hindent, indentOf, List.length_map]
    omega
  · intro j hj
    rw [← hindent, getElem?_indentOf (by omega), getElem?_slice (by omega)]
  · rw [← hupper, List.append_assoc, List.getElem?_append_right (Nat.le_refl _), Nat.sub_self]
    rfl
  · rw [← hreason, List.getElem?_concat_length]

/-- The report of an error shows all of the expression, with one line put in for the caret, and
behind it the reason and what was left. -/
theorem exists_reported_of_nonneg (expression : String) {error : LexError}
    (h : 0 ≤ error.position) :
    ∃ start, LineStart expression.toList
        (min error.position.toNat expression.toList.length) start ∧
      Reported expression.toList error (min error.position.toNat expression.toList.length) start
        (lines (body expression error).plain) := by
  apply exists_reported
  rw [indexOf, if_neg (by omega)]

/-- The position is beyond the end of the expression, the carriage return there is not shown, and
of what was left the line feed is written as an escape. -/
theorem exists_reported_of_nonneg_beyond :
    let error : LexError := ⟨99, "(\n'", .unterminatedGroup⟩
    let ls := ["", "\t(1", "\t   ^", "reason: unterminated_group", "remaining: \"(\\n'\""].map
      String.toList
    lines (body "\n\t(1\r" error).plain = ls ∧
      LineStart "\n\t(1\r".toList 5 1 ∧ Reported "\n\t(1\r".toList error 5 1 ls := by
  intro error ls
  have hposition : 0 ≤ error.position := by decide
  have hlines : lines (body "\n\t(1\r" error).plain = ls := by decide
  have hstart : LineStart "\n\t(1\r".toList 5 1 := ⟨by decide, .inr rfl, by decide⟩
  obtain ⟨start, hstart', hreported⟩ := exists_reported_of_nonneg "\n\t(1\r" hposition
  obtain rfl : start = 1 := hstart'.eq hstart
  rw [hlines] at hreported
  exact ⟨hlines, hstart, hreported⟩

end Report

end FormulaLexer
