import FormulaLexer.Proofs.Text.Lines

/-!
Line breaks of three kinds: a line feed, a carriage return, and both in this order. Once they are
made alike, the lines between line feeds are the lines of the text.
-/

namespace FormulaLexer.Text

def NoBreak (line : List Char) : Prop := '\n' ∉ line ∧ '\r' ∉ line

/-- The lines of a text. A line feed, a carriage return, or both in this order end each of them but
the last, and nothing else ends a line. -/
inductive HasLines : List Char → List (List Char) → Prop
  | last {line : List Char} (hline : NoBreak line) : HasLines line [line]
  | feed {line rest : List Char} {ls : List (List Char)} (hline : NoBreak line)
      (hrest : HasLines rest ls) : HasLines (line ++ '\n' :: rest) (line :: ls)
  | carriageReturn {line rest : List Char} {ls : List (List Char)} (hline : NoBreak line)
      (hnext : rest.head? ≠ some '\n') (hrest : HasLines rest ls) :
      HasLines (line ++ '\r' :: rest) (line :: ls)
  | both {line rest : List Char} {ls : List (List Char)} (hline : NoBreak line)
      (hrest : HasLines rest ls) : HasLines (line ++ '\r' :: '\n' :: rest) (line :: ls)

section

variable {c : Char} {s line : List Char} {ls : List (List Char)}

theorem unifyBreaks_append (h : '\r' ∉ line) (s : List Char) :
    unifyBreaks (line ++ s) = line ++ unifyBreaks s := by
  induction line with
  | nil => rfl
  | cons c line ih =>
      rw [List.mem_cons, not_or] at h
      rw [List.cons_append, unifyBreaks, if_neg (Ne.symm h.1), ih h.2, List.cons_append]
      rintro rest rfl
      exact absurd rfl h.1

theorem unifyBreaks_return (h : s.head? ≠ some '\n') :
    unifyBreaks ('\r' :: s) = '\n' :: unifyBreaks s := by
  rw [unifyBreaks, if_pos rfl]
  rintro rest - rfl
  exact h rfl

theorem lines_cons_line (h : '\n' ∉ line) (s : List Char) :
    lines (line ++ '\n' :: s) = line :: lines s := by
  rw [lines_append, lines_of_not_mem h, List.singleton_append]

theorem lines_feed (s : List Char) : lines ('\n' :: s) = [] :: lines s := by
  rw [lines, splitOn, if_pos rfl, lines]

theorem HasLines.lines_eq (h : HasLines s ls) : lines (unifyBreaks s) = ls := by
  induction h with
  | last hline => rw [unifyBreaks_eq_self hline.2, lines_of_not_mem hline.1]
  | feed hline hrest ih =>
      rw [unifyBreaks_append hline.2, unifyBreaks, if_neg (by decide), lines_cons_line hline.1, ih]
      simp
  | carriageReturn hline hnext hrest ih =>
      rw [unifyBreaks_append hline.2, unifyBreaks_return hnext, lines_cons_line hline.1, ih]
  | both hline hrest ih =>
      rw [unifyBreaks_append hline.2, unifyBreaks, lines_cons_line hline.1, ih]

/-- A character that ends no line stands at the start of the first line. -/
theorem HasLines.cons (hfeed : c ≠ '\n') (hreturn : c ≠ '\r') (h : HasLines s ls) :
    HasLines (c :: s) (consPart c ls) := by
  have hcons {line : List Char} (hline : NoBreak line) : NoBreak (c :: line) :=
    ⟨by simp [Ne.symm hfeed, hline.1], by simp [Ne.symm hreturn, hline.2]⟩
  cases h with
  | last hline => exact .last (hcons hline)
  | feed hline hrest => exact .feed (hcons hline) hrest
  | carriageReturn hline hnext hrest => exact .carriageReturn (hcons hline) hnext hrest
  | both hline hrest => exact .both (hcons hline) hrest

theorem hasLines_lines (s : List Char) : HasLines s (lines (unifyBreaks s)) := by
  have hnil : NoBreak [] := ⟨List.not_mem_nil, List.not_mem_nil⟩
  fun_induction unifyBreaks s with
  | case1 => exact .last hnil
  | case2 rest ih =>
      rw [lines_feed]
      exact .both hnil ih
  | case3 c rest hboth ih =>
      by_cases hreturn : c = '\r'
      · subst hreturn
        rw [if_pos rfl, lines_feed]
        refine .carriageReturn hnil (fun hnext => ?_) ih
        cases rest with
        | nil => contradiction
        | cons d rest =>
            cases hnext
            exact hboth rest rfl rfl
      · rw [if_neg hreturn]
        by_cases hfeed : c = '\n'
        · subst hfeed
          rw [lines_feed]
          exact .feed hnil ih
        · have hlines : lines (c :: unifyBreaks rest) = consPart c (lines (unifyBreaks rest)) := by
            rw [lines, splitOn, if_neg hfeed, lines]
          rw [hlines]
          exact ih.cons hfeed hreturn

/-- Each text has lines, and no others. -/
theorem hasLines_iff : HasLines s ls ↔ lines (unifyBreaks s) = ls := by
  refine ⟨HasLines.lines_eq, ?_⟩
  rintro rfl
  exact hasLines_lines s

end

end FormulaLexer.Text
