import FormulaLexer.Text.Blank
import FormulaLexer.Text.Lines

/-!
Lines that are written and read again, and texts without blanks at their ends.
-/

namespace FormulaLexer.Text

/-! ### Lines -/

/-- The parts of a text are the ones that the library finds. -/
theorem splitOn_eq (separator : Char) (s : List Char) :
    splitOn separator s = List.splitOn separator s := by
  induction s with
  | nil => rw [splitOn, List.splitOn_nil]
  | cons c s ih =>
      rw [splitOn, List.splitOn_cons_eq_if_modifyHead, ih]
      simp only [beq_iff_eq]
      split
      · rfl
      · cases hs : List.splitOn separator s with
        | nil => exact absurd hs (List.splitOn_ne_nil separator s)
        | cons part parts => rfl

theorem splitOn_append {separator : Char} {part rest : List Char} (h : separator ∉ part) :
    splitOn separator (part ++ separator :: rest) = part :: splitOn separator rest := by
  rw [splitOn_eq, splitOn_eq, List.splitOn_append_cons_self_of_not_mem h]

/-- A text is cut at the first separator in one way only. -/
theorem append_cons_inj {separator : Char} {s s' t t' : List Char} (hs : separator ∉ s)
    (hs' : separator ∉ s') (h : s ++ separator :: t = s' ++ separator :: t') :
    s = s' ∧ t = t' := by
  have hparts := congrArg (splitOn separator) h
  rw [splitOn_append hs, splitOn_append hs', List.cons.injEq] at hparts
  obtain ⟨rfl, -⟩ := hparts
  exact ⟨rfl, List.tail_eq_of_cons_eq (List.append_cancel_left h)⟩

theorem lines_append (s t : List Char) : lines (s ++ '\n' :: t) = lines s ++ lines t := by
  simp only [lines, splitOn_eq, List.splitOn_append_cons_self]

theorem splitOn_of_not_mem {separator : Char} {s : List Char} (h : separator ∉ s) :
    splitOn separator s = [s] := by
  rw [splitOn_eq, List.splitOn_eq_singleton h]

theorem lines_of_not_mem {s : List Char} (h : '\n' ∉ s) : lines s = [s] := splitOn_of_not_mem h

/-- Lines that are joined again give the text. -/
theorem intercalate_lines (s : List Char) : ['\n'].intercalate (lines s) = s := by
  rw [lines, splitOn_eq, List.intercalate_splitOn]

/-- Written lines are read again, and behind the last line feed there is nothing. -/
theorem lines_unlines {ls : List (List Char)} (h : ∀ line ∈ ls, '\n' ∉ line) :
    lines (unlines ls) = ls ++ [[]] := by
  induction ls with
  | nil => rfl
  | cons line ls ih =>
      obtain ⟨hline, hls⟩ := List.forall_mem_cons.1 h
      have hsplit : lines (line ++ '\n' :: unlines ls) = line :: lines (unlines ls) :=
        splitOn_append hline
      rw [unlines, List.flatMap_cons, List.append_assoc, List.singleton_append, ← unlines, hsplit,
        ih hls, List.cons_append]

theorem mem_of_mem_splitOn {separator c : Char} {s part : List Char} (hc : c ∈ part)
    (h : part ∈ splitOn separator s) : c ∈ s := by
  induction s generalizing part with
  | nil =>
      rw [splitOn, List.mem_singleton] at h
      rwa [h] at hc
  | cons d s ih =>
      rw [splitOn] at h
      split at h
      · rcases List.mem_cons.1 h with rfl | h
        · contradiction
        · exact List.mem_cons_of_mem _ (ih hc h)
      · cases hs : splitOn separator s with
        | nil => exact absurd hs (splitOn_ne_nil separator s)
        | cons first more =>
            rw [hs] at ih
            rw [hs, consPart, List.mem_cons] at h
            rcases h with rfl | h
            · rcases List.mem_cons.1 hc with rfl | hc
              · exact List.mem_cons_self
              · exact List.mem_cons_of_mem _ (ih hc List.mem_cons_self)
            · exact List.mem_cons_of_mem _ (ih hc (List.mem_cons_of_mem _ h))

theorem not_mem_unifyBreaks (s : List Char) : '\r' ∉ unifyBreaks s := by
  fun_induction unifyBreaks s with
  | case1 => simp
  | case2 rest ih => simp [ih]
  | case3 c rest _ ih =>
      rw [List.mem_cons, not_or]
      refine ⟨?_, ih⟩
      split
      · decide
      · next hc => exact Ne.symm hc

theorem unifyBreaks_eq_self {s : List Char} (h : '\r' ∉ s) : unifyBreaks s = s := by
  fun_induction unifyBreaks s with
  | case1 => rfl
  | case2 rest ih => simp at h
  | case3 c rest _ ih =>
      rw [List.mem_cons, not_or] at h
      rw [if_neg (Ne.symm h.1), ih h.2]

/-! ### Both ends of a text -/

section

variable {p : Char → Bool} {s : List Char}

theorem trimWhere_eq_self (hhead : ∀ c ∈ s.head?, p c = false)
    (hlast : ∀ c ∈ s.getLast?, p c = false) : trimWhere p s = s := by
  have hdrop {s : List Char} (h : ∀ c ∈ s.head?, p c = false) : s.dropWhile p = s := by
    cases s with
    | nil => rfl
    | cons c s => rw [List.dropWhile_cons_of_neg (by simp [h c rfl])]
  rw [trimWhere, hdrop hhead, hdrop (by rwa [List.head?_reverse]), List.reverse_reverse]

theorem head_trimWhere : ∀ c ∈ (trimWhere p s).head?, p c = false := by
  intro c hc
  -- What is left is a prefix of the text behind the characters dropped in front.
  obtain ⟨t, ht⟩ := List.reverse_prefix.2 (List.dropWhile_suffix p (l := (s.dropWhile p).reverse))
  rw [List.reverse_reverse] at ht
  have hhead : (s.dropWhile p).head? = some c := by
    rw [← ht, List.head?_append, Option.or_eq_some_iff]
    exact .inl hc
  have := List.head?_dropWhile_not p s
  rwa [hhead] at this

theorem getLast_trimWhere : ∀ c ∈ (trimWhere p s).getLast?, p c = false := by
  intro c hc
  rw [trimWhere, List.getLast?_reverse, Option.mem_def] at hc
  have := List.head?_dropWhile_not p (s.dropWhile p).reverse
  rwa [hc] at this

theorem mem_of_mem_trimWhere {c : Char} (h : c ∈ trimWhere p s) : c ∈ s := by
  rw [trimWhere, List.mem_reverse] at h
  exact (List.dropWhile_sublist p).mem
    (List.mem_reverse.1 ((List.dropWhile_sublist p).mem h))

end

end FormulaLexer.Text
