/-!
Lines of text, and other parts between separators.
-/

namespace FormulaLexer.Text

def consPart (c : Char) : List (List Char) → List (List Char)
  | [] => [[c]]
  | part :: rest => (c :: part) :: rest

/-- The parts of a text between separators. There is one part more than there are
separators. -/
def splitOn (separator : Char) : List Char → List (List Char)
  | [] => [[]]
  | c :: rest =>
    if c = separator then [] :: splitOn separator rest else consPart c (splitOn separator rest)

def lines (s : List Char) : List (List Char) := splitOn '\n' s

/-- Lines, each ended by a line feed. -/
def unlines (ls : List (List Char)) : List Char := ls.flatMap (· ++ ['\n'])

/-- Turns each line break of the three usual kinds into a line feed. -/
def unifyBreaks : List Char → List Char
  | [] => []
  | '\r' :: '\n' :: rest => '\n' :: unifyBreaks rest
  | c :: rest => (if c = '\r' then '\n' else c) :: unifyBreaks rest

/-- Text padded with spaces on the right. -/
def padTo (width : Nat) (used : Nat) (s : List Char) : List Char :=
  s ++ List.replicate (width - used) ' '

theorem splitOn_ne_nil (separator : Char) (s : List Char) : splitOn separator s ≠ [] := by
  induction s with
  | nil => simp [splitOn]
  | cons c rest ih =>
      simp only [splitOn]
      split
      · simp
      · cases h : splitOn separator rest <;> simp [consPart]

theorem splitOn_length (separator : Char) (s : List Char) :
    (splitOn separator s).length = s.count separator + 1 := by
  induction s with
  | nil => rfl
  | cons c rest ih =>
      simp only [splitOn]
      split
      · next h => subst h; simp [ih]
      · next h =>
          have := splitOn_ne_nil separator rest
          cases hl : splitOn separator rest with
          | nil => contradiction
          | cons part more => simp_all [consPart]

theorem not_mem_of_mem_splitOn {separator : Char} {s part : List Char}
    (h : part ∈ splitOn separator s) : separator ∉ part := by
  induction s generalizing part with
  | nil => simp_all [splitOn]
  | cons c rest ih =>
      simp only [splitOn] at h
      split at h
      · rcases List.mem_cons.1 h with rfl | h
        · simp
        · exact ih h
      · next hc =>
          cases hl : splitOn separator rest with
          | nil => exact absurd hl (splitOn_ne_nil separator rest)
          | cons first more =>
              rw [hl, consPart] at h
              simp only [hl, List.mem_cons, forall_eq_or_imp] at ih
              rcases List.mem_cons.1 h with rfl | h
              · simp [Ne.symm hc, ih.1]
              · exact ih.2 _ h

theorem lines_ne_nil (s : List Char) : lines s ≠ [] := splitOn_ne_nil '\n' s

theorem lines_length (s : List Char) : (lines s).length = s.count '\n' + 1 :=
  splitOn_length '\n' s

end FormulaLexer.Text
