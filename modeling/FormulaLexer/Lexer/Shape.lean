import FormulaLexer.Text.Digit

/-!
The shapes of lexemes. Each shape is a set of texts, and `Shape.longest?` finds the longest
prefix of a text that lies in it.
-/

namespace FormulaLexer

inductive Shape where
  /-- One letter, repeated or not, then a number without leading zeros. -/
  | reference
  /-- Digits, after a minus sign where signs are read. -/
  | number
  | operator
  /-- An opening parenthesis and all text up to a closing one. -/
  | parenthetical
  deriving DecidableEq, Repr

namespace Shape

open Text

def inOrder : List Shape := [.reference, .number, .operator, .parenthetical]

/-- Whether a character is one of the letters `A` to `Z`. -/
def isLetter (c : Char) : Bool := 'A' ≤ c && c ≤ 'Z'

def isLeadingDigit (c : Char) : Bool := '1' ≤ c && c ≤ '9'

def isOperator (c : Char) : Bool := c == '+' || c == '-' || c == '*' || c == '/'

/-- The prefix through the last occurrence of a character; empty if there is none. -/
def throughLast (c : Char) (s : List Char) : List Char :=
  (s.reverse.dropWhile (· != c)).reverse

def longestReference? : List Char → Option (List Char)
  | [] => none
  | c :: s =>
    match s.dropWhile (· == c) with
    | [] => none
    | d :: t =>
      if isLetter c && isLeadingDigit d then
        some (c :: s.takeWhile (· == c) ++ d :: t.takeWhile isDigit)
      else none

def longestDigits? (s : List Char) : Option (List Char) :=
  match s.takeWhile isDigit with
  | [] => none
  | digits => some digits

def longestNumber? (signed : Bool) : List Char → Option (List Char)
  | [] => none
  | c :: s =>
    if signed && c == '-' then (longestDigits? s).map (c :: ·) else longestDigits? (c :: s)

def longestOperator? : List Char → Option (List Char)
  | [] => none
  | c :: _ => if isOperator c then some [c] else none

def longestParenthetical? : List Char → Option (List Char)
  | [] => none
  | c :: s =>
    if c == '(' then
      match throughLast ')' s with
      | [] => none
      | closed => some (c :: closed)
    else none

/-- The longest prefix of a text with a given shape. The flag tells whether a minus sign
may belong to a number. -/
def longest? (signed : Bool) : Shape → List Char → Option (List Char)
  | .reference => longestReference?
  | .number => longestNumber? signed
  | .operator => longestOperator?
  | .parenthetical => longestParenthetical?

theorem prefix_throughLast (c : Char) (s : List Char) : throughLast c s <+: s := by
  have := List.dropWhile_suffix (fun x => x != c) (l := s.reverse)
  simpa [throughLast] using List.reverse_prefix.2 this

theorem prefix_of_longestDigits? {s lexeme : List Char} (h : longestDigits? s = some lexeme) :
    lexeme <+: s ∧ lexeme ≠ [] := by
  unfold longestDigits? at h
  split at h
  · contradiction
  · next digits hne =>
      cases h
      exact ⟨List.takeWhile_prefix _, by simpa using hne⟩

theorem prefix_of_longest? {signed : Bool} {shape : Shape} {s lexeme : List Char}
    (h : longest? signed shape s = some lexeme) : lexeme <+: s ∧ lexeme ≠ [] := by
  cases s with
  | nil => cases shape <;> simp [longest?, longestReference?, longestNumber?, longestOperator?,
      longestParenthetical?] at h
  | cons c s =>
      cases shape with
      | reference =>
          simp only [longest?, longestReference?] at h
          split at h
          · contradiction
          · next d t hdrop =>
              split at h
              · cases h
                refine ⟨?_, by simp⟩
                have hs : s = s.takeWhile (· == c) ++ d :: t := by
                  rw [← hdrop, List.takeWhile_append_dropWhile]
                have ht : d :: t.takeWhile isDigit <+: d :: t :=
                  List.cons_prefix_cons.2 ⟨rfl, List.takeWhile_prefix _⟩
                rw [List.cons_append, List.cons_prefix_cons]
                refine ⟨rfl, ?_⟩
                have := List.prefix_append_right_inj (s.takeWhile (· == c)) |>.2 ht
                rwa [← hs] at this
              · contradiction
      | number =>
          simp only [longest?, longestNumber?] at h
          split at h
          · obtain ⟨digits, hd, rfl⟩ := Option.map_eq_some_iff.1 h
            simp [(prefix_of_longestDigits? hd).1]
          · exact prefix_of_longestDigits? h
      | operator =>
          simp only [longest?, longestOperator?] at h
          split at h <;> simp_all
          subst h
          simp
      | parenthetical =>
          simp only [longest?, longestParenthetical?] at h
          split at h
          · split at h
            · contradiction
            · cases h
              simp [prefix_throughLast]
          · contradiction

end Shape

end FormulaLexer
