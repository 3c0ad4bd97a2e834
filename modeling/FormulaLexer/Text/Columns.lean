import FormulaLexer.Text.Lines
import FormulaLexer.Text.Width

/-!
The columns that text takes on a screen of fixed-width cells, and the expansion of
tabs to the stops of such a screen.
-/

namespace FormulaLexer.Text

/-- The character that joins the pictures on its two sides into one. -/
def pictureJoiner : Char := '\u200d'

/-- The character that asks for the picture of the character before it. -/
def pictureSelector : Char := '\ufe0f'

/-- The columns of a text. A joiner hides the character after it. A selector adds a column
where the last character that took columns has a wider picture, and no second selector
counts for the same character. -/
def columnsAfter (last? : Option Char) : List Char → Nat
  | [] => 0
  | c :: rest =>
    if c = pictureJoiner then
      match rest with
      | [] => 0
      | _ :: rest => columnsAfter last? rest
    else if c = pictureSelector then
      (if last?.any widenedRanges.has then 1 else 0) + columnsAfter none rest
    else if charColumns c = 0 then columnsAfter last? rest
    else charColumns c + columnsAfter (some c) rest

def columns (s : List Char) : Nat := columnsAfter none s

def tabStop : Nat := 8

/-- Replaces the tab behind each part of a line, the last one excepted, by a space, and adds
spaces up to the next stop. The first part starts at the given column. -/
def joinTabbed (column : Nat) : List (List Char) → List Char
  | [] => []
  | [part] => part
  | part :: parts =>
    let column := column + columns (part ++ [' '])
    let fill := (tabStop - column % tabStop) % tabStop
    part ++ ' ' :: List.replicate fill ' ' ++ joinTabbed (column + fill) parts

def expandTabs (line : List Char) : List Char := joinTabbed 0 (splitOn '\t' line)

theorem not_mem_joinTabbed (column : Nat) {parts : List (List Char)}
    (h : ∀ part ∈ parts, '\t' ∉ part) : '\t' ∉ joinTabbed column parts := by
  induction parts generalizing column with
  | nil => simp [joinTabbed]
  | cons part rest ih =>
      cases rest with
      | nil => simpa [joinTabbed] using h
      | cons next rest =>
          simp only [List.mem_cons, forall_eq_or_imp] at h ih
          simp [joinTabbed, h.1, ih _ h.2]

theorem not_mem_expandTabs (line : List Char) : '\t' ∉ expandTabs line :=
  not_mem_joinTabbed 0 fun _ => not_mem_of_mem_splitOn

end FormulaLexer.Text
