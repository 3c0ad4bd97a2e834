import FormulaLexer.Proofs.Lexer.Spelling
import FormulaLexer.Proofs.Text.Slice

/-!
What is found at the front of a slice. It is the longest prefix that has a shape, for the first
shape that a prefix has. Nothing around the slice counts.
-/

namespace FormulaLexer

open Text

namespace Shape

/-- Some prefix of a text has the shape. -/
def Fits (signed : Bool) (shape : Shape) (s : List Char) : Prop :=
  ∃ text, text <+: s ∧ Spells signed shape text

/-- The longest prefix of a text that has the shape. -/
structure LongestPrefix (signed : Bool) (shape : Shape) (s text : List Char) : Prop where
  front : text <+: s
  spells : Spells signed shape text
  longest : ∀ other, other <+: s → Spells signed shape other → other.length ≤ text.length

section

variable {signed : Bool} {shape : Shape} {s text : List Char}

/-- A text of the shape goes on until what stands behind it cannot make it longer. -/
theorem Spells.exists_endsBefore (h : Spells signed shape text) (rest : List Char) :
    ∃ more after, rest = more ++ after ∧ Spells signed shape (text ++ more) ∧
      EndsBefore shape after := by
  have hdigits {digits : List Char} (hdigits : ∀ x ∈ digits, isDigit x) :
      ∀ x ∈ digits ++ rest.takeWhile isDigit, isDigit x := by
    intro x hx
    rcases List.mem_append.1 hx with hx | hx
    · exact hdigits x hx
    · exact List.mem_takeWhile_imp hx
  have hrest : rest = rest.takeWhile isDigit ++ rest.dropWhile isDigit :=
    List.takeWhile_append_dropWhile.symm
  cases shape with
  | reference =>
      obtain ⟨c, n, d, digits, hc, hd, hall, rfl⟩ := h
      exact ⟨_, _, hrest, ⟨c, n, d, _, hc, hd, hdigits hall, by simp⟩, head_dropWhile⟩
  | number =>
      obtain ⟨digits, hne, hall, htext⟩ := h
      refine ⟨_, _, hrest, ⟨_, List.append_ne_nil_of_left_ne_nil hne _, hdigits hall, ?_⟩,
        head_dropWhile⟩
      rcases htext with rfl | ⟨hsigned, rfl⟩
      · exact .inl rfl
      · exact .inr ⟨hsigned, rfl⟩
  | operator => exact ⟨[], rest, rfl, by rwa [List.append_nil], trivial⟩
  | parenthetical =>
      obtain ⟨inner, rfl⟩ := h
      by_cases hclose : ')' ∈ rest
      · obtain ⟨more, after, rfl, hafter⟩ := exists_last hclose
        exact ⟨more ++ [')'], after, by simp, ⟨inner ++ ')' :: more, by simp⟩, hafter⟩
      · exact ⟨[], rest, rfl, ⟨inner, by simp⟩, hclose⟩

theorem LongestPrefix.unique {text' : List Char} (h : LongestPrefix signed shape s text)
    (h' : LongestPrefix signed shape s text') : text = text' := by
  have hlength : text.length = text'.length :=
    Nat.le_antisymm (h'.longest text h.front h.spells) (h.longest text' h'.front h'.spells)
  exact (List.prefix_of_prefix_length_le h.front h'.front hlength.le).eq_of_length hlength

/-- What is found for a shape is the longest prefix that has it. -/
theorem longestPrefix_of_longest? (h : longest? signed shape s = some text) :
    LongestPrefix signed shape s text := by
  obtain ⟨rest, hs, hspells, -⟩ := exists_of_longest? h
  refine ⟨⟨rest, hs.symm⟩, hspells, ?_⟩
  rintro other ⟨rest', rfl⟩ hother
  -- Made as long as it can be, the other prefix is what is found.
  obtain ⟨more, after, rfl, hlong, hends⟩ := hother.exists_endsBefore rest'
  have hfound := longest?_append hlong hends
  rw [List.append_assoc, h, Option.some_inj] at hfound
  rw [hfound, List.length_append]
  exact Nat.le_add_right _ _

theorem exists_longest?_of_fits (h : Fits signed shape s) :
    ∃ text, longest? signed shape s = some text := by
  obtain ⟨text, ⟨rest, rfl⟩, hspells⟩ := h
  obtain ⟨more, after, rfl, hlong, hends⟩ := hspells.exists_endsBefore rest
  exact ⟨text ++ more, by rw [← List.append_assoc, longest?_append hlong hends]⟩

theorem longest?_eq_none_iff : longest? signed shape s = none ↔ ¬ Fits signed shape s := by
  constructor
  · intro h hfits
    obtain ⟨text, htext⟩ := exists_longest?_of_fits hfits
    rw [h] at htext
    contradiction
  · rw [Option.eq_none_iff_forall_ne_some]
    intro h text htext
    have hlongest := longestPrefix_of_longest? htext
    exact h ⟨text, hlongest.front, hlongest.spells⟩

theorem longest?_eq_some_iff :
    longest? signed shape s = some text ↔ LongestPrefix signed shape s text := by
  refine ⟨longestPrefix_of_longest?, fun h => ?_⟩
  obtain ⟨text', htext'⟩ := exists_longest?_of_fits ⟨text, h.front, h.spells⟩
  rw [htext', h.unique (longestPrefix_of_longest? htext')]

end

end Shape

namespace Lexeme

variable {signed : Bool} {s : List Char}

/-- A lexeme is the longest prefix of a text that has its shape, and no shape in front of it in
the order fits. -/
structure Heads (order : List Shape) (signed : Bool) (s : List Char) (lexeme : Lexeme) : Prop where
  longest : lexeme.shape.LongestPrefix signed s lexeme.text
  first : ∃ before after, order = before ++ lexeme.shape :: after ∧
    ∀ shape ∈ before, ¬ shape.Fits signed s

theorem firstIn?_eq_none_iff {order : List Shape} :
    firstIn? order signed s = none ↔ ∀ shape ∈ order, ¬ shape.Fits signed s := by
  simp only [firstIn?, List.findSome?_eq_none_iff, Option.map_eq_none_iff,
    Shape.longest?_eq_none_iff]

theorem firstIn?_eq_some_iff {order : List Shape} {lexeme : Lexeme} :
    firstIn? order signed s = some lexeme ↔ lexeme.Heads order signed s := by
  simp only [firstIn?, List.findSome?_eq_some_iff, Option.map_eq_none_iff, Option.map_eq_some_iff,
    Shape.longest?_eq_none_iff, Shape.longest?_eq_some_iff]
  constructor
  · rintro ⟨before, shape, after, horder, ⟨text, htext, rfl⟩, hbefore⟩
    exact ⟨htext, before, after, horder, hbefore⟩
  · rintro ⟨hlongest, before, after, horder, hbefore⟩
    exact ⟨before, _, after, horder, ⟨_, hlongest, rfl⟩, hbefore⟩

/-! ### Slices -/

/-- Whether a bound fits in a signed word of 64 bits. -/
def FitsWord (bound : Int) : Prop := -Int.pow 2 63 ≤ bound ∧ bound < Int.pow 2 63

instance (bound : Int) : Decidable (FitsWord bound) := instDecidableAnd

theorem clampBound_of_fitsWord {length : Nat} {bound : Int} (h : FitsWord bound) :
    clampBound length bound = .ok (max 0 (min bound length)).toNat := by
  have hclamp : min bound.toNat length = (max 0 (min bound length)).toNat := by omega
  rw [FitsWord] at h
  rw [clampBound, if_pos h, hclamp]

/-- The lexeme of a slice is the one of its characters. There are none if the bounds cross. -/
theorem inSlice?_of_fitsWord {start : Int} {stop? : Option Int} (hstart : FitsWord start)
    (hstop : ∀ stop ∈ stop?, FitsWord stop) :
    inSlice? signed s start stop? =
      .ok (first? signed (slice s (max 0 (min start s.length))
        (max 0 (min (stop?.getD s.length) s.length)))) := by
  have hlexeme (first last : Int) : (if first.toNat ≤ last.toNat then
      first? signed ((s.take last.toNat).drop first.toNat) else none) =
        first? signed (slice s first last) := by
    split
    · rfl
    · rw [slice_of_le (by omega)]
      rfl
  simp only [inSlice?, clampBound_of_fitsWord hstart, bind, Except.bind]
  cases stop? with
  | none =>
      have hlast : s.length = (max 0 (min (s.length : Int) s.length)).toNat := by omega
      rw [Option.getD_none, ← hlexeme, ← hlast]
      rfl
  | some stop =>
      simp only [clampBound_of_fitsWord (hstop stop rfl), Option.getD_some, ← hlexeme]
      rfl

/-- Of a slice with bounds that fit in a word, and that are moved into the text, what is found is
the longest prefix with the first shape that a prefix has, and nothing if no prefix has a shape.
The slice alone counts: taken as a text of its own it gives the same. -/
theorem inSlice?_longest (signed : Bool) (s : List Char) {start : Int} {stop? : Option Int}
    (hstart : FitsWord start) (hstop : ∀ stop ∈ stop?, FitsWord stop) :
    let first := max 0 (min start s.length)
    let last := max 0 (min (stop?.getD s.length) s.length)
    let window := slice s first last
    ∃ found?, inSlice? signed s start stop? = .ok found? ∧
      inSlice? signed window 0 none = .ok found? ∧
      (last < first → found? = none) ∧
      (first ≤ last →
        (found? = none ↔ ∀ shape text, text <+: window → ¬ Shape.Spells signed shape text) ∧
        ∀ lexeme, found? = some lexeme ↔ lexeme.text ≠ [] ∧
          lexeme.Heads [.reference, .number, .operator, .parenthetical] signed window) := by
  intro first last window
  have hwhole : inSlice? signed window 0 none = .ok (first? signed window) := by
    have hfirst : max 0 (min 0 (window.length : Int)) = 0 := by omega
    have hlast : max 0 (min (window.length : Int) window.length) = window.length := by omega
    rw [inSlice?_of_fitsWord (by decide) (by simp), hfirst, Option.getD_none, hlast, slice_full]
  refine ⟨first? signed window, inSlice?_of_fitsWord hstart hstop, hwhole, ?_, fun _ => ⟨?_, ?_⟩⟩
  · intro hcross
    rw [show window = [] from slice_of_le (Int.le_of_lt hcross)]
    rfl
  · rw [first?, firstIn?_eq_none_iff]
    refine ⟨fun h shape text hfront hspells => ?_, fun h shape _ => ?_⟩
    · exact h shape shape.mem_inOrder ⟨text, hfront, hspells⟩
    · rintro ⟨text, hfront, hspells⟩
      exact h shape text hfront hspells
  · intro lexeme
    refine ⟨fun h => ⟨(prefix_of_first? h).2, firstIn?_eq_some_iff.1 h⟩, fun h => ?_⟩
    exact firstIn?_eq_some_iff.2 h.2

/-- The slice ends before the last closing parenthesis, and a group goes on over a line break. -/
theorem inSlice?_longest_bounded :
    let window := "(1)\n)+ 2".toList
    FitsWord 1 ∧ FitsWord 9 ∧
      inSlice? false "((1)\n)+ 2)".toList 1 (some 9) =
        .ok (some ⟨.parenthetical, "(1)\n)".toList⟩) ∧
      Heads [.reference, .number, .operator, .parenthetical] false window
        ⟨.parenthetical, "(1)\n)".toList⟩ := by
  have hstart : FitsWord 1 := by decide
  have hstop : ∀ stop ∈ some 9, FitsWord stop := by decide
  have hfound : inSlice? false "((1)\n)+ 2)".toList 1 (some 9) =
      .ok (some ⟨.parenthetical, "(1)\n)".toList⟩) := by rfl
  obtain ⟨found?, hfound?, -, -, hheads⟩ :=
    inSlice?_longest false "((1)\n)+ 2)".toList hstart hstop
  rw [hfound] at hfound?
  cases hfound?
  obtain ⟨-, hsome⟩ := hheads (by decide)
  exact ⟨hstart, hstop 9 rfl, hfound, ((hsome _).1 rfl).2⟩

end Lexeme

end FormulaLexer
