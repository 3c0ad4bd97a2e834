import FormulaLexer.Lexer.Basic
import FormulaLexer.Proofs.Lexer.Spelling

/-!
What the lexer finds at the start of a window: the text of a leaf, a group, or nothing.
-/

namespace FormulaLexer

open Text

/-- The shape that a kind of leaf is made from. -/
def LeafKind.shape : LeafKind → Shape
  | .reference => .reference
  | .number => .number
  | .operator => .operator

@[simp] theorem LeafKind.leafKind?_shape (kind : LeafKind) : kind.shape.leafKind? = some kind := by
  cases kind <;> rfl

/-- A leaf stands at the start of a window, with `rest` behind it. The flag tells whether an
operand is expected there. -/
structure Leads (operand : Bool) (kind : LeafKind) (text rest : List Char) : Prop where
  /-- The text belongs to the kind, and a sign to a number only where an operand is
  expected. -/
  spells : kind.shape.Spells operand text
  /-- No digit follows a reference or a number. -/
  ends : kind.shape.EndsBefore rest
  /-- No digit follows a minus sign where an operand is expected. -/
  minus : text = ['-'] → operand → ∀ c ∈ rest.head?, isDigit c = false

theorem Leads.ne_nil {operand : Bool} {kind : LeafKind} {text rest : List Char}
    (h : Leads operand kind text rest) : text ≠ [] := by
  obtain ⟨c, t, rfl, -⟩ := h.spells.exists_cons
  exact List.cons_ne_nil c t

namespace Shape

theorem longest?_eq_none {signed : Bool} {shape : Shape} {c : Char} {s : List Char}
    (h : ¬ StartsWith signed shape c) : longest? signed shape (c :: s) = none := by
  rw [Option.eq_none_iff_forall_ne_some]
  intro text htext
  obtain ⟨rest, hs, hspells, -⟩ := exists_of_longest? htext
  obtain ⟨d, t, rfl, hd⟩ := hspells.exists_cons
  cases hs
  exact h hd

/-- A minus sign starts no number if no digit follows it. -/
theorem longest?_number_minus {signed : Bool} {rest : List Char}
    (h : signed → ∀ c ∈ rest.head?, isDigit c = false) :
    longest? signed .number ('-' :: rest) = none := by
  rw [Option.eq_none_iff_forall_ne_some]
  intro text htext
  obtain ⟨rest', hs, ⟨digits, hne, hall, rfl | ⟨hsigned, rfl⟩⟩, -⟩ := exists_of_longest? htext
  · obtain ⟨c, digits, rfl⟩ := List.exists_cons_of_ne_nil hne
    cases hs
    exact absurd (hall '-' (by simp)) (by decide)
  · obtain ⟨c, digits, rfl⟩ := List.exists_cons_of_ne_nil hne
    cases hs
    simpa [hall c (by simp)] using h hsigned c rfl

end Shape

namespace Lexeme

open Shape

theorem firstIn?_cons_some {signed : Bool} {shape : Shape} {order : List Shape}
    {s text : List Char} (h : shape.longest? signed s = some text) :
    firstIn? (shape :: order) signed s = some ⟨shape, text⟩ := by
  simp [firstIn?, h]

theorem firstIn?_cons_none {signed : Bool} {shape : Shape} {order : List Shape}
    {s : List Char} (h : shape.longest? signed s = none) :
    firstIn? (shape :: order) signed s = firstIn? order signed s := by
  simp [firstIn?, h]

theorem first?_leaf {operand : Bool} {kind : LeafKind} {text rest : List Char}
    (h : Leads operand kind text rest) :
    first? operand (text ++ rest) = some ⟨kind.shape, text⟩ := by
  have hlongest := longest?_append h.spells h.ends
  obtain ⟨c, t, rfl, hc⟩ := h.spells.exists_cons
  rw [first?, inOrder]
  cases kind with
  | reference => exact firstIn?_cons_some hlongest
  | number =>
      -- References are tried before numbers, and they start with a letter.
      have hletter : ¬ StartsWith operand .reference c := by
        rcases hc with hdigit | ⟨-, rfl⟩
        · show ¬ isLetter c
          grind
        · show ¬ isLetter '-'
          decide
      rw [List.cons_append] at hlongest ⊢
      rw [firstIn?_cons_none (longest?_eq_none hletter)]
      exact firstIn?_cons_some hlongest
  | operator =>
      have hletter : ¬ StartsWith operand .reference c := by
        simp only [StartsWith, LeafKind.shape] at hc ⊢
        grind
      -- Of the operators, a minus sign alone could start a number.
      have hnumber : longest? operand .number (c :: (t ++ rest)) = none := by
        obtain ⟨d, -, htext⟩ := h.spells
        cases htext
        by_cases hminus : c = '-'
        · subst hminus
          exact longest?_number_minus (h.minus rfl)
        · apply longest?_eq_none
          simp only [StartsWith, LeafKind.shape] at hc ⊢
          grind
      rw [List.cons_append] at hlongest ⊢
      rw [firstIn?_cons_none (longest?_eq_none hletter), firstIn?_cons_none hnumber]
      exact firstIn?_cons_some hlongest

theorem first?_opening {operand : Bool} {rest : List Char} :
    first? operand ('(' :: rest) =
      (longest? operand .parenthetical ('(' :: rest)).map (⟨.parenthetical, ·⟩) := by
  have h (shape : Shape) (hshape : shape ≠ .parenthetical) :
      longest? operand shape ('(' :: rest) = none := by
    apply longest?_eq_none
    cases shape <;> first | contradiction | simp [StartsWith]
    all_goals decide
  rw [first?, inOrder, firstIn?_cons_none (h _ (by decide)), firstIn?_cons_none (h _ (by decide)),
    firstIn?_cons_none (h _ (by decide))]
  simp [firstIn?]

theorem first?_group {operand : Bool} {inner after : List Char} (h : ')' ∉ after) :
    first? operand ('(' :: inner ++ ')' :: after) =
      some ⟨.parenthetical, '(' :: inner ++ [')']⟩ := by
  have hlongest : longest? operand .parenthetical ('(' :: inner ++ [')'] ++ after) =
      some ('(' :: inner ++ [')']) := longest?_append ⟨inner, rfl⟩ h
  rw [List.append_assoc, List.singleton_append] at hlongest
  rw [List.cons_append] at hlongest ⊢
  rw [first?_opening, hlongest, Option.map_some]

theorem first?_unclosed {operand : Bool} {rest : List Char} (h : ')' ∉ rest) :
    first? operand ('(' :: rest) = none := by
  rw [first?_opening, Option.map_eq_none_iff, Option.eq_none_iff_forall_ne_some]
  intro text htext
  obtain ⟨after, hs, ⟨inner, rfl⟩, -⟩ := exists_of_longest? htext
  cases hs
  simp at h

/-- Where no lexeme is found, no shape fits. -/
theorem longest?_eq_none_of_first? {operand : Bool} {s : List Char}
    (h : first? operand s = none) (shape : Shape) : longest? operand shape s = none := by
  simpa using List.findSome?_eq_none_iff.1 h shape shape.mem_inOrder

/-- Where a lexeme is found, the window starts with a leaf or with a group. -/
theorem exists_of_first?_ne_none {operand : Bool} {s : List Char} (h : first? operand s ≠ none) :
    (∃ kind text rest, s = text ++ rest ∧ Leads operand kind text rest) ∨
      ∃ inner after, s = '(' :: inner ++ ')' :: after ∧ ')' ∉ after := by
  obtain ⟨lexeme, hlexeme⟩ := Option.ne_none_iff_exists'.1 h
  obtain ⟨shape, -, hshape⟩ := List.exists_of_findSome?_eq_some hlexeme
  obtain ⟨text, htext, -⟩ := Option.map_eq_some_iff.1 hshape
  obtain ⟨rest, rfl, hspells, hends⟩ := exists_of_longest? htext
  by_cases hminus : text = ['-'] → operand → ∀ c ∈ rest.head?, isDigit c = false
  · cases shape with
    | reference => exact .inl ⟨.reference, text, rest, rfl, hspells, hends, hminus⟩
    | number => exact .inl ⟨.number, text, rest, rfl, hspells, hends, hminus⟩
    | operator => exact .inl ⟨.operator, text, rest, rfl, hspells, hends, hminus⟩
    | parenthetical =>
        obtain ⟨inner, rfl⟩ := hspells
        exact .inr ⟨inner, rest, by simp, hends⟩
  · -- The digits behind the minus sign make a signed number of it.
    simp only [not_forall, Bool.not_eq_false] at hminus
    obtain ⟨rfl, hoperand, c, hc, hdigit⟩ := hminus
    have hne : rest.takeWhile isDigit ≠ [] := by
      cases rest with
      | nil => contradiction
      | cons d rest =>
          cases hc
          simp [hdigit]
    refine .inl ⟨.number, '-' :: rest.takeWhile isDigit, rest.dropWhile isDigit, ?_,
      ⟨_, hne, fun x hx => List.mem_takeWhile_imp hx, .inr ⟨hoperand, rfl⟩⟩, head_dropWhile, ?_⟩
    · simp [List.takeWhile_append_dropWhile]
    · simp [hne]

end Lexeme

end FormulaLexer
