import FormulaLexer.Proofs.Lexer.FirstShape
import FormulaLexer.Proofs.Lexer.Lead
import Mathlib.Data.List.Basic

/-!
Where two shapes fit. A minus sign in front of a digit may start a number and is an operator as
well; apart from that at most one shape fits. So it counts that numbers are tried before
operators, and nothing else of the order does.
-/

namespace FormulaLexer

open Text

/-- A text starts with a minus sign and a digit. -/
def MinusDigit (s : List Char) : Prop := ∃ d rest, s = '-' :: d :: rest ∧ isDigit d

namespace Shape

section

variable {signed : Bool} {shape shape' : Shape} {c : Char} {s : List Char}

/-! ### The first character -/

theorem not_fits_nil : ¬ Fits signed shape [] := by
  rintro ⟨text, hfront, hspells⟩
  obtain ⟨c, rest, rfl, -⟩ := hspells.exists_cons
  exact absurd (List.prefix_nil.1 hfront) (List.cons_ne_nil c rest)

theorem Fits.startsWith (h : Fits signed shape (c :: s)) : StartsWith signed shape c := by
  obtain ⟨text, hfront, hspells⟩ := h
  obtain ⟨d, rest, rfl, hd⟩ := hspells.exists_cons
  rwa [← (List.cons_prefix_cons.1 hfront).1]

theorem LongestPrefix.fits {text : List Char} (h : LongestPrefix signed shape s text) :
    Fits signed shape s :=
  ⟨text, h.front, h.spells⟩

/-- Apart from the minus sign each character starts texts of one shape only. -/
theorem StartsWith.unique (h : StartsWith signed shape c) (h' : StartsWith signed shape' c)
    (hc : c ≠ '-') : shape = shape' := by
  have hminus : c.toNat ≠ 45 := fun heq => hc (Char.toNat_inj.1 heq)
  have hopening : c = '(' → c.toNat = 40 := fun heq => heq ▸ rfl
  cases shape <;> cases shape' <;> simp only [StartsWith, hc, and_false, or_false] at h h' <;> grind

theorem fits_minus_iff :
    Fits signed shape ('-' :: s) ↔
      shape = .operator ∨ shape = .number ∧ signed ∧ MinusDigit ('-' :: s) := by
  constructor
  · intro h
    have hstart := h.startsWith
    cases shape with
    | reference => exact absurd (show isLetter '-' from hstart) (by decide)
    | number =>
        by_contra hnot
        refine longest?_eq_none_iff.1 (longest?_number_minus fun hsigned d hd => ?_) h
        rw [Bool.eq_false_iff]
        intro hdigit
        obtain ⟨rest, rfl⟩ : ∃ rest, s = d :: rest := List.head?_eq_some_iff.1 hd
        exact hnot (.inr ⟨rfl, hsigned, d, rest, rfl, hdigit⟩)
    | operator => exact .inl rfl
    | parenthetical => exact absurd (show '-' = '(' from hstart) (by decide)
  · rintro (rfl | ⟨rfl, hsigned, d, rest, hs, hd⟩)
    · exact ⟨['-'], List.prefix_append ['-'] s, '-', by decide, rfl⟩
    · refine ⟨['-', d], ?_, [d], List.cons_ne_nil d [], List.forall_mem_singleton.2 hd,
        .inr ⟨hsigned, rfl⟩⟩
      rw [hs]
      exact List.prefix_append ['-', d] rest

/-! ### Two shapes -/

/-- Two shapes that fit the same text are those of numbers and operators. -/
theorem Fits.cases_of_ne (h : Fits signed shape s) (h' : Fits signed shape' s)
    (hne : shape ≠ shape') :
    (signed ∧ MinusDigit s) ∧
      (shape = .number ∧ shape' = .operator ∨ shape = .operator ∧ shape' = .number) := by
  cases s with
  | nil => exact absurd h not_fits_nil
  | cons c s =>
      by_cases hc : c = '-'
      · subst hc
        rcases fits_minus_iff.1 h with rfl | ⟨rfl, hminus⟩ <;>
          rcases fits_minus_iff.1 h' with rfl | ⟨rfl, hminus'⟩
        · exact absurd rfl hne
        · exact ⟨hminus', .inr ⟨rfl, rfl⟩⟩
        · exact ⟨hminus, .inl ⟨rfl, rfl⟩⟩
        · exact absurd rfl hne
      · exact absurd (h.startsWith.unique h'.startsWith hc) hne

theorem Fits.unique (h : Fits signed shape s) (h' : Fits signed shape' s)
    (hminus : ¬ (signed ∧ MinusDigit s)) : shape = shape' := by
  by_contra hne
  exact hminus (h.cases_of_ne h' hne).1

theorem fits_iff_of_minusDigit (h : MinusDigit s) :
    Fits true shape s ↔ shape = .number ∨ shape = .operator := by
  obtain ⟨d, rest, rfl, hd⟩ := h
  rw [fits_minus_iff, or_comm]
  simp [MinusDigit, hd]

/-- Whether signs are read does not count unless a digit follows a minus sign. -/
theorem longest?_of_not_minusDigit (h : ¬ MinusDigit s) :
    longest? true shape s = longest? false shape s := by
  cases shape with
  | reference => rfl
  | operator => rfl
  | parenthetical => rfl
  | number =>
      cases s with
      | nil => rfl
      | cons c s =>
          by_cases hc : c = '-'
          · subst hc
            have hnone (signed : Bool) : longest? signed .number ('-' :: s) = none := by
              rw [longest?_eq_none_iff, fits_minus_iff]
              simp [h]
            rw [hnone, hnone]
          · have hfalse : (c == '-') = false := beq_eq_false_iff_ne.2 hc
            simp [longest?, longestNumber?, hfalse]

end

end Shape

namespace Lexeme

open Shape

variable {order : List Shape} {signed : Bool} {s : List Char}

/-! ### The order of the shapes -/

/-- In an order of all shapes that has numbers before operators, what is found is told without the
order: an operator is found only where no number is. -/
theorem heads_iff {lexeme : Lexeme} (hall : ∀ shape, shape ∈ order)
    (hnumber : order.idxOf .number < order.idxOf .operator) :
    lexeme.Heads order signed s ↔ lexeme.shape.LongestPrefix signed s lexeme.text ∧
      (lexeme.shape = .operator → ¬ Fits signed .number s) := by
  constructor
  · rintro ⟨hlongest, before, after, horder, hbefore⟩
    refine ⟨hlongest, fun hshape hfit => ?_⟩
    rw [hshape] at horder
    have hnot : .number ∉ before := fun hmem => hbefore _ hmem hfit
    have hnot' : .operator ∉ before := fun hmem => hbefore _ hmem (hshape ▸ hlongest.fits)
    rw [horder, List.idxOf_append_of_notMem hnot, List.idxOf_append_of_notMem hnot',
      List.idxOf_cons_self] at hnumber
    omega
  · rintro ⟨hlongest, hoperator⟩
    obtain ⟨before, after, horder, hnot⟩ := List.eq_append_cons_of_mem (hall lexeme.shape)
    refine ⟨hlongest, before, after, horder, fun shape hmem hfit => ?_⟩
    have hne : shape ≠ lexeme.shape := fun heq => hnot (heq ▸ hmem)
    rcases (hfit.cases_of_ne hlongest.fits hne).2 with ⟨rfl, hshape⟩ | ⟨rfl, hshape⟩
    · exact hoperator hshape hfit
    · rw [hshape] at horder hnot
      rw [horder, List.idxOf_append_of_notMem hnot, List.idxOf_append_of_mem hmem,
        List.idxOf_cons_self] at hnumber
      have hlt := List.idxOf_lt_length_of_mem hmem
      omega

theorem mem_of_perm (hperm : order.Perm inOrder) (shape : Shape) : shape ∈ order :=
  hperm.mem_iff.2 shape.mem_inOrder

/-- Nothing else of the order counts. -/
theorem firstIn?_eq_first? (hperm : order.Perm inOrder)
    (hnumber : order.idxOf .number < order.idxOf .operator) :
    firstIn? order signed s = first? signed s := by
  apply Option.ext
  intro lexeme
  rw [first?, firstIn?_eq_some_iff, firstIn?_eq_some_iff, heads_iff (mem_of_perm hperm) hnumber,
    heads_iff mem_inOrder (by decide)]

/-- Where operators are tried first, a minus sign in front of a digit is found as an operator. -/
theorem firstIn?_eq_operator (hall : ∀ shape, shape ∈ order)
    (hnumber : ¬ order.idxOf .number < order.idxOf .operator) :
    firstIn? order true ['-', '1'] = some ⟨.operator, ['-']⟩ := by
  obtain ⟨before, after, horder, hnot⟩ := List.eq_append_cons_of_mem (hall .operator)
  have hlongest : LongestPrefix true .operator ['-', '1'] ['-'] := longest?_eq_some_iff.1 rfl
  refine firstIn?_eq_some_iff.2 ⟨hlongest, before, after, horder, fun shape hmem hfit => ?_⟩
  have hne : shape ≠ .operator := fun heq => hnot (heq ▸ hmem)
  obtain ⟨rfl, -⟩ | ⟨heq, -⟩ := (hfit.cases_of_ne hlongest.fits hne).2
  · apply hnumber
    rw [horder, List.idxOf_append_of_mem hmem, List.idxOf_append_of_notMem hnot,
      List.idxOf_cons_self, Nat.add_zero]
    exact List.idxOf_lt_length_of_mem hmem
  · exact hne heq

/-! ### Signs -/

/-- Whether signs are read counts where a digit follows a minus sign, and nowhere else. -/
theorem first?_ne_iff : first? true s ≠ first? false s ↔ MinusDigit s := by
  constructor
  · intro hne
    by_contra hminus
    refine hne ?_
    simp only [first?, firstIn?, longest?_of_not_minusDigit hminus]
  · intro hminus heq
    have hnumber : Fits true .number s := (fits_iff_of_minusDigit hminus).2 (.inl rfl)
    cases hfound : first? true s with
    | none => exact firstIn?_eq_none_iff.1 hfound _ (mem_inOrder _) hnumber
    | some lexeme =>
        -- With signs a number is found, and without them there is none.
        have hheads := firstIn?_eq_some_iff.1 hfound
        rw [hfound] at heq
        have hheads' := firstIn?_eq_some_iff.1 heq.symm
        have hfit := hheads'.longest.fits
        obtain ⟨d, rest, rfl, -⟩ := hminus
        rcases fits_minus_iff.1 hfit with hshape | ⟨-, hsigned, -⟩
        · exact ((heads_iff mem_inOrder (by decide)).1 hheads).2 hshape hnumber
        · contradiction

/-! ### Slices -/

/-- The lexeme at the start of a slice, where the shapes are tried in the given order. -/
def inSliceIn? (order : List Shape) (signed : Bool) (s : List Char) (start : Int)
    (stop? : Option Int) : Except BoundOverflow (Option Lexeme) := do
  let start ← clampBound s.length start
  let stop ← match stop? with
    | none => .ok s.length
    | some stop => clampBound s.length stop
  return if start ≤ stop then firstIn? order signed ((s.take stop).drop start) else none

theorem inSliceIn?_inOrder : inSliceIn? inOrder = inSlice? := rfl

theorem inSliceIn?_whole : inSliceIn? order signed s 0 none = .ok (firstIn? order signed s) := by
  have hzero : clampBound s.length 0 = .ok 0 := by
    rw [clampBound_of_fitsWord (by decide)]
    rfl
  simp [inSliceIn?, hzero, bind, Except.bind, pure, Except.pure]

/-- Slices are searched alike in an order of all shapes just if it has numbers before operators. -/
theorem inSliceIn?_eq_inSlice?_iff (hperm : order.Perm inOrder) :
    inSliceIn? order = inSlice? ↔ order.idxOf .number < order.idxOf .operator := by
  rw [← inSliceIn?_inOrder]
  constructor
  · intro heq
    by_contra hnumber
    have hwhole := congrFun (congrFun (congrFun (congrFun heq true) ['-', '1']) 0) none
    rw [inSliceIn?_whole, inSliceIn?_whole,
      firstIn?_eq_operator (mem_of_perm hperm) hnumber] at hwhole
    exact absurd hwhole (by decide)
  · intro hnumber
    funext signed s start stop?
    simp only [inSliceIn?, firstIn?_eq_first? hperm hnumber]
    rfl

/-- A bound that does not fit in a word is refused before the signs count. -/
theorem inSlice?_of_not_fitsWord {start : Int} {stop? : Option Int}
    (h : ¬ (FitsWord start ∧ ∀ stop ∈ stop?, FitsWord stop)) :
    inSlice? true s start stop? = inSlice? false s start stop? := by
  have herror {bound : Int} (hbound : ¬ FitsWord bound) :
      clampBound s.length bound = .error ⟨bound⟩ := if_neg hbound
  by_cases hstart : FitsWord start
  · cases stop? with
    | none => simp [hstart] at h
    | some stop =>
        have hstop : ¬ FitsWord stop := by simpa [hstart] using h
        simp only [inSlice?, herror hstop, clampBound_of_fitsWord hstart]
        rfl
  · simp only [inSlice?, herror hstart]
    rfl

/-- A minus sign in front of a digit, where signs are read, is the only place where two shapes fit:
numbers and operators. So the shapes can be tried in any order that has numbers before operators,
and in no other, and whether signs are read counts just where a slice starts with a minus sign and
a digit. -/
theorem fits_unique_but_minusDigit :
    (∀ (signed : Bool) (s : List Char), ¬ (signed ∧ MinusDigit s) →
      ∀ shape shape', Fits signed shape s → Fits signed shape' s → shape = shape') ∧
    (∀ s, MinusDigit s → ∀ shape, Fits true shape s ↔ shape = .number ∨ shape = .operator) ∧
    (∀ order : List Shape, order.Perm [.reference, .number, .operator, .parenthetical] →
      (inSliceIn? order = inSlice? ↔ order.idxOf .number < order.idxOf .operator)) ∧
    ∀ s start stop?, inSlice? true s start stop? ≠ inSlice? false s start stop? ↔
      (FitsWord start ∧ ∀ stop ∈ stop?, FitsWord stop) ∧
        MinusDigit (slice s (max 0 (min start s.length))
          (max 0 (min (stop?.getD s.length) s.length))) := by
  refine ⟨fun signed s hminus shape shape' hfit hfit' => hfit.unique hfit' hminus,
    fun s hminus shape => fits_iff_of_minusDigit hminus,
    fun order hperm => inSliceIn?_eq_inSlice?_iff hperm, fun s start stop? => ?_⟩
  by_cases hbounds : FitsWord start ∧ ∀ stop ∈ stop?, FitsWord stop
  · rw [inSlice?_of_fitsWord hbounds.1 hbounds.2, inSlice?_of_fitsWord hbounds.1 hbounds.2, ne_eq,
      Except.ok.injEq, ← ne_eq, first?_ne_iff]
    exact (and_iff_right hbounds).symm
  · exact iff_of_false (fun hne => hne (inSlice?_of_not_fitsWord hbounds)) fun h => hbounds h.1

/-- Groups are tried first, and numbers directly before operators. The slice ends behind the minus
sign and its digit, and as a slice of its own the digit is no operator. -/
theorem fits_unique_but_minusDigit_between :
    let order : List Shape := [.parenthetical, .reference, .number, .operator]
    (order.Perm [.reference, .number, .operator, .parenthetical] ∧
      order.idxOf .number < order.idxOf .operator ∧ inSliceIn? order = inSlice?) ∧
    (FitsWord 2 ∧ FitsWord 4 ∧ MinusDigit "-7".toList ∧
      inSlice? true "A1-7)".toList 2 (some 4) ≠ inSlice? false "A1-7)".toList 2 (some 4)) ∧
    (Fits true .number "-7".toList ∧ Fits true .operator "-7".toList) ∧
    ¬ (true ∧ MinusDigit "7".toList) ∧ Fits true .number "7".toList ∧
      ¬ Fits true .operator "7".toList := by
  intro order
  obtain ⟨hunique, hboth, horder, hsigns⟩ := fits_unique_but_minusDigit
  have hperm : order.Perm [.reference, .number, .operator, .parenthetical] := by decide
  have hminus : MinusDigit "-7".toList := ⟨'7', [], rfl, by decide⟩
  have hnot : ¬ (true ∧ MinusDigit "7".toList) := by simp [MinusDigit]
  have hseven : Fits true .number "7".toList :=
    (longest?_eq_some_iff.1 (show longest? true .number "7".toList = some ['7'] from rfl)).fits
  have hfour : ∀ stop ∈ some 4, FitsWord stop := by decide
  refine ⟨⟨hperm, by decide, (horder order hperm).2 (by decide)⟩,
    ⟨by decide, hfour 4 rfl, hminus, ?_⟩, ⟨(hboth _ hminus _).2 (.inl rfl),
      (hboth _ hminus _).2 (.inr rfl)⟩, hnot, hseven, fun hoperator => ?_⟩
  · exact (hsigns "A1-7)".toList 2 (some 4)).2 ⟨⟨by decide, hfour⟩, hminus⟩
  · have heq : Shape.number = .operator := hunique true _ hnot _ _ hseven hoperator
    contradiction

end Lexeme

end FormulaLexer
