import FormulaLexer.Proofs.Text.Decimal
import FormulaLexer.Text.Numeral
import Mathlib.Data.List.TakeWhile

/-!
Decimal forms as arguments: what is written for a number is read as that number.
-/

namespace FormulaLexer.Text

/-- Only the decimal form of zero starts with a zero. -/
theorem head_toString {n : Nat} (hn : n ≠ 0) : ∀ c ∈ (toString n).toList.head?, c ≠ '0' := by
  rw [Nat.toString_eq_ofList_toDigits, String.toList_ofList]
  induction n using Nat.strongRecOn with
  | ind n ih =>
      by_cases hdigit : n < 10
      · have hdigits : ∀ n < 10, n ≠ 0 → Nat.digitChar n ≠ '0' := by decide
        rw [Nat.toDigits_of_lt_base hdigit]
        rintro c hc
        cases hc
        exact hdigits n hdigit hn
      · have hhead := ih (n / 10) (by omega) (by omega)
        rw [Nat.toDigits_of_base_le (by decide) (Nat.le_of_not_lt hdigit)]
        cases hdigits : Nat.toDigits 10 (n / 10) with
        | nil => exact absurd hdigits Nat.toDigits_ne_nil
        | cons c rest =>
            rw [hdigits] at hhead
            exact hhead

theorem ne_of_isDigit {c d : Char} (hc : isDigit c) (hd : isDigit d = false) : c ≠ d := by
  rintro rfl
  rw [hc] at hd
  contradiction

namespace Numeral

section

variable {c : Char} {rest : List Char}

/-- Digits without a zero in front are their own plain form. -/
theorem plain?_of_isDigit (hzero : c ≠ '0') (hdigit : ∀ x ∈ c :: rest, isDigit x) :
    plain? (c :: rest) = some (c :: rest) := by
  have hc := hdigit c List.mem_cons_self
  have hminus := ne_of_isDigit hc (d := '-') (by decide)
  have hplus := ne_of_isDigit hc (d := '+') (by decide)
  have hunsign : unsign? (c :: rest) = some (false, c :: rest) := by
    simp [unsign?, hminus, hplus]
  have hzeros : withoutZeros? (c :: rest) = some (c :: rest) := by
    simp [withoutZeros?, hzero, hc]
  have hfraction : withoutFraction (c :: rest) = c :: rest := by
    have hpoint : (c :: rest).dropWhile (· != '.') = [] := List.dropWhile_eq_nil_iff.2 fun x hx =>
      bne_iff_ne.2 (ne_of_isDigit (hdigit x hx) (by decide))
    simp only [withoutFraction, hpoint]
  have hunderscores : withoutUnderscores (c :: rest) = c :: rest := by
    rw [withoutUnderscores]
    split
    · rfl
    · refine List.filter_eq_self.2 fun x hx => bne_iff_ne.2 ?_
      exact ne_of_isDigit (hdigit x hx) (by decide)
  simp [plain?, trimWhere_of_isDigit hdigit, hunsign, hzeros, hfraction, hunderscores]

theorem read_of_isDigit (hzero : c ≠ '0') (hdigit : ∀ x ∈ c :: rest, isDigit x)
    (hlength : (c :: rest).length ≤ maxDigits) :
    read (c :: rest) = .ok (ofDigits (c :: rest)) := by
  have hc := hdigit c List.mem_cons_self
  have hminus := ne_of_isDigit hc (d := '-') (by decide)
  have htake : (c :: rest).takeWhile isDigit = c :: rest := List.takeWhile_eq_self_iff.2 hdigit
  have hlong : startsTooLong (c :: rest) = false := by
    have hsigned : withoutMinus (c :: rest) = c :: rest := by simp [withoutMinus, hminus]
    have hlong : ¬ maxDigits < (c :: rest).length := Nat.not_lt.2 hlength
    simp only [startsTooLong, hsigned, htake, hlong, decide_false, Bool.and_false]
  have hmagnitude : magnitude? (c :: rest) = some (ofDigits (c :: rest)) := by
    have hdigits : (c :: rest).all isDigit := List.all_eq_true.2 hdigit
    have hhead : (c :: rest).head?.any (· != '0') := bne_iff_ne.2 hzero
    have hne : c :: rest ≠ ['0'] := fun h => hzero (List.cons.inj h).1
    rw [magnitude?, if_neg hne, if_pos]
    simp only [hdigits, hhead, decide_eq_true hlength, Bool.and_true]
  have hplain : ofPlain? (c :: rest) = some (ofDigits (c :: rest) : Int) := by
    simp [ofPlain?, hminus, hmagnitude]
  rw [read, hlong, plain?_of_isDigit hzero hdigit, Option.bind_some, hplain]
  rfl

end

/-- The decimal form of a number is read as that number. -/
theorem read_toString {n : Nat} (hlength : (toString n).toList.length ≤ maxDigits) :
    read (toString n).toList = .ok n := by
  by_cases hn : n = 0
  · subst hn
    rfl
  have hdigit : ∀ c ∈ (toString n).toList, isDigit c := fun c => isDigit_of_mem_toString
  have hzero := head_toString hn
  have hvalue := ofDigits_toString n
  cases hs : (toString n).toList with
  | nil => exact absurd hs (toString_toList_ne_nil n)
  | cons c rest =>
      rw [hs] at hdigit hzero hvalue hlength
      rw [read_of_isDigit (hzero c rfl) hdigit hlength, hvalue]

end Numeral

end FormulaLexer.Text
