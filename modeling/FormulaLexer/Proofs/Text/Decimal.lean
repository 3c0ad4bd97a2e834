import FormulaLexer.Lexer.DepthLimit
import FormulaLexer.Proofs.Text.Classes
import FormulaLexer.Proofs.Text.Integer
import Mathlib.Algebra.Group.Nat.Defs

/-!
Decimal forms. The decimal form of a number is read as that number, as a setting and as an
argument, and no two integers have the same one.
-/

namespace FormulaLexer

namespace Text

/-! ### Digits -/

theorem isDigit_of_mem_toString {n : Nat} {c : Char} (h : c ∈ (toString n).toList) :
    isDigit c := by
  rw [Nat.toString_eq_ofList_toDigits, String.toList_ofList] at h
  have hdigit := Nat.isDigit_of_mem_toDigits (by decide) (by decide) h
  rw [Char.isDigit_iff_toNat] at hdigit
  exact isDigit_iff.2 hdigit

theorem toString_toList_ne_nil (n : Nat) : (toString n).toList ≠ [] := by
  rw [Nat.toString_eq_ofList_toDigits, String.toList_ofList]
  exact Nat.toDigits_ne_nil

theorem length_toString_le {n k : Nat} (hk : 0 < k) (h : n < 10 ^ k) :
    (toString n).toList.length ≤ k := by
  rw [Nat.toString_eq_ofList_toDigits, String.toList_ofList]
  exact (Nat.length_toDigits_le_iff (by decide) hk).2 h

theorem ofDigits_toString (n : Nat) : ofDigits (toString n).toList = n := by
  rw [Nat.toString_eq_ofList_toDigits, String.toList_ofList, ofDigits, ofDigitValues,
    List.foldl_map]
  exact Nat.ofDigitChars_toDigits (by decide) (by decide)

theorem decimal_negSucc (n : Nat) :
    decimal (Int.negSucc n) = '-' :: (toString (n + 1)).toList := by
  show ("-" ++ toString (n + 1)).toList = _
  rw [String.toList_append]
  rfl

theorem mem_decimal {n : Int} {c : Char} (h : c ∈ decimal n) : isDigit c ∨ c = '-' := by
  cases n with
  | ofNat n => exact .inl (isDigit_of_mem_toString h)
  | negSucc n =>
      rw [decimal_negSucc] at h
      rcases List.mem_cons.1 h with rfl | h
      · exact .inr rfl
      · exact .inl (isDigit_of_mem_toString h)

theorem not_mem_decimal {c : Char} (hdigit : isDigit c = false) (hminus : c ≠ '-') (n : Int) :
    c ∉ decimal n := by
  intro h
  rcases mem_decimal h with h | h
  · rw [hdigit] at h
    contradiction
  · exact hminus h

/-- The integer that a decimal form is written for. -/
def ofDecimal : List Char → Int
  | '-' :: digits => -(ofDigits digits : Int)
  | digits => ofDigits digits

theorem ofDecimal_decimal (n : Int) : ofDecimal (decimal n) = n := by
  cases n with
  | ofNat n =>
      have hsign : ∀ rest, (toString n).toList ≠ '-' :: rest := fun rest heq => by
        have hdigit := isDigit_of_mem_toString (heq ▸ List.mem_cons_self)
        exact absurd hdigit (by decide)
      show ofDecimal (toString n).toList = n
      rw [ofDecimal.eq_2 _ hsign, ofDigits_toString]
  | negSucc n =>
      rw [decimal_negSucc, ofDecimal, ofDigits_toString]
      rfl

theorem decimal_injective : Function.Injective decimal :=
  Function.LeftInverse.injective ofDecimal_decimal

theorem digitValue?_of_isDigit {c : Char} (h : isDigit c) :
    digitValue? c = some (asciiDigitValue c) := by
  have hrange := isDigit_iff.1 h
  have hzeros : scriptZeros = 0x30 :: scriptZeros.tail := rfl
  rw [digitValue?, hzeros, List.find?_cons_of_pos]
  · rfl
  · rw [Bool.and_eq_true, decide_eq_true_eq, decide_eq_true_eq]
    omega

theorem writesDigits_of_isDigit {digits : List Char} (hne : digits ≠ [])
    (h : ∀ c ∈ digits, isDigit c) : WritesDigits digits (digits.map asciiDigitValue) := by
  induction digits with
  | nil => contradiction
  | cons c digits ih =>
      obtain ⟨hc, hdigits⟩ := List.forall_mem_cons.1 h
      have hvalue := digitValue?_of_isDigit hc
      cases digits with
      | nil => exact .last hvalue
      | cons d digits => exact .cons hvalue (ih (List.cons_ne_nil d digits) hdigits)

/-! ### Settings -/

theorem isBlank_eq_false_of_isDigit {c : Char} (h : isDigit c) : isBlank c = false := by
  have hrange := isDigit_iff.1 h
  exact isBlank_eq_false (by omega) (by omega)

theorem isPadding_eq_false_of_isDigit {c : Char} (h : isDigit c) : isPadding c = false := by
  rw [isPadding, isBlank_eq_false_of_isDigit h, Bool.false_and]

/-- Nothing is taken off the ends of digits. -/
theorem trimWhere_of_isDigit {s : List Char} (h : ∀ c ∈ s, isDigit c) :
    trimWhere isPadding s = s :=
  trimWhere_eq_self (fun c hc => isPadding_eq_false_of_isDigit (h c (List.mem_of_mem_head? hc)))
    fun c hc => isPadding_eq_false_of_isDigit (h c (List.mem_of_getLast? hc))

theorem integer?_toString {n : Nat} (hlength : (toString n).toList.length ≤ maxDigits) :
    integer? (toString n).toList = some (n : Int) := by
  have hdigits := writesDigits_of_isDigit (toString_toList_ne_nil n) fun c =>
    isDigit_of_mem_toString
  have hvalue := ofDigits_toString n
  rw [ofDigits] at hvalue
  have hwritten := WritesInteger.mk (List.forall_mem_nil _) (List.forall_mem_nil _) .none hdigits
    (by rwa [List.length_map])
  rw [hvalue, Int.one_mul] at hwritten
  rw [integer?_eq_some_iff]
  simpa using hwritten

end Text

/-! ### Limits -/

/-- The decimal form of a limit is short enough to be read. -/
theorem DepthLimit.length_toString_le (limit : DepthLimit) :
    (toString limit.value).toList.length ≤ Text.maxDigits := by
  have hhighest : highest < 10 ^ 3 := by decide
  have hlength := Text.length_toString_le (by decide)
    (Nat.lt_of_le_of_lt limit.value_le_highest hhighest)
  exact Nat.le_trans hlength (by decide)

end FormulaLexer
