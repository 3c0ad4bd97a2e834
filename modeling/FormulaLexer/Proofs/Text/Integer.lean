import FormulaLexer.Proofs.Text.Lines
import FormulaLexer.Text.Integer
import Mathlib.Data.List.TakeWhile

/-!
Integers in the digits of any script. A text is read as an integer exactly if it is written as one:
padding, a sign or none, digits with single underscores between them, and padding.
-/

namespace FormulaLexer.Text

/-! ### Digits -/

/-- The texts of digits of any script. Between two digits there may be an underscore. -/
inductive WritesDigits : List Char → List Nat → Prop
  | last {c : Char} {d : Nat} (hc : digitValue? c = some d) : WritesDigits [c] [d]
  | cons {c : Char} {d : Nat} {s : List Char} {digits : List Nat} (hc : digitValue? c = some d)
      (hs : WritesDigits s digits) : WritesDigits (c :: s) (d :: digits)
  | underscore {c : Char} {d : Nat} {s : List Char} {digits : List Nat}
      (hc : digitValue? c = some d) (hs : WritesDigits s digits) :
      WritesDigits (c :: '_' :: s) (d :: digits)

section

variable {s : List Char} {digits : List Nat}

theorem WritesDigits.head (h : WritesDigits s digits) :
    ∃ c rest d, s = c :: rest ∧ digitValue? c = some d := by
  cases h with
  | last hc => exact ⟨_, _, _, rfl, hc⟩
  | cons hc hs => exact ⟨_, _, _, rfl, hc⟩
  | underscore hc hs => exact ⟨_, _, _, rfl, hc⟩

theorem WritesDigits.getLast (h : WritesDigits s digits) :
    ∃ c d, s.getLast? = some c ∧ digitValue? c = some d := by
  induction h with
  | last hc => exact ⟨_, _, rfl, hc⟩
  | cons hc hs ih =>
      obtain ⟨c, d, hlast, hd⟩ := ih
      exact ⟨c, d, by simp [List.getLast?_cons, hlast], hd⟩
  | underscore hc hs ih =>
      obtain ⟨c, d, hlast, hd⟩ := ih
      exact ⟨c, d, by simp [List.getLast?_cons, hlast], hd⟩

theorem writesDigits_of_digitValues? (h : digitValues? s = some digits) :
    WritesDigits s digits := by
  fun_induction digitValues? s generalizing digits with
  | case1 => contradiction
  | case2 c =>
      obtain ⟨d, hd, rfl⟩ := Option.map_eq_some_iff.1 h
      exact .last hd
  | case3 c rest ih =>
      simp only [Option.bind_eq_bind, Option.bind_eq_some_iff, Option.pure_def,
        Option.some_inj] at h
      obtain ⟨d, hd, rest', hrest, rfl⟩ := h
      exact .underscore hd (ih hrest)
  | case4 c d rest _ ih =>
      simp only [Option.bind_eq_bind, Option.bind_eq_some_iff, Option.pure_def,
        Option.some_inj] at h
      obtain ⟨d, hd, rest', hrest, rfl⟩ := h
      exact .cons hd (ih hrest)

theorem WritesDigits.digitValues?_eq (h : WritesDigits s digits) :
    digitValues? s = some digits := by
  induction h with
  | last hc => simp [digitValues?, hc]
  | cons hc hs ih =>
      obtain ⟨x, rest, d, rfl, hx⟩ := hs.head
      have hne : x ≠ '_' := by
        rintro rfl
        contradiction
      simp [digitValues?, hc, ih]
  | underscore hc hs ih => simp [digitValues?, hc, ih]

end

/-! ### Padding -/

/-- The digits of all scripts stand apart from the blanks. -/
theorem isBlank_eq_false_of_digitValue? {c : Char} {d : Nat} (h : digitValue? c = some d) :
    isBlank c = false := by
  have hall : scriptZeros.all (fun first => blankRanges.all fun range =>
      first + 9 < range.1 || range.2 < first) := by decide +kernel
  obtain ⟨first, hfind, -⟩ := Option.map_eq_some_iff.1 h
  have hfirst := List.find?_some hfind
  have hranges := List.all_eq_true.1 hall first (List.mem_of_find?_eq_some hfind)
  rw [Bool.eq_false_iff, isBlank, ne_eq, Ranges.has_iff]
  rintro ⟨range, hmem, hlow, hhigh⟩
  have hapart := List.all_eq_true.1 hranges range hmem
  simp only [Bool.or_eq_true, Bool.and_eq_true, decide_eq_true_eq] at hfirst hapart
  omega

theorem isPadding_eq_false_of_digitValue? {c : Char} {d : Nat} (h : digitValue? c = some d) :
    isPadding c = false := by
  rw [isPadding, isBlank_eq_false_of_digitValue? h, Bool.false_and]

section

variable {p : Char → Bool}

/-- What is dropped at both ends of a text has the property. -/
theorem exists_trimWhere (p : Char → Bool) (s : List Char) :
    ∃ front back, s = front ++ trimWhere p s ++ back ∧ ∀ c ∈ front ++ back, p c := by
  refine ⟨s.takeWhile p, ((s.dropWhile p).reverse.takeWhile p).reverse, ?_, ?_⟩
  · rw [trimWhere, List.append_assoc, ← List.reverse_append, List.takeWhile_append_dropWhile,
      List.reverse_reverse, List.takeWhile_append_dropWhile]
  · intro c hc
    rcases List.mem_append.1 hc with hc | hc
    · exact List.mem_takeWhile_imp hc
    · exact List.mem_takeWhile_imp (List.mem_reverse.1 hc)

theorem trimWhere_append {front s back : List Char} (hfront : ∀ c ∈ front, p c)
    (hback : ∀ c ∈ back, p c) (hne : s ≠ []) (hhead : ∀ c ∈ s.head?, p c = false)
    (hlast : ∀ c ∈ s.getLast?, p c = false) : trimWhere p (front ++ s ++ back) = s := by
  obtain ⟨c, rest, rfl⟩ := List.exists_cons_of_ne_nil hne
  have hdrop : (c :: rest ++ back).dropWhile p = c :: rest ++ back :=
    List.dropWhile_cons_of_neg (by simp [hhead c rfl])
  have htrim : trimWhere p (c :: rest) = c :: rest := trimWhere_eq_self hhead hlast
  rw [List.append_assoc, trimWhere, List.dropWhile_append_of_pos hfront, hdrop,
    List.reverse_append, List.dropWhile_append_of_pos fun c hc => hback c (List.mem_reverse.1 hc)]
  have hself : (c :: rest).dropWhile p = c :: rest :=
    List.dropWhile_cons_of_neg (by simp [hhead c rfl])
  rwa [trimWhere, hself] at htrim

end

/-! ### Integers -/

/-- A sign, or none, with the factor that it stands for. -/
inductive Sign : List Char → Int → Prop
  | none : Sign [] 1
  | plus : Sign ['+'] 1
  | minus : Sign ['-'] (-1)

/-- The texts of integers: padding, a sign or none, digits of any script, and padding. There are
not more than 4300 digits. -/
inductive WritesInteger : List Char → Int → Prop
  | mk {front sign s back : List Char} {factor : Int} {digits : List Nat}
      (hfront : ∀ c ∈ front, isPadding c) (hback : ∀ c ∈ back, isPadding c)
      (hsign : Sign sign factor) (hs : WritesDigits s digits)
      (hlength : digits.length ≤ 4300) :
      WritesInteger (front ++ (sign ++ s) ++ back) (factor * ofDigitValues digits)

variable {s : List Char}

theorem natural?_eq_some_iff {n : Nat} : natural? s = some n ↔
    ∃ digits, WritesDigits s digits ∧ digits.length ≤ 4300 ∧ n = ofDigitValues digits := by
  simp only [natural?, Option.bind_eq_bind, Option.bind_eq_some_iff]
  constructor
  · rintro ⟨digits, hdigits, h⟩
    split at h
    · next hlength =>
        cases h
        exact ⟨digits, writesDigits_of_digitValues? hdigits, hlength, rfl⟩
    · contradiction
  · rintro ⟨digits, hdigits, hlength, rfl⟩
    exact ⟨digits, hdigits.digitValues?_eq, if_pos hlength⟩

theorem signed?_of_digit {c : Char} {rest : List Char} {d : Nat} (hc : digitValue? c = some d) :
    signed? (c :: rest) = (natural? (c :: rest)).map Int.ofNat := by
  have hminus : c ≠ '-' := by
    rintro rfl
    contradiction
  have hplus : c ≠ '+' := by
    rintro rfl
    contradiction
  simp [signed?, hminus, hplus]

theorem signed?_eq_some_iff {n : Int} : signed? s = some n ↔
    ∃ sign rest factor digits, s = sign ++ rest ∧ Sign sign factor ∧ WritesDigits rest digits ∧
      digits.length ≤ 4300 ∧ n = factor * ofDigitValues digits := by
  constructor
  · intro h
    unfold signed? at h
    split at h
    · simp only [Option.bind_eq_bind, Option.map_eq_some_iff, Option.bind_eq_some_iff,
        Option.pure_def, Option.some_inj] at h
      obtain ⟨_, ⟨m, hm, rfl⟩, rfl⟩ := h
      obtain ⟨digits, hdigits, hlength, rfl⟩ := natural?_eq_some_iff.1 hm
      exact ⟨_, _, _, digits, rfl, .minus, hdigits, hlength, by simp⟩
    · obtain ⟨m, hm, rfl⟩ := Option.map_eq_some_iff.1 h
      obtain ⟨digits, hdigits, hlength, rfl⟩ := natural?_eq_some_iff.1 hm
      exact ⟨_, _, _, digits, rfl, .plus, hdigits, hlength, by simp⟩
    · obtain ⟨m, hm, rfl⟩ := Option.map_eq_some_iff.1 h
      obtain ⟨digits, hdigits, hlength, rfl⟩ := natural?_eq_some_iff.1 hm
      exact ⟨_, _, _, digits, rfl, .none, hdigits, hlength, by simp⟩
  · rintro ⟨sign, rest, factor, digits, rfl, hsign, hdigits, hlength, rfl⟩
    have hnatural := natural?_eq_some_iff.2 ⟨digits, hdigits, hlength, rfl⟩
    cases hsign with
    | none =>
        obtain ⟨c, rest, d, rfl, hc⟩ := hdigits.head
        rw [List.nil_append, signed?_of_digit hc, hnatural, Option.map_some]
        simp
    | plus => simp [signed?, hnatural]
    | minus => simp [signed?, hnatural]

/-- Neither a sign nor a digit is padding. -/
theorem trimWhere_signed {front sign rest back : List Char} {factor : Int} {digits : List Nat}
    (hfront : ∀ c ∈ front, isPadding c) (hback : ∀ c ∈ back, isPadding c)
    (hsign : Sign sign factor) (hrest : WritesDigits rest digits) :
    trimWhere isPadding (front ++ (sign ++ rest) ++ back) = sign ++ rest := by
  obtain ⟨c, rest', d, hcons, hc⟩ := hrest.head
  obtain ⟨c', d', hlast, hc'⟩ := hrest.getLast
  refine trimWhere_append hfront hback ?_ ?_ ?_
  · simp [hcons]
  · rw [hcons]
    cases hsign with
    | none =>
        rintro _ ⟨⟩
        exact isPadding_eq_false_of_digitValue? hc
    | plus =>
        rintro _ ⟨⟩
        decide
    | minus =>
        rintro _ ⟨⟩
        decide
  · rw [List.getLast?_append, hlast]
    rintro _ ⟨⟩
    exact isPadding_eq_false_of_digitValue? hc'

/-- A text is read as an integer exactly if it is written as one. -/
theorem integer?_eq_some_iff {n : Int} : integer? s = some n ↔ WritesInteger s n := by
  rw [integer?, signed?_eq_some_iff]
  constructor
  · rintro ⟨sign, rest, factor, digits, htrim, hsign, hdigits, hlength, rfl⟩
    obtain ⟨front, back, hs, hpadding⟩ := exists_trimWhere isPadding s
    rw [hs, htrim]
    exact .mk (fun c hc => hpadding c (List.mem_append_left back hc))
      (fun c hc => hpadding c (List.mem_append_right front hc)) hsign hdigits hlength
  · rintro ⟨hfront, hback, hsign, hdigits, hlength⟩
    exact ⟨_, _, _, _, trimWhere_signed hfront hback hsign hdigits, hsign, hdigits, hlength, rfl⟩

end FormulaLexer.Text
