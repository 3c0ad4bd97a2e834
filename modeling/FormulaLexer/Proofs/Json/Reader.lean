import FormulaLexer.Proofs.Json.Grammar
import FormulaLexer.Proofs.Text.Numeral

/-!
The reader reads each text of the grammar, and gives the value that the text stands for.
-/

namespace FormulaLexer.Json

open Text

variable {s rest : List Char}

/-! ### Space and marks -/

theorem isSpaces_nil : IsSpaces [] := List.forall_mem_nil _

theorem IsSpaces.skipSpace_append (h : IsSpaces s) (rest : List Char) :
    skipSpace (s ++ rest) = skipSpace rest :=
  List.dropWhile_append_of_pos h

theorem IsSpaces.skipSpace_eq_nil (h : IsSpaces s) : skipSpace s = [] :=
  List.dropWhile_eq_nil_iff.2 h

theorem skipSpace_cons {c : Char} (hc : isSpace c = false) (rest : List Char) :
    skipSpace (c :: rest) = c :: rest :=
  List.dropWhile_cons_of_neg (by simp [hc])

theorem IsSpaces.mark? (h : IsSpaces s) (mark : Char) (hmark : isSpace mark = false)
    (rest : List Char) : mark? mark (s ++ mark :: rest) = some rest := by
  rw [Json.mark?, h.skipSpace_append, skipSpace_cons hmark]
  exact if_pos rfl

theorem IsSpaces.mark?_of_ne {mark c : Char} (h : IsSpaces s) (hc : isSpace c = false)
    (hne : c ≠ mark) (rest : List Char) : Json.mark? mark (s ++ c :: rest) = none := by
  rw [Json.mark?, h.skipSpace_append, skipSpace_cons hc]
  exact if_neg hne

/-! ### Strings -/

theorem UnitText.unit? {unit : Nat} (h : UnitText s unit) (rest : List Char) :
    unit? (s ++ rest) = some (unit, rest) := by
  obtain ⟨ha, hb, hc, hd⟩ := h
  simp [Json.unit?, ha, hb, hc, hd]

theorem LetterEscape.escape? {letter c : Char} (h : LetterEscape letter c) (rest : List Char) :
    escape? (letter :: rest) = some (c, rest) := by
  cases h <;> rfl

/-- A character is no half of a surrogate pair. -/
theorem isSurrogate_toNat (c : Char) :
    isHighSurrogate c.toNat = false ∧ isLowSurrogate c.toNat = false := by
  have hvalid : c.toNat < 0xD800 ∨ 0xDFFF < c.toNat ∧ c.toNat < 0x110000 := c.valid
  simp only [isHighSurrogate, isLowSurrogate, Bool.and_eq_false_iff, decide_eq_false_iff_not]
  omega

theorem UnitText.escape? {c : Char} (h : UnitText s c.toNat) (rest : List Char) :
    escape? ('u' :: (s ++ rest)) = some (c, rest) := by
  obtain ⟨hhigh, hlow⟩ := isSurrogate_toNat c
  rw [Json.escape?, if_pos rfl, h.unit?]
  simp [hhigh, hlow]

theorem UnitText.lowSurrogate? {low : Nat} (h : UnitText s low)
    (hlow : 0xDC00 ≤ low ∧ low < 0xE000) (rest : List Char) :
    lowSurrogate? ('\\' :: 'u' :: (s ++ rest)) = some (low, rest) := by
  simp [Json.lowSurrogate?, h.unit?, Option.filter, isLowSurrogate, hlow]

theorem UnitText.escape?_pair {first second : List Char} {high low : Nat} {c : Char}
    (hfirst : UnitText first high) (hsecond : UnitText second low)
    (hhigh : 0xD800 ≤ high ∧ high < 0xDC00) (hlow : 0xDC00 ≤ low ∧ low < 0xE000)
    (hc : c.toNat = 0x10000 + (high - 0xD800) * 0x400 + (low - 0xDC00)) (rest : List Char) :
    Json.escape? ('u' :: (first ++ '\\' :: 'u' :: (second ++ rest))) = some (c, rest) := by
  have hjoin : joinSurrogates high low = c := by rw [joinSurrogates, ← hc, Char.ofNat_toNat]
  have hhalf : isHighSurrogate high := by simp [isHighSurrogate, hhigh]
  rw [Json.escape?, if_pos rfl, hfirst.unit?]
  simp [hhalf, hsecond.lowSurrogate? hlow, hjoin]

theorem stringRest?_escape {c : Char} (h : escape? s = some (c, rest)) (before : List Char) :
    stringRest? before ('\\' :: s) = stringRest? (c :: before) rest := by
  rw [stringRest?, if_neg (by decide), if_pos rfl]
  split
  · next hnone =>
      rw [hnone] at h
      contradiction
  · next hsome =>
      rw [hsome] at h
      cases h
      rfl

/-- One character of a string is read. -/
theorem CharText.stringRest? {c : Char} (h : CharText s c) (before rest : List Char) :
    stringRest? before (s ++ rest) = stringRest? (c :: before) rest := by
  cases h with
  | plain hquote hbackslash hcontrol =>
      rw [List.singleton_append, Json.stringRest?, if_neg hquote, if_neg hbackslash,
        if_neg (Nat.not_lt.2 hcontrol)]
  | letter hletter => exact stringRest?_escape (hletter.escape? rest) before
  | unit hunit => exact stringRest?_escape (hunit.escape? rest) before
  | pair hfirst hsecond hhigh hlow hc =>
      simp only [List.cons_append, List.append_assoc]
      exact stringRest?_escape (hfirst.escape?_pair hsecond hhigh hlow hc rest) before

theorem CharsText.stringRest? {cs : List Char} (h : CharsText s cs) (before rest : List Char) :
    stringRest? before (s ++ '"' :: rest) = some (String.ofList (before.reverse ++ cs), rest) := by
  induction h generalizing before with
  | nil => rw [List.nil_append, Json.stringRest?, if_pos rfl, List.append_nil]
  | cons hc hcs ih => simp [List.append_assoc, hc.stringRest?, ih]

/-! ### Numbers -/

/-- What stands behind a value does not go on with a number. -/
def Ends (rest : List Char) : Prop :=
  ∀ c ∈ rest.head?, isDigit c = false ∧ c ≠ '.' ∧ c ≠ 'e' ∧ c ≠ 'E'

theorem Ends.nil : Ends [] := by
  simp [Ends]

theorem Ends.cons {c : Char} (hc : isDigit c = false ∧ c ≠ '.' ∧ c ≠ 'e' ∧ c ≠ 'E')
    (rest : List Char) : Ends (c :: rest) := by
  rintro _ ⟨⟩
  exact hc

theorem IsSpaces.ends_append (h : IsSpaces s) (hrest : Ends rest) : Ends (s ++ rest) := by
  cases s with
  | nil => exact hrest
  | cons c s =>
      have hc := h c List.mem_cons_self
      have hspace : c = ' ' ∨ c = '\t' ∨ c = '\n' ∨ c = '\r' := by
        simpa [isSpace, or_assoc] using hc
      rcases hspace with rfl | rfl | rfl | rfl <;> exact Ends.cons (by decide) _

theorem IsDigits.digits? (h : IsDigits s) (hrest : ∀ c ∈ rest.head?, isDigit c = false) :
    digits? (s ++ rest) = some (s, rest) := by
  have hne := h.ne_nil
  rw [Json.digits?, takeWhile_append_eq h.all_digits hrest, dropWhile_append_eq h.all_digits hrest]
  simp [hne]

theorem IsWhole.wholePart? (h : IsWhole s) (hrest : ∀ c ∈ rest.head?, isDigit c = false) :
    wholePart? (s ++ rest) = some (s, rest) := by
  rw [Json.wholePart?, h.toIsDigits.digits? hrest, Option.filter_some, if_pos]
  by_cases hzero : s.head? = some '0'
  · simp [h.eq_zero hzero]
  · simp [hzero]

theorem fraction?_of_no_point (h : ∀ c ∈ s.head?, c ≠ '.') : fraction? s = some ([], s) := by
  rw [fraction?]
  rintro t rfl
  exact h '.' rfl rfl

theorem exponent?_of_no_mark (h : ∀ c ∈ s.head?, c ≠ 'e' ∧ c ≠ 'E') :
    exponent? s = some (none, s) := by
  cases s with
  | nil => rfl
  | cons c s =>
      obtain ⟨he, hE⟩ := h c rfl
      simp [exponent?, he, hE]

theorem head_point (rest : List Char) : ∀ c ∈ ('.' :: rest).head?, isDigit c = false := by
  rintro _ ⟨⟩
  rfl

theorem PowerText.head {n : Int} (h : PowerText s n) (rest : List Char) :
    ∀ c ∈ (s ++ rest).head?, isDigit c = false ∧ c ≠ '.' := by
  obtain ⟨hmark, -, -⟩ := h
  rintro _ ⟨⟩
  rcases hmark with rfl | rfl <;> exact ⟨rfl, by decide⟩

theorem power?_append {sign digits : List Char} {factor : Int} (hsign : Sign sign factor)
    (hdigits : IsDigits digits) (hrest : ∀ c ∈ rest.head?, isDigit c = false) :
    power? (sign ++ (digits ++ rest)) = some (factor * ofDigits digits, rest) := by
  have hread := hdigits.digits? hrest
  cases hsign with
  | plus =>
      show (Json.digits? (digits ++ rest)).map _ = _
      rw [hread, Option.map_some, Int.one_mul]
  | minus =>
      show (Json.digits? (digits ++ rest)).map _ = _
      rw [hread, Option.map_some, Int.neg_one_mul]
  | none =>
      obtain ⟨c, digits, rfl⟩ := List.exists_cons_of_ne_nil hdigits.ne_nil
      have hc := hdigits.all_digits c List.mem_cons_self
      rw [List.nil_append, power?, hread, Option.map_some, Int.one_mul]
      · rintro t heq
        cases heq
        contradiction
      · rintro t heq
        cases heq
        contradiction

theorem PowerText.exponent? {n : Int} (h : PowerText s n)
    (hrest : ∀ c ∈ rest.head?, isDigit c = false) :
    exponent? (s ++ rest) = some (some n, rest) := by
  obtain ⟨hmark, hsign, hdigits⟩ := h
  have hread := power?_append hsign hdigits hrest
  rw [List.cons_append, List.append_assoc]
  rcases hmark with rfl | rfl <;> simp [Json.exponent?, hread]

/-- What follows a number leaves each of its parts as it is. -/
theorem NaturalText.natural? {value : Json} (h : NaturalText s value) (hrest : Ends rest) :
    natural? (s ++ rest) = some (value, rest) := by
  have hdigit : ∀ c ∈ rest.head?, isDigit c = false := fun c hc => (hrest c hc).1
  have hpoint := fraction?_of_no_point fun c hc => (hrest c hc).2.1
  have hmark := exponent?_of_no_mark fun c hc => (hrest c hc).2.2
  cases h with
  | whole hwhole => simp [Json.natural?, hwhole.wholePart? hdigit, hpoint, hmark]
  | @fraction whole fraction hwhole hfraction =>
      have hne := hfraction.ne_nil
      have hread := hwhole.wholePart? (head_point (fraction ++ rest))
      have hread' : fraction? ('.' :: (fraction ++ rest)) = some (fraction, rest) :=
        hfraction.digits? hdigit
      simp [Json.natural?, hread, hread', hmark, hne]
  | @power whole power n hwhole hpower =>
      have hread := hwhole.wholePart? fun c hc => (hpower.head rest c hc).1
      have hread' := fraction?_of_no_point fun c hc => (hpower.head rest c hc).2
      simp [Json.natural?, hread, hread', hpower.exponent? hdigit]
  | @fractionPower whole fraction power n hwhole hfraction hpower =>
      have hne := hfraction.ne_nil
      have hread := hwhole.wholePart? (head_point (fraction ++ (power ++ rest)))
      have hread' : fraction? ('.' :: (fraction ++ (power ++ rest))) =
          some (fraction, power ++ rest) :=
        hfraction.digits? fun c hc => (hpower.head rest c hc).1
      simp [Json.natural?, hread, hread', hpower.exponent? hdigit, hne]

/-- The first character of a number without a sign is a digit. -/
theorem NaturalText.head {value : Json} (h : NaturalText s value) :
    ∃ c t, s = c :: t ∧ isDigit c := by
  have hcons {whole : List Char} (hwhole : IsWhole whole) (t : List Char) :
      ∃ c t', whole ++ t = c :: t' ∧ isDigit c := by
    obtain ⟨c, digits, rfl⟩ := List.exists_cons_of_ne_nil hwhole.ne_nil
    exact ⟨c, digits ++ t, rfl, hwhole.all_digits c List.mem_cons_self⟩
  cases h with
  | whole hwhole => simpa using hcons hwhole []
  | fraction hwhole hfraction => exact hcons hwhole _
  | power hwhole hpower => exact hcons hwhole _
  | fractionPower hwhole hfraction hpower => exact hcons hwhole _

theorem NumberText.head {value : Json} (h : NumberText s value) :
    ∃ c t, s = c :: t ∧ (isDigit c ∨ c = '-') := by
  cases h with
  | natural hnatural =>
      obtain ⟨c, t, hs, hc⟩ := hnatural.head
      exact ⟨c, t, hs, .inl hc⟩
  | opposite hnatural => exact ⟨'-', _, rfl, .inr rfl⟩

theorem NumberText.number? {value : Json} (h : NumberText s value) (hrest : Ends rest) :
    number? (s ++ rest) = some (value, rest) := by
  cases h with
  | natural hnatural =>
      obtain ⟨c, t, rfl, hc⟩ := hnatural.head
      rw [Json.number?, hnatural.natural? hrest]
      rintro t' heq
      cases heq
      contradiction
  | opposite hnatural =>
      rw [List.cons_append, Json.number?, hnatural.natural? hrest, Option.map_some]

/-! ### Steps of the reader -/

theorem value?_skipSpace {front : List Char} (hfront : IsSpaces front) (fuel : Nat) :
    value? fuel (front ++ s) = value? fuel s := by
  cases fuel with
  | zero => rfl
  | succ fuel => rw [value?, value?, hfront.skipSpace_append]

/-- A field of an object is read, with its name, its colon and its value. -/
inductive ReadsMember (fuel : Nat) : List Char → String × Json → List Char → Prop
  | mk {s behindQuote behindName behindColon rest : List Char} {name : String} {value : Json}
      (hquote : mark? '"' s = some behindQuote)
      (hname : stringRest? [] behindQuote = some (name, behindName))
      (hcolon : mark? ':' behindName = some behindColon)
      (hvalue : value? fuel behindColon = some (value, rest)) :
      ReadsMember fuel s (name, value) rest

section

variable {fuel : Nat} {back : List Char} {value : Json} {field : String × Json}

/-- What starts a number starts nothing else. -/
theorem ne_of_startsNumber {c : Char} (hc : isDigit c ∨ c = '-') (d : Char)
    (hd : isDigit d = false ∧ d ≠ '-') : c ≠ d := by
  rintro rfl
  rcases hc with hc | hc
  · exact ne_of_isDigit hc hd.1 rfl
  · exact hd.2 hc

theorem isSpace_of_startsNumber {c : Char} (hc : isDigit c ∨ c = '-') : isSpace c = false := by
  have hne := ne_of_startsNumber hc
  simp [isSpace, hne ' ' (by decide), hne '\t' (by decide), hne '\n' (by decide),
    hne '\r' (by decide)]

theorem value?_number {c : Char} (hc : isDigit c ∨ c = '-') (fuel : Nat) (s : List Char) :
    value? (fuel + 1) (c :: s) = number? (c :: s) := by
  have hne := ne_of_startsNumber hc
  rw [value?, skipSpace_cons (isSpace_of_startsNumber hc)]
  simp [hne '"' (by decide), hne '[' (by decide), hne '\x7b' (by decide), hne 'n' (by decide),
    hne 't' (by decide), hne 'f' (by decide)]

theorem value?_string (fuel : Nat) (s : List Char) :
    value? (fuel + 1) ('"' :: s) = (stringRest? [] s).map fun (text, s) => (str text, s) :=
  rfl

theorem value?_list (fuel : Nat) (s : List Char) :
    value? (fuel + 1) ('[' :: s) =
      match mark? ']' s with
      | some s => some (arr [], s)
      | none => items? fuel [] s :=
  rfl

theorem value?_object (fuel : Nat) (s : List Char) :
    value? (fuel + 1) ('\x7b' :: s) =
      match mark? '\x7d' s with
      | some s => some (obj [], s)
      | none => fields? fuel [] s :=
  rfl

theorem items?_last {before : List Json} (hback : IsSpaces back)
    (h : value? fuel s = some (value, back ++ ']' :: rest)) :
    items? (fuel + 1) before s = some (arr (before.reverse ++ [value]), rest) := by
  have hcomma : mark? ',' (back ++ ']' :: rest) = none := hback.mark?_of_ne rfl (by decide) rest
  simp [items?, h, hcomma, hback.mark? ']' rfl]

theorem items?_more {before : List Json} (hback : IsSpaces back)
    (h : value? fuel s = some (value, back ++ ',' :: rest)) :
    items? (fuel + 1) before s = items? fuel (value :: before) rest := by
  simp [items?, h, hback.mark? ',' rfl]

theorem fields?_last {before : List (String × Json)} (hback : IsSpaces back)
    (h : ReadsMember fuel s field (back ++ '\x7d' :: rest)) :
    fields? (fuel + 1) before s = some (obj (before.reverse ++ [field]), rest) := by
  have hcomma : mark? ',' (back ++ '\x7d' :: rest) = none := hback.mark?_of_ne rfl (by decide) rest
  obtain ⟨hquote, hname, hcolon, hvalue⟩ := h
  simp [fields?, hquote, hname, hcolon, hvalue, hcomma, hback.mark? '\x7d' rfl]

theorem fields?_more {before : List (String × Json)} (hback : IsSpaces back)
    (h : ReadsMember fuel s field (back ++ ',' :: rest)) :
    fields? (fuel + 1) before s = fields? fuel (field :: before) rest := by
  obtain ⟨hquote, hname, hcolon, hvalue⟩ := h
  simp [fields?, hquote, hname, hcolon, hvalue, hback.mark? ',' rfl]

end

/-! ### Phrases -/

/-- The first character of a phrase is not the mark that would end an empty list or object. -/
theorem Means.head {phrase : Phrase} (h : Means s phrase) :
    ∃ front c t, s = front ++ c :: t ∧ IsSpaces front ∧ isSpace c = false ∧ c ≠ ']' ∧
      c ≠ '\x7d' := by
  have hfirst (c : Char) (t : List Char) (hc : isSpace c = false ∧ c ≠ ']' ∧ c ≠ '\x7d') :
      ∃ front c' t', c :: t = front ++ c' :: t' ∧ IsSpaces front ∧ isSpace c' = false ∧
        c' ≠ ']' ∧ c' ≠ '\x7d' := ⟨[], c, t, rfl, isSpaces_nil, hc⟩
  induction h with
  | nullWord => exact hfirst 'n' _ (by decide)
  | trueWord => exact hfirst 't' _ (by decide)
  | falseWord => exact hfirst 'f' _ (by decide)
  | number hnumber =>
      obtain ⟨c, t, rfl, hc⟩ := hnumber.head
      exact hfirst c t ⟨isSpace_of_startsNumber hc, ne_of_startsNumber hc ']' (by decide),
        ne_of_startsNumber hc '\x7d' (by decide)⟩
  | string hchars => exact hfirst '"' _ (by decide)
  | emptyList => exact hfirst '[' _ (by decide)
  | list => exact hfirst '[' _ (by decide)
  | emptyObject => exact hfirst '\x7b' _ (by decide)
  | object => exact hfirst '\x7b' _ (by decide)
  | @element front s back value hfront h hback ih =>
      obtain ⟨front', c, t, rfl, hfront', hc⟩ := ih
      refine ⟨front ++ front', c, t ++ back, by simp, ?_, hc⟩
      exact fun x hx => (List.mem_append.1 hx).elim (hfront x) (hfront' x)
  | lastElement h ih => exact ih
  | @elements s rest value items h hrest ih =>
      obtain ⟨front, c, t, rfl, hfront, hc⟩ := ih
      exact ⟨front, c, t ++ ',' :: rest, by simp, hfront, hc⟩
  | @member front name back s cs value hfront hname hback h =>
      exact ⟨front, '"', _, rfl, hfront, by decide⟩
  | lastMember h ih => exact ih
  | @members s rest name value fields h hrest ih =>
      obtain ⟨front, c, t, rfl, hfront, hc⟩ := ih
      exact ⟨front, c, t ++ ',' :: rest, by simp, hfront, hc⟩

theorem Means.mark?_eq_none {phrase : Phrase} {mark : Char} (h : Means s phrase)
    (hmark : mark = ']' ∨ mark = '\x7d') (rest : List Char) : mark? mark (s ++ rest) = none := by
  obtain ⟨front, c, t, rfl, hfront, hc, hlist, hobject⟩ := h.head
  rw [List.append_assoc, List.cons_append]
  rcases hmark with rfl | rfl
  · exact hfront.mark?_of_ne hc hlist _
  · exact hfront.mark?_of_ne hc hobject _

/-- What the reader does with the texts of a phrase, where it has fuel enough. -/
def Completes (s : List Char) : Phrase → Prop
  | .value value => ∀ fuel rest, 2 * s.length ≤ fuel + 1 → Ends rest →
      value? (fuel + 1) (s ++ rest) = some (value, rest)
  | .element value => ∀ fuel rest, 2 * s.length ≤ fuel + 1 → Ends rest →
      ∃ back, IsSpaces back ∧ value? (fuel + 1) (s ++ rest) = some (value, back ++ rest)
  | .elements items => ∀ fuel before rest, 2 * s.length ≤ fuel + 1 →
      items? (fuel + 2) before (s ++ ']' :: rest) = some (arr (before.reverse ++ items), rest)
  | .member name value => ∀ fuel rest, 2 * s.length ≤ fuel + 1 → Ends rest →
      ∃ back, IsSpaces back ∧ ReadsMember (fuel + 1) (s ++ rest) (name, value) (back ++ rest)
  | .members fields => ∀ fuel before rest, 2 * s.length ≤ fuel + 1 →
      fields? (fuel + 2) before (s ++ '\x7d' :: rest) =
        some (obj (before.reverse ++ fields), rest)

/-- By induction on the phrase: a phrase in it is shorter by a mark at least, and so the fuel that
is left is enough for it. -/
theorem Means.completes {phrase : Phrase} (h : Means s phrase) : Completes s phrase := by
  induction h with
  | nullWord => exact fun fuel rest _ _ => rfl
  | trueWord => exact fun fuel rest _ _ => rfl
  | falseWord => exact fun fuel rest _ _ => rfl
  | number hnumber =>
      intro fuel rest hfuel hrest
      have hread := hnumber.number? hrest
      obtain ⟨c, t, rfl, hc⟩ := hnumber.head
      rw [List.cons_append, value?_number hc]
      exact hread
  | @string s cs hchars =>
      intro fuel rest hfuel hrest
      simp [value?_string, hchars.stringRest?]
  | @emptyList s h =>
      intro fuel rest hfuel hrest
      simp [value?_list, h.mark? ']' rfl]
  | @list s items h ih =>
      intro fuel rest hfuel hrest
      simp only [List.length_append, List.length_cons, List.length_nil] at hfuel
      obtain ⟨fuel, rfl⟩ := Nat.exists_eq_add_of_le' (show 2 ≤ fuel by omega)
      have hmark := h.mark?_eq_none (.inl rfl) (']' :: rest)
      simp [value?_list, hmark, ih fuel [] rest (by omega)]
  | @emptyObject s h =>
      intro fuel rest hfuel hrest
      simp [value?_object, h.mark? '\x7d' rfl]
  | @object s fields h ih =>
      intro fuel rest hfuel hrest
      simp only [List.length_append, List.length_cons, List.length_nil] at hfuel
      obtain ⟨fuel, rfl⟩ := Nat.exists_eq_add_of_le' (show 2 ≤ fuel by omega)
      have hmark := h.mark?_eq_none (.inr rfl) ('\x7d' :: rest)
      simp [value?_object, hmark, ih fuel [] rest (by omega)]
  | @element front s back value hfront h hback ih =>
      intro fuel rest hfuel hrest
      simp only [List.length_append] at hfuel
      refine ⟨back, hback, ?_⟩
      rw [List.append_assoc, List.append_assoc, value?_skipSpace hfront]
      exact ih fuel _ (by omega) (hback.ends_append hrest)
  | lastElement h ih =>
      intro fuel before rest hfuel
      obtain ⟨back, hback, hvalue⟩ := ih fuel (']' :: rest) hfuel (.cons (by decide) rest)
      exact items?_last hback hvalue
  | @elements s t value items h hrest ih ihrest =>
      intro fuel before rest hfuel
      simp only [List.length_append, List.length_cons] at hfuel
      obtain ⟨fuel, rfl⟩ := Nat.exists_eq_add_of_le' (show 1 ≤ fuel by omega)
      obtain ⟨back, hback, hvalue⟩ := ih (fuel + 1) (',' :: (t ++ ']' :: rest)) (by omega)
        (.cons (by decide) _)
      have hitems := ihrest fuel (value :: before) rest (by omega)
      rw [List.append_assoc, List.cons_append, items?_more hback hvalue, hitems]
      simp
  | @member front name back s cs value hfront hname hback h ih =>
      intro fuel rest hfuel hrest
      simp only [List.length_append, List.length_cons] at hfuel
      obtain ⟨behind, hbehind, hvalue⟩ := ih fuel rest (by omega) hrest
      simp only [List.append_assoc, List.cons_append]
      exact ⟨behind, hbehind, hfront.mark? '"' rfl _, hname.stringRest? [] _,
        hback.mark? ':' rfl _, hvalue⟩
  | lastMember h ih =>
      intro fuel before rest hfuel
      obtain ⟨back, hback, hfield⟩ := ih fuel ('\x7d' :: rest) hfuel (.cons (by decide) rest)
      exact fields?_last hback hfield
  | @members s t name value fields h hrest ih ihrest =>
      intro fuel before rest hfuel
      simp only [List.length_append, List.length_cons] at hfuel
      obtain ⟨fuel, rfl⟩ := Nat.exists_eq_add_of_le' (show 1 ≤ fuel by omega)
      obtain ⟨back, hback, hfield⟩ := ih (fuel + 1) (',' :: (t ++ '\x7d' :: rest)) (by omega)
        (.cons (by decide) _)
      have hfields := ihrest fuel ((name, value) :: before) rest (by omega)
      rw [List.append_assoc, List.cons_append, fields?_more hback hfield, hfields]
      simp

/-- The reader reads each text of the grammar. -/
theorem IsText.ofText? {value : Json} {text : String} (h : IsText text.toList value) :
    ofText? text = some value := by
  obtain ⟨back, hback, hvalue⟩ :=
    Means.completes h (2 * text.toList.length + 1) [] (Nat.le_add_right _ 2) .nil
  simp only [List.append_nil] at hvalue
  simp [Json.ofText?, hvalue, hback.skipSpace_eq_nil]

/-- A text stands for one value at most. -/
theorem IsText.unique {value value' : Json} (h : IsText s value) (h' : IsText s value') :
    value = value' := by
  rw [← String.toList_ofList (l := s)] at h h'
  exact Option.some.inj (h.ofText?.symm.trans h'.ofText?)

end FormulaLexer.Json
