import FormulaLexer.Json.Printer
import FormulaLexer.Proofs.Json.Reader

/-!
What the printer writes for a value is a text of that value and of no other, in ASCII.
-/

namespace FormulaLexer.Json

open Text

/-! ### Strings -/

theorem unitText_hexDigits {n : Nat} (h : n < 0x10000) : UnitText (hexDigits 4 n) n := by
  have hdigit (n : Nat) : hexValue? (Nat.digitChar (n % 16)) = some (n % 16) :=
    hexValue?_digitChar (Nat.mod_lt n (by decide))
  have hvalue : ((n / 16 / 16 / 16 % 16 * 16 + n / 16 / 16 % 16) * 16 + n / 16 % 16) * 16 +
      n % 16 = n := by omega
  have htext := UnitText.mk (hdigit (n / 16 / 16 / 16)) (hdigit (n / 16 / 16)) (hdigit (n / 16))
    (hdigit n)
  rwa [hvalue] at htext

theorem charText_pair {c : Char} (h : ¬ c.toNat < 0x10000) :
    CharText (unitEscape (0xD800 + (c.toNat - 0x10000) / 0x400) ++
      unitEscape (0xDC00 + (c.toNat - 0x10000) % 0x400)) c := by
  have hvalid : c.toNat < 0xD800 ∨ 0xDFFF < c.toNat ∧ c.toNat < 0x110000 := c.valid
  refine .pair (unitText_hexDigits ?_) (unitText_hexDigits ?_) ?_ ?_ ?_ <;> omega

/-- Each way in which the printer writes a character is a way to write that character. -/
theorem charText_stringChar (c : Char) : CharText (stringChar c) c := by
  unfold stringChar
  split_ifs with hmark hfeed hreturn htab hform hback hplain hunit
  · simp only [Bool.or_eq_true, decide_eq_true_eq] at hmark
    rcases hmark with rfl | rfl
    · exact .letter .quote
    · exact .letter .backslash
  · exact hfeed ▸ .letter .lineFeed
  · exact hreturn ▸ .letter .carriageReturn
  · exact htab ▸ .letter .tab
  · exact hform ▸ .letter .formFeed
  · exact hback ▸ .letter .backspace
  · simp only [Bool.or_eq_true, Bool.and_eq_true, decide_eq_true_eq, not_or] at hmark hplain
    exact .plain hmark.1 hmark.2 hplain.1
  · exact .unit (unitText_hexDigits hunit)
  · exact charText_pair hunit

theorem charsText_flatMap (cs : List Char) : CharsText (cs.flatMap stringChar) cs := by
  induction cs with
  | nil => exact .nil
  | cons c cs ih => exact .cons (charText_stringChar c) ih

/-! ### Numbers -/

theorem isDigits_toString (n : Nat) : IsDigits (toString n).toList where
  ne_nil := toString_toList_ne_nil n
  all_digits _ := isDigit_of_mem_toString

theorem isWhole_toString (n : Nat) : IsWhole (toString n).toList where
  toIsDigits := isDigits_toString n
  eq_zero := by
    intro h
    by_cases hn : n = 0
    · subst hn
      rfl
    · exact absurd rfl (head_toString hn '0' h)

theorem numberText_decimal (n : Int) : NumberText (Text.decimal n) (int n) := by
  cases n with
  | ofNat n =>
      have h := NaturalText.whole (isWhole_toString n)
      rw [ofDigits_toString] at h
      exact .natural h
  | negSucc n =>
      have h := NaturalText.whole (isWhole_toString (n + 1))
      rw [ofDigits_toString] at h
      exact decimal_negSucc n ▸ .opposite h

theorem powerText_decimal (n : Int) : PowerText ('e' :: Text.decimal n) n := by
  cases n with
  | ofNat n =>
      have h := PowerText.mk (.inl rfl) .none (isDigits_toString n)
      rwa [ofDigits_toString, Int.one_mul] at h
  | negSucc n =>
      have h := PowerText.mk (.inl rfl) .minus (isDigits_toString (n + 1))
      rw [ofDigits_toString, Int.neg_one_mul] at h
      exact decimal_negSucc n ▸ h

theorem numberText_power (mantissa exponent : Int) :
    NumberText (Text.decimal mantissa ++ 'e' :: Text.decimal exponent)
      (decimal mantissa exponent) := by
  have hpower := powerText_decimal exponent
  cases mantissa with
  | ofNat n =>
      have h := NaturalText.power (isWhole_toString n) hpower
      rw [ofDigits_toString] at h
      exact .natural h
  | negSucc n =>
      have h := NaturalText.power (isWhole_toString (n + 1)) hpower
      rw [ofDigits_toString] at h
      exact decimal_negSucc n ▸ .opposite h

/-! ### Values -/

theorem isSpaces_newLine (margin : Nat) : IsSpaces (newLine margin) := by
  rintro c hc
  rcases List.mem_cons.1 hc with rfl | hc
  · rfl
  · rw [List.eq_of_mem_replicate hc]
    rfl

mutual

/-- What the printer writes for a value is a text of it, by induction along the printer. The rest of
a list takes over its first item with the text of it, and so does the rest of an object. -/
theorem means_printAt (margin : Nat) : (value : Json) → Means (printAt margin value) (.value value)
  | null => .nullWord
  | bool true => .trueWord
  | bool false => .falseWord
  | int value => .number (numberText_decimal value)
  | decimal mantissa exponent => .number (numberText_power mantissa exponent)
  | str value => by
      have h := Means.string (charsText_flatMap value.toList)
      rwa [String.ofList_toList] at h
  | arr [] => .emptyList isSpaces_nil
  | arr (item :: items) => by
      have h := Means.list (means_printItems (margin + 2) items (means_printAt (margin + 2) item)
        (isSpaces_newLine margin))
      simpa [printAt] using h
  | obj [] => .emptyObject isSpaces_nil
  | obj (field :: fields) => by
      have h := Means.object (means_printFields (margin + 2) fields
        (means_printField (margin + 2) field) (isSpaces_newLine margin))
      simpa [printAt] using h

theorem means_printItems (margin : Nat) : (items : List Json) → {s back : List Char} →
    {item : Json} → Means s (.value item) → IsSpaces back →
    Means (newLine margin ++ s ++ printItems margin items ++ back) (.elements (item :: items))
  | [], s, back, item, hitem, hback => by
      have h := Means.lastElement (.element (isSpaces_newLine margin) hitem hback)
      simpa [printItems] using h
  | next :: items, s, back, item, hitem, hback => by
      have h := Means.elements (.element (isSpaces_newLine margin) hitem isSpaces_nil)
        (means_printItems margin items (means_printAt margin next) hback)
      simpa [printItems] using h

theorem means_printField (margin : Nat) : (field : String × Json) → {front back : List Char} →
    IsSpaces front → IsSpaces back →
    Means (front ++ printField margin field ++ back) (.member field.1 field.2)
  | (name, value), front, back, hfront, hback => by
      have hspace : IsSpaces [' '] := List.forall_mem_singleton.2 rfl
      have h := Means.member hfront (charsText_flatMap name.toList) isSpaces_nil
        (.element hspace (means_printAt margin value) hback)
      rw [String.ofList_toList] at h
      simpa [printField, stringText] using h

theorem means_printFields (margin : Nat) : (fields : List (String × Json)) →
    {s back : List Char} → {field : String × Json} →
    (∀ {front back}, IsSpaces front → IsSpaces back →
      Means (front ++ s ++ back) (.member field.1 field.2)) → IsSpaces back →
    Means (newLine margin ++ s ++ printFields margin fields ++ back) (.members (field :: fields))
  | [], s, back, field, hfield, hback => by
      have h := Means.lastMember (hfield (isSpaces_newLine margin) hback)
      simpa [printFields] using h
  | next :: fields, s, back, field, hfield, hback => by
      have h := Means.members (hfield (isSpaces_newLine margin) isSpaces_nil)
        (means_printFields margin fields (means_printField margin next) hback)
      simpa [printFields] using h

end

/-- What the printer writes is a text of the value, also with space around it. -/
theorem isText_print {front back : List Char} (hfront : IsSpaces front) (hback : IsSpaces back)
    (value : Json) : IsText (front ++ value.print.toList ++ back) value := by
  rw [print, String.toList_ofList]
  exact .element hfront (means_printAt 0 value) hback

/-! ### ASCII -/

def IsAscii (s : List Char) : Prop := ∀ c ∈ s, c.toNat < 128

instance (s : List Char) : Decidable (IsAscii s) :=
  inferInstanceAs (Decidable (∀ c ∈ s, c.toNat < 128))

section

variable {c : Char} {s t : List Char}

@[simp] theorem isAscii_nil : IsAscii [] := List.forall_mem_nil _

@[simp] theorem isAscii_cons : IsAscii (c :: s) ↔ c.toNat < 128 ∧ IsAscii s :=
  List.forall_mem_cons

@[simp] theorem isAscii_append : IsAscii (s ++ t) ↔ IsAscii s ∧ IsAscii t :=
  List.forall_mem_append

@[simp] theorem isAscii_hexDigits (width n : Nat) : IsAscii (hexDigits width n) := by
  have hdigit : ∀ n < 16, (Nat.digitChar n).toNat < 128 := by decide
  induction width generalizing n with
  | zero => exact isAscii_nil
  | succ width ih => simp [hexDigits, ih, hdigit _ (Nat.mod_lt n (by decide : 16 > 0))]

@[simp] theorem isAscii_unitEscape (n : Nat) : IsAscii (unitEscape n) := by
  simp [unitEscape]

/-- Beyond ASCII there are only escapes, and these are in ASCII. -/
theorem isAscii_stringChar (c : Char) : IsAscii (stringChar c) := by
  unfold stringChar
  split_ifs with hmark hfeed hreturn htab hform hback hplain hunit
  · simp only [Bool.or_eq_true, decide_eq_true_eq] at hmark
    rcases hmark with rfl | rfl <;> simp
  · simp
  · simp
  · simp
  · simp
  · simp
  · simp only [Bool.and_eq_true, decide_eq_true_eq] at hplain
    simp only [isAscii_cons, isAscii_nil, and_true]
    omega
  · simp
  · simp

@[simp] theorem isAscii_stringText (s : String) : IsAscii (stringText s) := by
  have hchars : IsAscii (s.toList.flatMap stringChar) := by
    intro c hc
    obtain ⟨d, -, hd⟩ := List.mem_flatMap.1 hc
    exact isAscii_stringChar d c hd
  simp [stringText, hchars]

theorem isAscii_toString (n : Nat) : IsAscii (toString n).toList := by
  intro c hc
  have hrange := isDigit_iff.1 (isDigit_of_mem_toString hc)
  omega

@[simp] theorem isAscii_decimal (n : Int) : IsAscii (Text.decimal n) := by
  cases n with
  | ofNat n => exact isAscii_toString n
  | negSucc n =>
      rw [decimal_negSucc, isAscii_cons]
      exact ⟨by decide, isAscii_toString (n + 1)⟩

@[simp] theorem isAscii_newLine (margin : Nat) : IsAscii (newLine margin) := by
  have hspaces : IsAscii (List.replicate margin ' ') := by
    intro c hc
    rw [List.eq_of_mem_replicate hc]
    decide
  simp [newLine, hspaces]

end

mutual

theorem isAscii_printAt (margin : Nat) : (value : Json) → IsAscii (printAt margin value)
  | null => by simp [printAt]
  | bool true => by simp [printAt]
  | bool false => by simp [printAt]
  | int value => by simp [printAt]
  | decimal mantissa exponent => by simp [printAt]
  | str value => by simp [printAt]
  | arr [] => by simp [printAt]
  | arr (item :: items) => by
      have hitem := isAscii_printAt (margin + 2) item
      have hitems := isAscii_printItems (margin + 2) items
      simp [printAt, hitem, hitems]
  | obj [] => by simp [printAt]
  | obj (field :: fields) => by
      have hfield := isAscii_printField (margin + 2) field
      have hfields := isAscii_printFields (margin + 2) fields
      simp [printAt, hfield, hfields]

theorem isAscii_printItems (margin : Nat) : (items : List Json) → IsAscii (printItems margin items)
  | [] => isAscii_nil
  | item :: items => by
      have hitem := isAscii_printAt margin item
      have hitems := isAscii_printItems margin items
      simp [printItems, hitem, hitems]

theorem isAscii_printField (margin : Nat) :
    (field : String × Json) → IsAscii (printField margin field)
  | (name, value) => by
      have hvalue := isAscii_printAt margin value
      simp [printField, hvalue]

theorem isAscii_printFields (margin : Nat) :
    (fields : List (String × Json)) → IsAscii (printFields margin fields)
  | [] => isAscii_nil
  | field :: fields => by
      have hfield := isAscii_printField margin field
      have hfields := isAscii_printFields margin fields
      simp [printFields, hfield, hfields]

end

/-- The printer writes ASCII. -/
theorem isAscii_print (value : Json) : IsAscii value.print.toList := by
  rw [print, String.toList_ofList]
  exact isAscii_printAt 0 value

end FormulaLexer.Json
