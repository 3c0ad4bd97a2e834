import FormulaLexer.Proofs.Text.Decimal
import FormulaLexer.Text.Quoted

/-!
Quoted texts. Whatever a text holds, it is quoted in printable characters, and none of them is
a control character or ends a line.
-/

namespace FormulaLexer.Text

/-! ### Printable characters -/

theorem isPrintable_of_ascii {c : Char} (hlow : 0x20 ≤ c.toNat) (hhigh : c.toNat ≤ 0x7E) :
    isPrintable c := by
  have hfirst : (0x20, 0x7E) ∈ printableRanges := List.mem_cons_self
  exact (Ranges.has_iff printableRanges c).2 ⟨_, hfirst, hlow, hhigh⟩

/-- The space is the first printable character. -/
theorem le_toNat_of_isPrintable {c : Char} (h : isPrintable c) : 0x20 ≤ c.toNat := by
  have hall : printableRanges.all (fun range => 0x20 ≤ range.1) := by decide +kernel
  obtain ⟨range, hmem, hle, -⟩ := (Ranges.has_iff printableRanges c).1 h
  have hfirst : 0x20 ≤ range.1 := by simpa using List.all_eq_true.1 hall range hmem
  exact Nat.le_trans hfirst hle

theorem ne_of_isPrintable {c d : Char} (hc : isPrintable c) (hd : d.toNat < 0x20) : c ≠ d := by
  rintro rfl
  have := le_toNat_of_isPrintable hc
  omega

theorem isPrintable_of_mem_decimal {n : Int} {c : Char} (h : c ∈ decimal n) : isPrintable c := by
  rcases mem_decimal h with hdigit | rfl
  · have hrange := isDigit_iff.1 hdigit
    exact isPrintable_of_ascii (by omega) (by omega)
  · exact isPrintable_of_ascii (by decide) (by decide)

/-! ### Quoted texts -/

theorem isPrintable_digitChar {n : Nat} (h : n < 16) : isPrintable (Nat.digitChar n) := by
  have hascii : ∀ n < 16, 0x20 ≤ (Nat.digitChar n).toNat ∧ (Nat.digitChar n).toNat ≤ 0x7E := by
    decide
  exact isPrintable_of_ascii (hascii n h).1 (hascii n h).2

theorem isPrintable_of_mem_hexDigits {width n : Nat} {c : Char} (h : c ∈ hexDigits width n) :
    isPrintable c := by
  induction width generalizing n with
  | zero => contradiction
  | succ width ih =>
      rw [hexDigits, List.mem_append, List.mem_singleton] at h
      rcases h with h | rfl
      · exact ih h
      · exact isPrintable_digitChar (Nat.mod_lt _ (by decide))

/-- The characters that an escape starts with. -/
def escapeMarks : List Char := ['\\', 't', 'n', 'r', 'x', 'u', 'U']

theorem isPrintable_of_mem_escapeMarks {c : Char} (h : c ∈ escapeMarks) : isPrintable c := by
  have hall : escapeMarks.all isPrintable := by decide
  exact List.all_eq_true.1 hall c h

theorem isPrintable_of_mem_codeEscape {n : Nat} {c : Char} (h : c ∈ codeEscape n) :
    isPrintable c := by
  have hescape {mark : Char} {width : Nat} (hmark : mark ∈ escapeMarks)
      (h : c ∈ '\\' :: mark :: hexDigits width n) : isPrintable c := by
    rcases List.mem_cons.1 h with rfl | h
    · exact isPrintable_of_mem_escapeMarks List.mem_cons_self
    · rcases List.mem_cons.1 h with rfl | h
      · exact isPrintable_of_mem_escapeMarks hmark
      · exact isPrintable_of_mem_hexDigits h
  rw [codeEscape] at h
  split at h
  · exact hescape (by simp [escapeMarks]) h
  · split at h
    · exact hescape (by simp [escapeMarks]) h
    · exact hescape (by simp [escapeMarks]) h

/-- A printable quote and the escapes leave no character that is not printable. -/
theorem isPrintable_of_mem_quotedChar {quote c d : Char} (hquote : isPrintable quote)
    (h : d ∈ quotedChar quote c) : isPrintable d := by
  have hpair {first second : Char} (hfirst : isPrintable first) (hsecond : isPrintable second)
      (h : d ∈ [first, second]) : isPrintable d := by
    simp only [List.mem_cons, List.not_mem_nil, or_false] at h
    rcases h with rfl | rfl
    · exact hfirst
    · exact hsecond
  have hbackslash : isPrintable '\\' := isPrintable_of_mem_escapeMarks List.mem_cons_self
  rw [quotedChar] at h
  split at h
  · next hc =>
      simp only [Bool.or_eq_true, decide_eq_true_eq] at hc
      rcases hc with rfl | rfl
      · exact hpair hbackslash hquote h
      · exact hpair hbackslash hbackslash h
  · split at h
    · exact hpair hbackslash (isPrintable_of_mem_escapeMarks (by simp [escapeMarks])) h
    · split at h
      · exact hpair hbackslash (isPrintable_of_mem_escapeMarks (by simp [escapeMarks])) h
      · split at h
        · exact hpair hbackslash (isPrintable_of_mem_escapeMarks (by simp [escapeMarks])) h
        · split at h
          · next hc =>
              rw [List.mem_singleton] at h
              rwa [h]
          · exact isPrintable_of_mem_codeEscape h

/-- A quoted text holds printable characters only. -/
theorem isPrintable_of_mem_quoted {s : List Char} {c : Char} (h : c ∈ quoted s) :
    isPrintable c := by
  have hquote : isPrintable (quoteFor s) := by
    rw [quoteFor]
    split <;> decide
  simp only [quoted, List.cons_append, List.mem_cons, List.mem_append, List.mem_flatMap,
    List.not_mem_nil, or_false] at h
  rcases h with rfl | ⟨d, -, hd⟩ | rfl
  · exact hquote
  · exact isPrintable_of_mem_quotedChar hquote hd
  · exact hquote

end FormulaLexer.Text
