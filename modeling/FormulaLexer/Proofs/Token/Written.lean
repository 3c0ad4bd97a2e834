import FormulaLexer.Proofs.Token.Separated
import FormulaLexer.Token.Spacing

/-!
Texts that tokens are written in. The text that is made of the tokens themselves is one of
them, and so is the text that the tokens were read from.
-/

namespace FormulaLexer

open Text

/-- A text in which tokens are written behind a token with the given end. Blanks stand between
two tokens just if their spans leave a gap, and may stand at both ends of each list. -/
inductive Written : Option Int → List Token → List Char → Prop
  | nil {stop? blanks} (hblanks : ∀ c ∈ blanks, isBlank c) : Written stop? [] blanks
  | leaf {stop? blanks kind text span tokens rest}
      (hblanks : ∀ c ∈ blanks, isBlank c)
      (hgap : ∀ stop ∈ stop?, blanks ≠ [] ↔ stop < Span.start span)
      (hrest : Written (some (Span.stop span)) tokens rest) :
      Written stop? (.leaf kind text span :: tokens) (blanks ++ (text.toList ++ rest))
  | group {stop? blanks children span tokens inner rest}
      (hblanks : ∀ c ∈ blanks, isBlank c)
      (hgap : ∀ stop ∈ stop?, blanks ≠ [] ↔ stop < Span.start span)
      (hinner : Written none children inner)
      (hrest : Written (some (Span.stop span)) tokens rest) :
      Written stop? (.group children span :: tokens) (blanks ++ ('(' :: inner ++ ')' :: rest))

namespace Token

theorem isBlank_of_mem_gapBefore {token : Token} {stop? : Option Int} {c : Char}
    (hc : c ∈ token.gapBefore stop?) : isBlank c := by
  have hspace : isBlank ' ' := by decide
  cases stop? with
  | none => contradiction
  | some stop =>
      rw [gapBefore] at hc
      split at hc <;> simp_all

theorem gapBefore_ne_nil_iff (token : Token) (stop? : Option Int) :
    ∀ stop ∈ stop?, token.gapBefore stop? ≠ [] ↔ stop < token.span.start := by
  rintro stop rfl
  rw [gapBefore]
  split <;> simp_all

theorem written_textAfter (stop? : Option Int) (tokens : List Token) :
    Written stop? tokens (textAfter stop? tokens) := by
  fun_induction textAfter stop? tokens with
  | case1 stop? => exact .nil (by simp)
  | case2 stop? kind text span rest ih =>
      have hgap := gapBefore_ne_nil_iff (.leaf kind text span) stop?
      rw [List.append_assoc]
      exact .leaf (fun _ => isBlank_of_mem_gapBefore) hgap ih
  | case3 stop? children span rest ihinner ih =>
      have hgap := gapBefore_ne_nil_iff (.group children span) stop?
      rw [List.append_assoc, List.cons_append]
      exact .group (fun _ => isBlank_of_mem_gapBefore) hgap ihinner ih

end Token

/-- No group closes where there are only leaves. -/
theorem Written.closing_not_mem {stop? : Option Int} {tokens : List Token} {window : List Char}
    (h : Written stop? tokens window) (hflat : Token.Flat tokens) : ')' ∉ window := by
  have hblank {blanks : List Char} (hblanks : ∀ c ∈ blanks, isBlank c) : ')' ∉ blanks :=
    fun hmem => (ne_parenthesis_of_isBlank (hblanks _ hmem)).2 rfl
  induction h with
  | nil hblanks => exact hblank hblanks
  | leaf hblanks _ _ ih =>
      obtain ⟨⟨_, _, _, heq, hclose⟩, hrest⟩ := List.forall_mem_cons.1 hflat
      cases heq
      simp only [List.mem_append, not_or]
      exact ⟨hblank hblanks, hclose, ih hrest⟩
  | group =>
      obtain ⟨_, _, _, heq, -⟩ := hflat _ List.mem_cons_self
      cases heq

theorem head_blanks_append {blanks s : List Char} (hblanks : ∀ c ∈ blanks, isBlank c) :
    (∃ c ∈ (blanks ++ s).head?, isDigit c) ↔ blanks = [] ∧ ∃ c ∈ s.head?, isDigit c := by
  cases blanks with
  | nil => simp
  | cons c blanks =>
      simp [isDigit_eq_false_of_isBlank (hblanks c List.mem_cons_self)]

/-- A digit stands directly behind a token just if a number without a sign follows it without a
gap. -/
theorem Written.head_digit_iff {stop : Int} {tokens : List Token} {window : List Char}
    {operand : Bool} (h : Written (some stop) tokens window)
    (hseparable : Separable operand tokens) :
    (∃ c ∈ window.head?, isDigit c) ↔
      ∃ next ∈ tokens.head?, next.IsUnsigned ∧ ¬ stop < next.span.start := by
  cases h with
  | nil hblanks =>
      rw [← List.append_nil window, head_blanks_append hblanks]
      simp
  | @leaf _ blanks kind text span tokens rest hblanks hgap hrest =>
      have hspells := hseparable.spelled kind text span List.mem_cons_self
      have hunsigned := Token.isUnsigned_leaf_iff hspells span
      obtain ⟨c, t, htext, -⟩ := hspells.exists_cons
      have hhead : (text.toList ++ rest).head? = text.toList.head? := by
        rw [htext]
        rfl
      have hadjacent : ¬ stop < span.start ↔ blanks = [] := by rw [← hgap stop rfl, not_not]
      rw [head_blanks_append hblanks, hhead, ← hunsigned, ← hadjacent]
      simp [Token.span, and_comm]
  | group hblanks _ _ _ =>
      have hopening : isDigit '(' = false := by decide
      rw [head_blanks_append hblanks]
      simp [Token.IsUnsigned, hopening]

end FormulaLexer
