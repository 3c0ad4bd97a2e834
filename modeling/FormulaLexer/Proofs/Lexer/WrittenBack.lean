import FormulaLexer.Proofs.Lexer.Reread
import FormulaLexer.Proofs.Text.Spacing

/-!
Tokens written back. The text of the tokens that the lexer reads is the text that it read
them from, with normal spacing.
-/

namespace FormulaLexer

open Text

/-- The space before a token stands for the blanks before it in any text of the tokens. -/
theorem Token.gapBefore_eq {token : Token} {stop? : Option Int} {blanks : List Char}
    (hgap : ∀ stop ∈ stop?, blanks ≠ [] ↔ stop < token.span.start) :
    token.gapBefore stop? = if stop?.isNone || blanks.isEmpty then [] else [' '] := by
  cases stop? with
  | none => rfl
  | some stop =>
      have hstop := hgap stop rfl
      cases blanks with
      | nil => exact if_neg fun hlt => hstop.2 hlt rfl
      | cons c blanks => exact if_pos (hstop.1 (List.cons_ne_nil _ _))

/-- What becomes of skipped blanks before a character that is neither blank nor closes a
group. -/
theorem normalSpacing_skipped {dropped : Bool} {skipped s : List Char} {c : Char}
    (hskipped : ∀ c ∈ skipped, isBlank c) (hc : isBlank c = false) (hclose : c ≠ ')') :
    normalSpacing dropped (skipped ++ c :: s) =
      (if dropped || skipped.isEmpty then [] else [' ']) ++ normalSpacing false (c :: s) := by
  by_cases hne : skipped = []
  · rw [hne, List.nil_append, normalSpacing_visible hc, normalSpacing_visible hc]
    simp
  · have hafter : ∀ d ∈ (c :: s).head?, isBlank d = false := by simpa using hc
    rw [normalSpacing_run hne hskipped hafter]
    simp [hne, hclose]

theorem normalSpacing_leaf {text s : List Char} (htext : ∀ c ∈ text, isLeafChar c) :
    normalSpacing false (text ++ s) = text ++ normalSpacing false s := by
  have hvisible : ∀ c ∈ text, isBlank c = false := fun c hc =>
    isBlank_eq_false_of_isLeafChar (htext c hc)
  have hlast : text.getLast?.elim false (· == '(') = false := by
    cases heq : text.getLast? with
    | none => rfl
    | some c =>
        have hne := (ne_parenthesis_of_isLeafChar (htext c (List.mem_of_getLast? heq))).1
        simpa using hne
  rw [normalSpacing_append fun c hc => hvisible c (List.mem_of_getLast? hc),
    normalSpacing_of_visible hvisible, hlast]

/-- Every text in which tokens are written has the same normal spacing. -/
theorem Written.textAfter_eq {stop? : Option Int} {tokens : List Token} {window : List Char}
    (h : Written stop? tokens window) {limit depth : Nat} {operand : Bool}
    (hseparated : Separated limit depth operand tokens) :
    Token.textAfter stop? tokens = normalSpacing stop?.isNone window := by
  induction h generalizing depth operand with
  | nil hblanks => rw [Token.textAfter, normalSpacing_blanks hblanks]
  | @leaf stop? blanks kind text span tokens rest hblanks hgap _ ih =>
      obtain ⟨hspells, -, htokens⟩ := Separated.leaf_cons_iff.1 hseparated
      have hchars := hspells.isLeafChar
      obtain ⟨c, t, htext, hc⟩ := hspells.exists_cons
      have hclose := (ne_parenthesis_of_isLeafChar (hchars c (by simp [htext]))).2
      have hskipped : normalSpacing stop?.isNone (blanks ++ c :: (t ++ rest)) = _ :=
        normalSpacing_skipped hblanks hc.not_blank hclose
      rw [← List.cons_append, ← htext] at hskipped
      rw [Token.textAfter, Token.gapBefore_eq hgap, ih htokens, hskipped, normalSpacing_leaf hchars,
        List.append_assoc]
      rfl
  | @group stop? blanks children span tokens inner rest hblanks hgap _ _ ihinner ih =>
      obtain ⟨-, hchildren, -, htokens⟩ := Separated.group_cons_iff.1 hseparated
      have hopening : isBlank '(' = false := by decide
      rw [Token.textAfter, Token.gapBefore_eq hgap, ihinner hchildren, ih htokens,
        List.cons_append, normalSpacing_skipped hblanks hopening (by decide),
        normalSpacing_visible hopening, normalSpacing_closing]
      simp

/-- The tokens of a text, written back, are the text with normal spacing. Every maximal run of
blanks is dropped or becomes a single space, and all else stays as it stands. -/
theorem toText_of_tokenize {limit : DepthLimit} {offset : Int} {expression : String}
    {tokens : List Token} (h : tokenize limit offset expression = .ok tokens) :
    (Token.toText tokens).toList = normalSpacing true expression.toList ∧
      (∀ before run after, BlankRun expression.toList before run after →
        (Token.toText tokens).toList = normalSpacing true before ++
          (if before.getLast?.all (· == '(') || after.head?.all (· == ')') then [] else [' ']) ++
          normalSpacing false after) ∧
      (Token.toText tokens).toList.filter (! isBlank ·) =
        expression.toList.filter (! isBlank ·) := by
  have htext : (Token.toText tokens).toList = normalSpacing true expression.toList := by
    have hreads := lexWindow_eq_ok_iff.1 h
    have hwritten : Written none tokens ([] ++ expression.toList) :=
      hreads.written (by simp) (by simp)
    rw [Token.toText, String.toList_ofList, hwritten.textAfter_eq hreads.separated]
    rfl
  refine ⟨htext, fun before run after hrun => ?_, ?_⟩
  · rw [htext, hrun.normalSpacing_eq]
  · rw [htext, filter_normalSpacing]

/-- The blank and the tab before the operator become a single space. -/
theorem toText_of_tokenize_padded :
    let tokens : List Token := [.leaf .reference "A1" ⟨-2, 0⟩, .leaf .operator "*" ⟨2, 3⟩,
      .group [.group [] ⟨6, 9⟩] ⟨4, 11⟩, .leaf .operator "-" ⟨11, 12⟩, .leaf .number "3" ⟨12, 13⟩]
    tokenize { value := 2 } (-4) "  A1 \t* ( ( ) )-3\n" = .ok tokens ∧
      BlankRun "  A1 \t* ( ( ) )-3\n".toList "  A1".toList " \t".toList "* ( ( ) )-3\n".toList ∧
      (Token.toText tokens).toList = normalSpacing true "  A1".toList ++ [' '] ++
        normalSpacing false "* ( ( ) )-3\n".toList := by
  intro tokens
  have h : tokenize { value := 2 } (-4) "  A1 \t* ( ( ) )-3\n" = .ok tokens := by cbv
  have hrun : BlankRun "  A1 \t* ( ( ) )-3\n".toList "  A1".toList " \t".toList
      "* ( ( ) )-3\n".toList := by decide
  exact ⟨h, hrun, (toText_of_tokenize h).2.1 _ _ _ hrun⟩

end FormulaLexer
