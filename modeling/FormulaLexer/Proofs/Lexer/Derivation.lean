import FormulaLexer.Proofs.Lexer.Lead

/-!
The rules of lexing as two relations. `Reads` derives the tokens of a window and `Stops`
the error of a window. Every window has one of the two, and the lexer gives just what is
derived.
-/

namespace FormulaLexer

open Text

/-- The tokens of a window, derived from its start to its end. -/
inductive Reads (limit : Nat) : Nat → Bool → Int → List Char → List Token → Prop
  | nil {depth operand position} : Reads limit depth operand position [] []
  | blank {depth operand position c rest tokens}
      (hblank : isBlank c)
      (hrest : Reads limit depth operand (position + 1) rest tokens) :
      Reads limit depth operand position (c :: rest) tokens
  | leaf {depth operand position kind text rest tokens}
      (hlead : Leads operand kind text rest)
      (hrest : Reads limit depth (kind = .operator) (position + text.length) rest tokens) :
      Reads limit depth operand position (text ++ rest)
        (.leaf kind (String.ofList text) ⟨position, position + text.length⟩ :: tokens)
  | group {depth operand position inner after children tokens}
      (hdepth : depth < limit) (hclose : ')' ∉ after)
      (hinner : Reads limit (depth + 1) true (position + 1) inner children)
      (hafter : Reads limit depth false (position + (inner.length + 2)) after tokens) :
      Reads limit depth operand position ('(' :: inner ++ ')' :: after)
        (.group children ⟨position, position + (inner.length + 2)⟩ :: tokens)

/-- The error of a window: what stands before it is read, and an error inside a group is an
error of every window around it. -/
inductive Stops (limit : Nat) : Nat → Bool → Int → List Char → LexError → Prop
  | unrecognized {depth operand position c rest}
      (hblank : isBlank c = false) (hopening : c ≠ '(')
      (hnone : Lexeme.first? operand (c :: rest) = none) :
      Stops limit depth operand position (c :: rest)
        ⟨position, String.ofList (c :: rest), .unrecognizedToken⟩
  | unterminated {depth operand position rest}
      (hclose : ')' ∉ rest) :
      Stops limit depth operand position ('(' :: rest)
        ⟨position, String.ofList ('(' :: rest), .unterminatedGroup⟩
  | tooDeep {depth operand position rest}
      (hdepth : limit ≤ depth) (hclose : ')' ∈ rest) :
      Stops limit depth operand position ('(' :: rest)
        ⟨position, String.ofList ('(' :: rest), .depthExceeded⟩
  | blank {depth operand position c rest error}
      (hblank : isBlank c)
      (hrest : Stops limit depth operand (position + 1) rest error) :
      Stops limit depth operand position (c :: rest) error
  | leaf {depth operand position kind text rest error}
      (hlead : Leads operand kind text rest)
      (hrest : Stops limit depth (kind = .operator) (position + text.length) rest error) :
      Stops limit depth operand position (text ++ rest) error
  | inside {depth operand position inner after error}
      (hdepth : depth < limit) (hclose : ')' ∉ after)
      (hinner : Stops limit (depth + 1) true (position + 1) inner error) :
      Stops limit depth operand position ('(' :: inner ++ ')' :: after) error
  | behind {depth operand position inner after children error}
      (hdepth : depth < limit) (hclose : ')' ∉ after)
      (hinner : Reads limit (depth + 1) true (position + 1) inner children)
      (hafter : Stops limit depth false (position + (inner.length + 2)) after error) :
      Stops limit depth operand position ('(' :: inner ++ ')' :: after) error

/-! ### One step of the lexer -/

section

variable {limit depth : Nat} {operand : Bool} {position : Int}

@[simp] theorem lexWindow_nil : lexWindow limit depth operand position [] = .ok [] := by
  rw [lexWindow]

theorem lexWindow_blank {c : Char} {rest : List Char} (hblank : isBlank c) :
    lexWindow limit depth operand position (c :: rest) =
      lexWindow limit depth operand (position + 1) rest := by
  rw [lexWindow, if_pos hblank]

theorem lexWindow_none {c : Char} {rest : List Char} (hblank : isBlank c = false)
    (hnone : Lexeme.first? operand (c :: rest) = none) :
    lexWindow limit depth operand position (c :: rest) =
      .error ⟨position, String.ofList (c :: rest),
        if c = '(' then .unterminatedGroup else .unrecognizedToken⟩ := by
  rw [lexWindow, hblank]
  simp only [Bool.false_eq_true, if_false]
  split
  · rfl
  · simp_all

theorem lexWindow_leaf {kind : LeafKind} {text rest : List Char}
    (hlead : Leads operand kind text rest) :
    lexWindow limit depth operand position (text ++ rest) =
      (do
        let tokens ← lexWindow limit depth (kind = .operator) (position + text.length) rest
        return .leaf kind (String.ofList text) ⟨position, position + text.length⟩ :: tokens) := by
  have hfirst := Lexeme.first?_leaf hlead
  obtain ⟨c, t, rfl, hc⟩ := hlead.spells.exists_cons
  have hdrop : (c :: (t ++ rest)).drop (c :: t).length = rest := List.drop_left
  rw [List.cons_append] at hfirst ⊢
  rw [lexWindow, hc.not_blank]
  simp only [Bool.false_eq_true, if_false]
  split
  · simp_all
  · next lexeme hlexeme =>
      cases hfirst.symm.trans hlexeme
      simp only [LeafKind.leafKind?_shape, hdrop]

theorem lexWindow_opening {rest : List Char} {lexeme : Lexeme}
    (hfirst : Lexeme.first? operand ('(' :: rest) = some lexeme)
    (hshape : lexeme.shape = .parenthetical) :
    lexWindow limit depth operand position ('(' :: rest) =
      if depth < limit then do
        let children ← lexWindow limit (depth + 1) true (position + 1) lexeme.interior
        let tokens ← lexWindow limit depth false (position + lexeme.text.length)
          (('(' :: rest).drop lexeme.text.length)
        return .group children ⟨position, position + lexeme.text.length⟩ :: tokens
      else .error ⟨position, String.ofList ('(' :: rest), .depthExceeded⟩ := by
  have hblank : isBlank '(' = false := by decide
  rw [lexWindow, hblank]
  simp only [Bool.false_eq_true, if_false]
  split
  · simp_all
  · next lexeme' hlexeme =>
      cases hfirst.symm.trans hlexeme
      simp only [hshape, Shape.leafKind?]

theorem lexWindow_group {inner after : List Char} (hdepth : depth < limit)
    (hclose : ')' ∉ after) :
    lexWindow limit depth operand position ('(' :: inner ++ ')' :: after) =
      (do
        let children ← lexWindow limit (depth + 1) true (position + 1) inner
        let tokens ← lexWindow limit depth false (position + (inner.length + 2)) after
        return .group children ⟨position, position + (inner.length + 2)⟩ :: tokens) := by
  have hfirst : Lexeme.first? operand ('(' :: inner ++ ')' :: after) =
      some ⟨.parenthetical, '(' :: inner ++ [')']⟩ := Lexeme.first?_group hclose
  have hdrop : ('(' :: (inner ++ ')' :: after)).drop (inner.length + 1 + 1) = after := by simp
  rw [List.cons_append] at hfirst ⊢
  rw [lexWindow_opening hfirst rfl, if_pos hdepth]
  simp [Lexeme.interior, hdrop, Int.add_assoc]

theorem lexWindow_tooDeep {rest : List Char} (hdepth : limit ≤ depth) (hclose : ')' ∈ rest) :
    lexWindow limit depth operand position ('(' :: rest) =
      .error ⟨position, String.ofList ('(' :: rest), .depthExceeded⟩ := by
  obtain ⟨inner, after, rfl, hafter⟩ := Shape.exists_last hclose
  have hfirst : Lexeme.first? operand ('(' :: inner ++ ')' :: after) =
      some ⟨.parenthetical, '(' :: inner ++ [')']⟩ := Lexeme.first?_group hafter
  rw [List.cons_append] at hfirst
  rw [lexWindow_opening hfirst rfl, if_neg (Nat.not_lt.2 hdepth)]

end

/-! ### The lexer gives what is derived -/

section

variable {limit depth : Nat} {operand : Bool} {position : Int} {window : List Char}

theorem Reads.lexWindow_eq {tokens : List Token}
    (h : Reads limit depth operand position window tokens) :
    lexWindow limit depth operand position window = .ok tokens := by
  induction h with
  | nil => exact lexWindow_nil
  | blank hblank _ ih => rw [lexWindow_blank hblank, ih]
  | leaf hlead _ ih =>
      rw [lexWindow_leaf hlead, ih]
      rfl
  | group hdepth hclose _ _ ihinner ihafter =>
      rw [lexWindow_group hdepth hclose, ihinner]
      simp only [bind, Except.bind, ihafter]
      rfl

theorem Stops.lexWindow_eq {error : LexError}
    (h : Stops limit depth operand position window error) :
    lexWindow limit depth operand position window = .error error := by
  induction h with
  | unrecognized hblank hopening hnone => rw [lexWindow_none hblank hnone, if_neg hopening]
  | unterminated hclose =>
      rw [lexWindow_none (by decide) (Lexeme.first?_unclosed hclose), if_pos rfl]
  | tooDeep hdepth hclose => exact lexWindow_tooDeep hdepth hclose
  | blank hblank _ ih => rw [lexWindow_blank hblank, ih]
  | leaf hlead _ ih =>
      rw [lexWindow_leaf hlead, ih]
      rfl
  | inside hdepth hclose _ ih =>
      rw [lexWindow_group hdepth hclose, ih]
      rfl
  | behind hdepth hclose hinner _ ih =>
      rw [lexWindow_group hdepth hclose, hinner.lexWindow_eq]
      simp only [bind, Except.bind, ih]

/-- What a window that is not empty starts with. -/
theorem window_cases (operand : Bool) (c : Char) (rest : List Char) :
    isBlank c ∨
      (∃ kind text after, c :: rest = text ++ after ∧ Leads operand kind text after) ∨
      (∃ inner after, c :: rest = '(' :: inner ++ ')' :: after ∧ ')' ∉ after) ∨
      (c = '(' ∧ ')' ∉ rest) ∨
      (isBlank c = false ∧ c ≠ '(' ∧ Lexeme.first? operand (c :: rest) = none) := by
  by_cases hblank : isBlank c
  · exact .inl hblank
  refine .inr ?_
  by_cases hfirst : Lexeme.first? operand (c :: rest) = none
  · by_cases hopening : c = '('
    · subst hopening
      by_cases hclose : ')' ∈ rest
      · obtain ⟨inner, after, rfl, hafter⟩ := Shape.exists_last hclose
        exact .inr (.inl ⟨inner, after, rfl, hafter⟩)
      · exact .inr (.inr (.inl ⟨rfl, hclose⟩))
    · exact .inr (.inr (.inr ⟨by simpa using hblank, hopening, hfirst⟩))
  · rcases Lexeme.exists_of_first?_ne_none hfirst with hleaf | hgroup
    · exact .inl hleaf
    · exact .inr (.inl hgroup)

/-- Every window is read to its end or stops with an error. -/
theorem reads_or_stops (limit depth : Nat) (operand : Bool) (position : Int)
    (window : List Char) :
    (∃ tokens, Reads limit depth operand position window tokens) ∨
      ∃ error, Stops limit depth operand position window error := by
  -- By induction on the length of the window, over all depths and positions at once.
  induction hn : window.length using Nat.strong_induction_on
    generalizing depth operand position window with
  | _ n ih =>
  subst hn
  cases window with
  | nil => exact .inl ⟨[], .nil⟩
  | cons c rest =>
      rcases window_cases operand c rest with hblank | ⟨kind, text, after, hs, hlead⟩ |
        ⟨inner, after, hs, hclose⟩ | ⟨rfl, hclose⟩ | ⟨hblank, hopening, hnone⟩
      · rcases ih rest.length (by simp) depth operand (position + 1) rest rfl with
          ⟨tokens, h⟩ | ⟨error, h⟩
        · exact .inl ⟨tokens, .blank hblank h⟩
        · exact .inr ⟨error, .blank hblank h⟩
      · have hlt : after.length < (c :: rest).length := by
          rw [hs, List.length_append]
          exact Nat.lt_add_of_pos_left (List.length_pos_iff.2 hlead.ne_nil)
        rw [hs]
        rcases ih after.length hlt depth (kind = .operator) (position + text.length) after rfl
          with ⟨tokens, h⟩ | ⟨error, h⟩
        · exact .inl ⟨_, .leaf hlead h⟩
        · exact .inr ⟨error, .leaf hlead h⟩
      · have hlength : (c :: rest).length = inner.length + after.length + 2 := by
          rw [hs]
          simp
          omega
        rw [hs]
        by_cases hdepth : depth < limit
        · -- The text behind the group is looked at only if the group is read.
          rcases ih inner.length (by omega) (depth + 1) true (position + 1) inner rfl
            with ⟨children, hinner⟩ | ⟨error, hinner⟩
          · rcases ih after.length (by omega) depth false (position + (inner.length + 2)) after
              rfl with ⟨tokens, h⟩ | ⟨error, h⟩
            · exact .inl ⟨_, .group hdepth hclose hinner h⟩
            · exact .inr ⟨error, .behind hdepth hclose hinner h⟩
          · exact .inr ⟨error, .inside hdepth hclose hinner⟩
        · exact .inr ⟨_, .tooDeep (Nat.le_of_not_lt hdepth) (by simp)⟩
      · exact .inr ⟨_, .unterminated hclose⟩
      · exact .inr ⟨_, .unrecognized hblank hopening hnone⟩

theorem lexWindow_eq_ok_iff {tokens : List Token} :
    lexWindow limit depth operand position window = .ok tokens ↔
      Reads limit depth operand position window tokens := by
  refine ⟨fun h => ?_, Reads.lexWindow_eq⟩
  rcases reads_or_stops limit depth operand position window with
    ⟨tokens', hreads⟩ | ⟨error, hstops⟩
  · cases hreads.lexWindow_eq.symm.trans h
    exact hreads
  · cases hstops.lexWindow_eq.symm.trans h

theorem lexWindow_eq_error_iff {error : LexError} :
    lexWindow limit depth operand position window = .error error ↔
      Stops limit depth operand position window error := by
  refine ⟨fun h => ?_, Stops.lexWindow_eq⟩
  rcases reads_or_stops limit depth operand position window with
    ⟨tokens, hreads⟩ | ⟨error', hstops⟩
  · cases hreads.lexWindow_eq.symm.trans h
  · cases hstops.lexWindow_eq.symm.trans h
    exact hstops

end

/-! ### The rules read backwards -/

section

variable {limit depth : Nat} {operand : Bool} {position : Int}

theorem reads_blank_iff {c : Char} {rest : List Char} {tokens : List Token}
    (hblank : isBlank c) :
    Reads limit depth operand position (c :: rest) tokens ↔
      Reads limit depth operand (position + 1) rest tokens := by
  rw [← lexWindow_eq_ok_iff, lexWindow_blank hblank, lexWindow_eq_ok_iff]

theorem stops_blank_iff {c : Char} {rest : List Char} {error : LexError} (hblank : isBlank c) :
    Stops limit depth operand position (c :: rest) error ↔
      Stops limit depth operand (position + 1) rest error := by
  rw [← lexWindow_eq_error_iff, lexWindow_blank hblank, lexWindow_eq_error_iff]

theorem stops_leaf_iff {kind : LeafKind} {text rest : List Char} {error : LexError}
    (hlead : Leads operand kind text rest) :
    Stops limit depth operand position (text ++ rest) error ↔
      Stops limit depth (kind = .operator) (position + text.length) rest error := by
  simp only [← lexWindow_eq_error_iff, lexWindow_leaf hlead]
  cases lexWindow limit depth (kind = .operator) (position + text.length) rest <;>
    simp [bind, Except.bind, pure, Except.pure]

theorem stops_group_iff {inner after : List Char} {error : LexError} (hdepth : depth < limit)
    (hclose : ')' ∉ after) :
    Stops limit depth operand position ('(' :: inner ++ ')' :: after) error ↔
      Stops limit (depth + 1) true (position + 1) inner error ∨
        (∃ children, Reads limit (depth + 1) true (position + 1) inner children) ∧
          Stops limit depth false (position + (inner.length + 2)) after error := by
  simp only [← lexWindow_eq_error_iff, ← lexWindow_eq_ok_iff, lexWindow_group hdepth hclose]
  cases lexWindow limit (depth + 1) true (position + 1) inner <;>
    cases lexWindow limit depth false (position + (inner.length + 2)) after <;>
    simp [bind, Except.bind, pure, Except.pure]

end

/-! ### Derivations at other positions -/

theorem Span.shift_shift (m n : Int) (span : Span) :
    (span.shift n).shift m = span.shift (n + m) := by
  simp only [Span.shift, Int.add_assoc]

theorem Token.shift_shift (m n : Int) (tokens : List Token) :
    shift m (shift n tokens) = shift (n + m) tokens := by
  fun_induction shift n tokens with
  | case1 => rw [shift, shift]
  | case2 kind text span rest ih => rw [shift, shift, ih, Span.shift_shift]
  | case3 children span rest ihchildren ih =>
      rw [shift, shift, ihchildren, ih, Span.shift_shift]

theorem Token.shift_zero (tokens : List Token) : shift 0 tokens = tokens := by
  have hspan (span : Span) : span.shift 0 = span := by simp [Span.shift]
  fun_induction shift 0 tokens with
  | case1 => rfl
  | case2 kind text span rest ih => rw [ih, hspan]
  | case3 children span rest ihchildren ih => rw [ihchildren, ih, hspan]

theorem Reads.shift {limit depth : Nat} {operand : Bool} {position : Int} {window : List Char}
    {tokens : List Token} (h : Reads limit depth operand position window tokens) (n : Int) :
    Reads limit depth operand (position + n) window (Token.shift n tokens) := by
  induction h with
  | nil =>
      rw [Token.shift]
      exact .nil
  | blank hblank _ ih =>
      rw [Int.add_right_comm] at ih
      exact .blank hblank ih
  | leaf hlead _ ih =>
      rw [Int.add_right_comm] at ih
      rw [Token.shift, Span.shift, Int.add_right_comm]
      exact .leaf hlead ih
  | group hdepth hclose _ _ ihinner ihafter =>
      rw [Int.add_right_comm] at ihinner ihafter
      rw [Token.shift, Span.shift, Int.add_right_comm]
      exact .group hdepth hclose ihinner ihafter

/-- An error with its position moved to the right. -/
def LexError.shift (n : Int) (error : LexError) : LexError :=
  { error with position := error.position + n }

theorem Stops.shift {limit depth : Nat} {operand : Bool} {position : Int} {window : List Char}
    {error : LexError} (h : Stops limit depth operand position window error) (n : Int) :
    Stops limit depth operand (position + n) window (error.shift n) := by
  induction h with
  | unrecognized hblank hopening hnone => exact .unrecognized hblank hopening hnone
  | unterminated hclose => exact .unterminated hclose
  | tooDeep hdepth hclose => exact .tooDeep hdepth hclose
  | blank hblank _ ih =>
      rw [Int.add_right_comm] at ih
      exact .blank hblank ih
  | leaf hlead _ ih =>
      rw [Int.add_right_comm] at ih
      exact .leaf hlead ih
  | inside hdepth hclose _ ih =>
      rw [Int.add_right_comm] at ih
      exact .inside hdepth hclose ih
  | behind hdepth hclose hinner _ ih =>
      have hinner := hinner.shift n
      rw [Int.add_right_comm] at hinner ih
      exact .behind hdepth hclose hinner ih

/-- A result of the lexer with all its positions moved to the right. -/
def shiftResult (n : Int) : Except LexError (List Token) → Except LexError (List Token)
  | .ok tokens => .ok (Token.shift n tokens)
  | .error error => .error (error.shift n)

/-- The position at which a window starts is added to all positions in its result. -/
theorem lexWindow_add (limit depth : Nat) (operand : Bool) (position n : Int)
    (window : List Char) :
    lexWindow limit depth operand (position + n) window =
      shiftResult n (lexWindow limit depth operand position window) := by
  rcases reads_or_stops limit depth operand position window with ⟨tokens, h⟩ | ⟨error, h⟩
  · rw [h.lexWindow_eq, (h.shift n).lexWindow_eq, shiftResult]
  · rw [h.lexWindow_eq, (h.shift n).lexWindow_eq, shiftResult]

end FormulaLexer
