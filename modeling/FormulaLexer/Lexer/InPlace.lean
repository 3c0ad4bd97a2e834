import FormulaLexer.Lexer.Basic

/-!
Lexing in place. The text is kept whole and a window of it is given by its two ends, so that
nothing is copied for the inside of a group.
-/

namespace FormulaLexer

/-- The position behind the blanks that stand at `start`, where the text counts as if it ended
at `stop`. -/
def Text.skipBlanks (s : List Char) (start stop : Nat) : Nat :=
  if start < stop ∧ s[start]?.any isBlank then skipBlanks s (start + 1) stop else start
termination_by stop - start

theorem Text.le_skipBlanks (s : List Char) (start stop : Nat) :
    start ≤ skipBlanks s start stop := by
  fun_induction skipBlanks s start stop with
  | case1 start _ ih => omega
  | case2 start _ => exact Nat.le_refl start

namespace Lexeme

/-- The lexeme at `start`, where the text counts as if it ended at `stop`. -/
def between? (signed : Bool) (s : List Char) (start stop : Nat) : Option Lexeme :=
  first? signed ((s.take stop).drop start)

theorem clampBound_of_le {length bound : Nat} (h : bound ≤ length)
    (hlength : (length : Int) < Int.pow 2 63) : clampBound length bound = .ok bound := by
  have hpow : 0 < Int.pow 2 63 := by decide
  have hrange : -Int.pow 2 63 ≤ (bound : Int) ∧ (bound : Int) < Int.pow 2 63 := by omega
  rw [clampBound, if_pos hrange, Int.toNat_natCast, Nat.min_eq_left h]

/-- Within a text, bounds that do not cross are not moved. -/
theorem inSlice?_eq_between? {signed : Bool} {s : List Char} {start stop : Nat}
    (hle : start ≤ stop) (hstop : stop ≤ s.length) (hlength : (s.length : Int) < Int.pow 2 63) :
    inSlice? signed s start (some stop) = .ok (between? signed s start stop) := by
  simp only [inSlice?, clampBound_of_le (Nat.le_trans hle hstop) hlength,
    clampBound_of_le hstop hlength]
  simp [bind, Except.bind, pure, Except.pure, hle, between?]

theorem bounds_of_between? {signed : Bool} {s : List Char} {start stop : Nat} {lexeme : Lexeme}
    (h : between? signed s start stop = some lexeme) :
    0 < lexeme.text.length ∧ start + lexeme.text.length ≤ stop := by
  obtain ⟨hfront, hne⟩ := prefix_of_first? h
  have hpos := List.length_pos_iff.2 hne
  have hle := hfront.length_le
  simp only [List.length_drop, List.length_take] at hle
  omega

end Lexeme

/-- The tokens of a text between two of its positions, behind those that were read there
before. -/
def lexInPlace (limit : Nat) (s : List Char) (depth : Nat) (offset : Int) (before : List Token)
    (start stop : Nat) : Except LexError (List Token) :=
  let here := Text.skipBlanks s start stop
  if here < stop then
    let operand := before.getLast?.all fun token => token.kind = .leaf .operator
    let remaining := String.ofList ((s.take stop).drop here)
    match _h : Lexeme.between? operand s here stop with
    | none =>
      let reason := if s[here]? = some '(' then .unterminatedGroup else .unrecognizedToken
      .error ⟨here + offset, remaining, reason⟩
    | some lexeme =>
      let behind := here + lexeme.text.length
      let span : Span := ⟨here + offset, behind + offset⟩
      match lexeme.shape.leafKind? with
      | some kind =>
        let token := .leaf kind (String.ofList lexeme.text) span
        lexInPlace limit s depth offset (before ++ [token]) behind stop
      | none =>
        if limit ≤ depth then .error ⟨here + offset, remaining, .depthExceeded⟩
        else do
          let children ← lexInPlace limit s (depth + 1) offset [] (here + 1) (behind - 1)
          lexInPlace limit s depth offset (before ++ [.group children span]) behind stop
  else .ok before
termination_by stop - start
decreasing_by
  all_goals
    have hstart := Text.le_skipBlanks s start stop
    have hbounds := Lexeme.bounds_of_between? _h
    omega

end FormulaLexer
