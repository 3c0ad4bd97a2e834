import FormulaLexer.Proofs.Lexer.Failure

/-!
The limit on the depth of groups. What the lexer does depends only on the room that is left
for further groups, and more room changes nothing but an error that tells of missing room:
the lexer then gets past the place of that error.
-/

namespace FormulaLexer

open Text

/-! ### Derivations with more room -/

section

variable {limit limit' depth depth' : Nat} {operand : Bool} {position : Int}
  {window : List Char}

theorem Reads.of_room {tokens : List Token}
    (h : Reads limit depth operand position window tokens)
    (hroom : limit - depth ≤ limit' - depth') :
    Reads limit' depth' operand position window tokens := by
  induction h generalizing depth' with
  | nil => exact .nil
  | blank hblank _ ih => exact .blank hblank (ih hroom)
  | leaf hlead _ ih => exact .leaf hlead (ih hroom)
  | group hdepth hclose _ _ ihinner ihafter =>
      exact .group (by omega) hclose (ihinner (by omega)) (ihafter hroom)

/-- Only an error that tells of missing room needs just as much room as there was. -/
theorem Stops.of_room {error : LexError} (h : Stops limit depth operand position window error)
    (hroom : limit - depth ≤ limit' - depth')
    (hreason : error.reason = .depthExceeded → limit' - depth' ≤ limit - depth) :
    Stops limit' depth' operand position window error := by
  induction h generalizing depth' with
  | unrecognized hblank hopening hnone => exact .unrecognized hblank hopening hnone
  | unterminated hclose => exact .unterminated hclose
  | tooDeep hdepth hclose =>
      have := hreason rfl
      exact .tooDeep (by omega) hclose
  | blank hblank _ ih => exact .blank hblank (ih hroom hreason)
  | leaf hlead _ ih => exact .leaf hlead (ih hroom hreason)
  | inside hdepth hclose _ ih =>
      refine .inside (by omega) hclose (ih (by omega) fun h => ?_)
      have := hreason h
      omega
  | behind hdepth hclose hinner _ ih =>
      exact .behind (by omega) hclose (hinner.of_room (by omega)) (ih hroom hreason)

/-- The room that is left decides what the lexer does. -/
theorem lexWindow_eq_of_room (hroom : limit - depth = limit' - depth') :
    lexWindow limit depth operand position window =
      lexWindow limit' depth' operand position window := by
  rcases reads_or_stops limit depth operand position window with ⟨tokens, h⟩ | ⟨error, h⟩
  · rw [h.lexWindow_eq, (h.of_room (by omega)).lexWindow_eq]
  · rw [h.lexWindow_eq, (h.of_room (by omega) fun _ => by omega).lexWindow_eq]

end

/-! ### The place of an error of missing room -/

section

variable {limit limit' depth : Nat} {operand : Bool} {position : Int} {window : List Char}
  {error error' : LexError}

theorem Stops.position_bounds (h : Stops limit depth operand position window error) :
    position ≤ error.position ∧ error.position < position + window.length := by
  obtain ⟨before, here, beyond, rfl, hstops⟩ := h.exists_stopsAt
  have hpos := List.length_pos_iff.2 hstops.cause.ne_nil
  rw [hstops.position_eq, List.length_append, List.length_append]
  omega

/-- With a higher limit the lexer gets past the group that stood in too many others. -/
theorem Stops.position_lt (h : Stops limit depth operand position window error)
    (hreason : error.reason = .depthExceeded) (hdepth : depth ≤ limit) (hlimit : limit < limit')
    (h' : Stops limit' depth operand position window error') :
    error.position < error'.position := by
  induction h with
  | unrecognized _ _ _ => contradiction
  | unterminated _ => contradiction
  | tooDeep _ hclose =>
      obtain ⟨inner, after, rfl, hafter⟩ := Shape.exists_last hclose
      rw [← List.cons_append, stops_group_iff (by omega) hafter] at h'
      rcases h' with hinner | ⟨-, hbehind⟩
      · have := hinner.position_bounds
        simp only
        omega
      · have := hbehind.position_bounds
        simp only
        omega
  | blank hblank _ ih => exact ih hreason hdepth ((stops_blank_iff hblank).1 h')
  | leaf hlead _ ih => exact ih hreason hdepth ((stops_leaf_iff hlead).1 h')
  | inside _ hclose hinner ih =>
      rw [stops_group_iff (by omega) hclose] at h'
      rcases h' with hinner' | ⟨-, hbehind⟩
      · exact ih hreason (by omega) hinner'
      · -- The error with the lower limit stands inside the group, this one behind it.
        have hbounds := hinner.position_bounds
        have hbounds' := hbehind.position_bounds
        omega
  | @behind depth _ position inner _ children _ _ hclose hinner _ ih =>
      rw [stops_group_iff (by omega) hclose] at h'
      rcases h' with hinner' | ⟨-, hbehind⟩
      · -- The group is read with either limit.
        have hreads : Reads limit' (depth + 1) true (position + 1) inner children :=
          hinner.of_room (by omega)
        cases hreads.lexWindow_eq.symm.trans hinner'.lexWindow_eq
      · exact ih hreason hdepth hbehind

end

/-- A higher limit keeps every result but an error of missing room. Such an error stands at
the first opening parenthesis that has as many others before it as the limit allows, and
with the higher limit every error stands behind it. -/
theorem tokenize_of_limit_lt {limit limit' : DepthLimit} (hlimit : limit.value < limit'.value)
    (offset : Int) (expression : String) :
    (∀ tokens, tokenize limit offset expression = .ok tokens →
      tokenize limit' offset expression = .ok tokens) ∧
    (∀ error, tokenize limit offset expression = .error error →
      error.reason ≠ .depthExceeded → tokenize limit' offset expression = .error error) ∧
    ∀ error, tokenize limit offset expression = .error error →
      error.reason = .depthExceeded →
        (∃ start : Nat, error.position = offset + start ∧
          expression.toList[start]? = some '(' ∧
          (expression.toList.take start).count '(' = limit.value) ∧
        ∀ error', tokenize limit' offset expression = .error error' →
          error.position < error'.position := by
  refine ⟨fun tokens h => ?_, fun error h hreason => ?_, fun error h hreason => ⟨?_, ?_⟩⟩
  · have hreads := lexWindow_eq_ok_iff.1 h
    exact (hreads.of_room (by omega)).lexWindow_eq
  · have hstops := lexWindow_eq_error_iff.1 h
    exact (hstops.of_room (by omega) fun heq => absurd heq hreason).lexWindow_eq
  · obtain ⟨before, here, beyond, he, hstops⟩ := exists_stopsAt_of_tokenize h
    have hcause := hstops.cause
    rw [hreason] at hcause
    cases hcause with
    | tooDeep hclose hopenings hclosings =>
        refine ⟨before.length, hstops.position_eq, ?_, ?_⟩
        · rw [he, List.append_assoc, List.getElem?_append_right (Nat.le_refl _), Nat.sub_self]
          rfl
        · rw [he, take_middle, hopenings]
  · intro error' h'
    exact (lexWindow_eq_error_iff.1 h).position_lt hreason (Nat.zero_le _) hlimit
      (lexWindow_eq_error_iff.1 h')

/-- The second group is one too many for a limit of one, the third for a limit of two. -/
theorem tokenize_of_limit_lt_nested :
    tokenize { value := 1 } 5 "(A1 - (3 + (4)))" =
        .error ⟨11, "(3 + (4))", .depthExceeded⟩ ∧
      (∃ start : Nat, (11 : Int) = 5 + start ∧
        "(A1 - (3 + (4)))".toList[start]? = some '(' ∧
        ("(A1 - (3 + (4)))".toList.take start).count '(' = 1) ∧
      ∀ error', tokenize { value := 2 } 5 "(A1 - (3 + (4)))" = .error error' →
        11 < error'.position := by
  have h : tokenize { value := 1 } 5 "(A1 - (3 + (4)))" =
      .error ⟨11, "(3 + (4))", .depthExceeded⟩ := by cbv
  have hlimits : (1 : Nat) < 2 := by decide
  exact ⟨h, (tokenize_of_limit_lt hlimits 5 _).2.2 _ h rfl⟩

end FormulaLexer
