import Mathlib
import FormulaLexer.Proofs.Lexer.Acceptance
import FormulaLexer.Proofs.Text.Slice

/-!
Where and why the lexer stops. An error divides the text into what was read, what was left
of the window, and what stands behind the window. What was read is sound: with its open
groups closed it is a text that the lexer accepts.
-/

namespace FormulaLexer

open Text Shape

/-- What stands where the lexer stops for a given reason. -/
inductive Cause (room : Nat) (before : List Char) : List Char → Reason → Prop
  | unrecognized {c rest}
      (hopening : c ≠ '(') (hblank : isBlank c = false)
      (hchar : isLeafChar c = false ∨ isLetter c ∧
        ¬ OpensReference (c :: rest.takeWhile isLetter) (rest.dropWhile isLetter)) :
      Cause room before (c :: rest) .unrecognizedToken
  | unterminated {rest} (hclose : ')' ∉ rest) :
      Cause room before ('(' :: rest) .unterminatedGroup
  | tooDeep {rest} (hclose : ')' ∈ rest)
      (hopenings : before.count '(' = room) (hclosings : ')' ∉ before) :
      Cause room before ('(' :: rest) .depthExceeded

/-- What stands before the lexer counts only where a group stands in too many others. -/
theorem Cause.of_before {room room' : Nat} {before before' here : List Char} {reason : Reason}
    (h : Cause room before here reason)
    (hbefore : ')' ∈ here → before.count '(' = room → ')' ∉ before →
      before'.count '(' = room' ∧ ')' ∉ before') : Cause room' before' here reason := by
  cases h with
  | unrecognized hopening hblank hchar => exact .unrecognized hopening hblank hchar
  | unterminated hclose => exact .unterminated hclose
  | tooDeep hclose hopenings hclosings =>
      obtain ⟨hopenings, hclosings⟩ :=
        hbefore (List.mem_cons_of_mem _ hclose) hopenings hclosings
      exact .tooDeep hclose hopenings hclosings

/-- An error divides a window. The part `beyond` starts with the parenthesis that closes the
innermost group around the error, if there is one. -/
structure StopsAt (room : Nat) (position : Int) (error : LexError)
    (before here beyond : List Char) : Prop where
  position_eq : error.position = position + before.length
  remaining_eq : error.remaining = String.ofList here
  opened : before.count '(' = before.count ')' + beyond.count ')'
  beyond_eq : beyond = [] ∨ beyond.head? = some ')'
  repaired : Accepted room (before ++ List.replicate (beyond.count ')') ')')
  cause : Cause room before here error.reason

namespace StopsAt

variable {room : Nat} {position : Int} {error : LexError} {before here beyond : List Char}

/-- Text without parentheses may stand in front. -/
theorem append {text : List Char}
    (hcharacters : ∀ c ∈ text, isLeafChar c ∨ isBlank c)
    (haccepted : ∀ s, Accepted room (text ++ s) ↔ Accepted room s)
    (h : StopsAt room (position + text.length) error before here beyond) :
    StopsAt room position error (text ++ before) here beyond where
  position_eq := by
    rw [h.position_eq, List.length_append]
    omega
  remaining_eq := h.remaining_eq
  opened := by
    obtain ⟨hopening, hclosing⟩ := count_parentheses hcharacters
    simpa [hopening, hclosing] using h.opened
  beyond_eq := h.beyond_eq
  repaired := by
    rw [List.append_assoc]
    exact (haccepted _).2 h.repaired
  cause := by
    obtain ⟨hopening, hclosing⟩ := count_parentheses hcharacters
    refine h.cause.of_before fun _ hopenings hclosings => ?_
    rw [List.mem_append, not_or, List.count_append, hopening, Nat.zero_add]
    exact ⟨hopenings, List.count_eq_zero.1 hclosing, hclosings⟩

/-- An error inside a group is an error of the window around it. -/
theorem inside {after : List Char} (hroom : 0 < room) (hclose : ')' ∉ after)
    (h : StopsAt (room - 1) (position + 1) error before here beyond) :
    StopsAt room position error ('(' :: before) here (beyond ++ ')' :: after) := by
  have hcount : (beyond ++ ')' :: after).count ')' = beyond.count ')' + 1 := by
    simp [List.count_eq_zero.2 hclose]
  refine {
    position_eq := ?_
    remaining_eq := h.remaining_eq
    opened := ?_
    beyond_eq := .inr ?_
    repaired := ?_
    cause := ?_ }
  · rw [h.position_eq, List.length_cons]
    omega
  · have hopened := h.opened
    rw [hcount]
    simp only [List.count_cons_self, List.count_cons_of_ne (show '(' ≠ ')' by decide)]
    omega
  · rcases h.beyond_eq with rfl | hhead
    · rfl
    · rw [List.head?_append, hhead]
      rfl
  · -- The parenthesis that closes the group closes the repaired text as well.
    have htext : '(' :: before ++ List.replicate (beyond.count ')' + 1) ')' =
        '(' :: (before ++ List.replicate (beyond.count ')') ')') ++ ')' :: [] := by
      rw [List.replicate_succ', ← List.append_assoc, List.cons_append, List.cons_append]
    rw [hcount, htext, accepted_group List.not_mem_nil]
    exact ⟨hroom, h.repaired, accepted_nil room⟩
  · refine h.cause.of_before fun _ hopenings hclosings => ?_
    rw [List.count_cons_self, hopenings, Nat.sub_add_cancel hroom]
    exact ⟨rfl, by simp [hclosings]⟩

/-- An error behind a group lies in no further group, as the group reaches to the last
closing parenthesis of the window. -/
theorem behind {inner : List Char} (hroom : 0 < room) (hinner : Accepted (room - 1) inner)
    (hclose : ')' ∉ before ++ here ++ beyond)
    (h : StopsAt room (position + (inner.length + 2)) error before here beyond) :
    StopsAt room position error ('(' :: inner ++ ')' :: before) here beyond := by
  rw [List.mem_append, List.mem_append, not_or, not_or] at hclose
  obtain ⟨⟨hbefore, hhere⟩, hbeyond⟩ := hclose
  -- No group is open here, so the repaired text ends where the lexer stops.
  have hcount : beyond.count ')' = 0 := List.count_eq_zero.2 hbeyond
  have hrepaired := h.repaired
  rw [hcount, List.replicate_zero, List.append_nil] at hrepaired
  refine {
    position_eq := ?_
    remaining_eq := h.remaining_eq
    opened := ?_
    beyond_eq := h.beyond_eq
    repaired := ?_
    cause := ?_ }
  · rw [h.position_eq]
    simp only [List.length_append, List.length_cons]
    omega
  · have hopened := h.opened
    have hbalance := hinner.balance
    simp
    omega
  · rw [hcount, List.replicate_zero, List.append_nil, accepted_group hbefore]
    exact ⟨hroom, hinner, hrepaired⟩
  · exact h.cause.of_before fun hmem => absurd hmem hhere

end StopsAt

theorem Stops.exists_stopsAt {limit depth : Nat} {operand : Bool} {position : Int}
    {window : List Char} {error : LexError}
    (h : Stops limit depth operand position window error) :
    ∃ before here beyond, window = before ++ here ++ beyond ∧
      StopsAt (limit - depth) position error before here beyond := by
  induction h with
  | unrecognized hblank hopening hnone =>
      exact ⟨[], _, [], by simp, by simp, rfl, rfl, .inl rfl, accepted_nil _,
        .unrecognized hopening hblank (unrecognized_cases hnone)⟩
  | unterminated hclose =>
      exact ⟨[], _, [], by simp, by simp, rfl, rfl, .inl rfl, accepted_nil _,
        .unterminated hclose⟩
  | tooDeep hdepth hclose =>
      exact ⟨[], _, [], by simp, by simp, rfl, rfl, .inl rfl, accepted_nil _,
        .tooDeep hclose (Nat.sub_eq_zero_of_le hdepth).symm (by simp)⟩
  | @blank depth operand position c rest error hblank _ ih =>
      obtain ⟨before, here, beyond, rfl, h⟩ := ih
      refine ⟨[c] ++ before, here, beyond, rfl, h.append ?_ fun s => accepted_blank hblank⟩
      simp [hblank]
  | leaf hlead _ ih =>
      obtain ⟨before, here, beyond, rfl, h⟩ := ih
      exact ⟨_, here, beyond, by simp only [List.append_assoc],
        h.append (fun c hc => .inl (hlead.spells.isLeafChar c hc))
          fun s => accepted_leaf hlead.spells⟩
  | inside hdepth hclose _ ih =>
      obtain ⟨before, here, beyond, rfl, h⟩ := ih
      exact ⟨_, here, _, by simp, h.inside (Nat.sub_pos_of_lt hdepth) hclose⟩
  | behind hdepth hclose hinner _ ih =>
      obtain ⟨before, here, beyond, rfl, h⟩ := ih
      exact ⟨_, here, beyond, by simp,
        h.behind (Nat.sub_pos_of_lt hdepth) hinner.accepted hclose⟩

theorem exists_stopsAt_of_tokenize {limit : DepthLimit} {offset : Int} {expression : String}
    {error : LexError} (h : tokenize limit offset expression = .error error) :
    ∃ before here beyond, expression.toList = before ++ here ++ beyond ∧
      StopsAt limit.value offset error before here beyond :=
  (lexWindow_eq_error_iff.1 h).exists_stopsAt

/-! ### The content of an error -/

/-- Where the innermost window in so many open groups ends: at the end of the text, or at the
closing parenthesis that has this number, counted from the end. -/
def EndsWindow (e : List Char) (groups stop : Nat) : Prop :=
  if groups = 0 then stop = e.length
  else e[stop]? = some ')' ∧ (e.drop stop).count ')' = groups

/-- What an error tells about a text: it stands at `start`, in so many open groups, and the
window around it ends at `stop`. -/
structure ErrorContent (limit : Nat) (offset : Int) (e : List Char) (error : LexError)
    (start groups stop : Nat) : Prop where
  position_eq : error.position = offset + start
  opened : (e.take start).count '(' = (e.take start).count ')' + groups
  closings : groups ≤ (e.drop (start + 1)).count ')'
  stop_eq : EndsWindow e groups stop
  start_lt : start < stop
  remaining_eq : error.remaining = String.ofList (slice e start stop)
  visible : ∃ c ∈ e[start]?, isBlank c = false
  unterminated : error.reason = .unterminatedGroup ↔
    e[start]? = some '(' ∧ ')' ∉ slice e start stop
  tooDeep : error.reason = .depthExceeded ↔ e[start]? = some '(' ∧ ')' ∈ slice e start stop
  openings : error.reason = .depthExceeded →
    (e.take start).count '(' = limit ∧ ')' ∉ e.take start
  unrecognized : error.reason = .unrecognizedToken ↔ e[start]? ≠ some '('
  culprit : error.reason = .unrecognizedToken →
    (∃ c ∈ e[start]?, isLeafChar c = false) ∨
      ∃ run after, LetterRun e (e.take start) run after ∧ ¬ OpensReference run after

namespace Cause

variable {room : Nat} {before here : List Char} {reason : Reason}

theorem ne_nil (h : Cause room before here reason) : here ≠ [] := by
  cases h <;> exact List.cons_ne_nil _ _

theorem visible (h : Cause room before here reason) :
    ∃ c ∈ here.head?, isBlank c = false := by
  cases h with
  | unrecognized _ hblank _ => exact ⟨_, rfl, hblank⟩
  | unterminated _ => exact ⟨'(', rfl, by decide⟩
  | tooDeep _ _ _ => exact ⟨'(', rfl, by decide⟩

theorem unterminated_iff (h : Cause room before here reason) :
    reason = .unterminatedGroup ↔ here.head? = some '(' ∧ ')' ∉ here := by
  cases h with
  | unrecognized hopening _ _ => simp [hopening]
  | unterminated hclose => simp [hclose]
  | tooDeep hclose _ _ => simp [hclose]

theorem tooDeep_iff (h : Cause room before here reason) :
    reason = .depthExceeded ↔ here.head? = some '(' ∧ ')' ∈ here := by
  cases h with
  | unrecognized hopening _ _ => simp [hopening]
  | unterminated hclose => simp [hclose]
  | tooDeep hclose _ _ => simp [hclose]

theorem unrecognized_iff (h : Cause room before here reason) :
    reason = .unrecognizedToken ↔ here.head? ≠ some '(' := by
  cases h with
  | unrecognized hopening _ _ => simp [hopening]
  | unterminated _ => simp
  | tooDeep _ _ _ => simp

end Cause

namespace StopsAt

variable {limit : Nat} {offset : Int} {error : LexError} {before here beyond : List Char}

/-- What stands behind the window neither is a letter nor ends a run. -/
theorem head_beyond (h : StopsAt limit offset error before here beyond) :
    ∀ d ∈ beyond.head?, isLetter d = false ∧ isLeadingDigit d = false := by
  intro d hd
  rcases h.beyond_eq with rfl | hhead
  · contradiction
  · cases hd.symm.trans hhead
    decide

theorem endsWindow (h : StopsAt limit offset error before here beyond) :
    EndsWindow (before ++ here ++ beyond) (beyond.count ')') (before ++ here).length := by
  rw [EndsWindow]
  rcases h.beyond_eq with rfl | hhead
  · simp
  · obtain ⟨t, rfl⟩ := List.head?_eq_some_iff.1 hhead
    rw [if_neg (by simp), List.drop_left]
    refine ⟨?_, rfl⟩
    rw [List.getElem?_append_right (Nat.le_refl _), Nat.sub_self]
    rfl

/-- A letter at which the lexer stops is the first one of its run. -/
theorem letterRun {c : Char} {rest : List Char} (hletter : isLetter c)
    (h : StopsAt limit offset error before (c :: rest) beyond) :
    LetterRun (before ++ c :: rest ++ beyond) before (c :: rest.takeWhile isLetter)
      (rest.dropWhile isLetter ++ beyond) where
  split := by
    rw [List.append_assoc, List.append_assoc, List.cons_append, List.cons_append,
      ← List.append_assoc (rest.takeWhile isLetter), List.takeWhile_append_dropWhile]
  ne_nil := List.cons_ne_nil _ _
  letters := (letterRun_takeWhile hletter).letters
  left := by
    -- A letter just before the error would open no reference in the repaired text.
    have hclosed := lettersClosed_iff.2 h.repaired.runs
    apply hclosed.getLast
    intro d hd
    have hmem := List.mem_of_mem_head? hd
    rw [(List.mem_replicate.1 hmem).2]
    decide
  right := by
    intro d hd
    rw [List.head?_append, Option.mem_def, Option.or_eq_some_iff] at hd
    rcases hd with hd | ⟨-, hd⟩
    · exact head_dropWhile d hd
    · exact (h.head_beyond d hd).1

theorem culprit (h : StopsAt limit offset error before here beyond)
    (hreason : error.reason = .unrecognizedToken) :
    (∃ c ∈ here.head?, isLeafChar c = false) ∨
      ∃ run after, LetterRun (before ++ here ++ beyond) before run after ∧
        ¬ OpensReference run after := by
  have hcause := h.cause
  rw [hreason] at hcause
  cases hcause with
  | @unrecognized c rest hopening hblank hchar =>
      rcases hchar with hchar | ⟨hletter, hopens⟩
      · exact .inl ⟨c, rfl, hchar⟩
      · refine .inr ⟨_, _, h.letterRun hletter, fun hrun => hopens ?_⟩
        exact hrun.of_append fun d hd => (h.head_beyond d hd).2

theorem content (h : StopsAt limit offset error before here beyond) :
    ErrorContent limit offset (before ++ here ++ beyond) error before.length
      (beyond.count ')') (before ++ here).length := by
  have hcause := h.cause
  have hhead : (before ++ here ++ beyond)[before.length]? = here.head? := by
    rw [List.append_assoc, List.getElem?_append_right (Nat.le_refl _), Nat.sub_self]
    obtain ⟨c, rest, rfl⟩ := List.exists_cons_of_ne_nil hcause.ne_nil
    rfl
  exact {
    position_eq := h.position_eq
    opened := by
      rw [take_middle]
      exact h.opened
    closings := by
      obtain ⟨c, rest, rfl⟩ := List.exists_cons_of_ne_nil hcause.ne_nil
      have hdrop : (before ++ c :: rest ++ beyond).drop (before.length + 1) = rest ++ beyond := by
        rw [← List.drop_drop, List.append_assoc, List.drop_left]
        rfl
      rw [hdrop, List.count_append]
      exact Nat.le_add_left _ _
    stop_eq := h.endsWindow
    start_lt := by
      rw [List.length_append]
      exact Nat.lt_add_of_pos_right (List.length_pos_iff.2 hcause.ne_nil)
    remaining_eq := by rw [slice_middle, h.remaining_eq]
    visible := by
      rw [hhead]
      exact hcause.visible
    unterminated := by
      rw [hhead, slice_middle]
      exact hcause.unterminated_iff
    tooDeep := by
      rw [hhead, slice_middle]
      exact hcause.tooDeep_iff
    openings := by
      intro hreason
      rw [hreason] at hcause
      rw [take_middle]
      cases hcause with
      | tooDeep hclose hopenings hclosings => exact ⟨hopenings, hclosings⟩
    unrecognized := by
      rw [hhead]
      exact hcause.unrecognized_iff
    culprit := by
      rw [hhead, take_middle]
      exact h.culprit }

end StopsAt

/-- Every error of the lexer tells where it stands, what is left of the window around it, and
what is wrong there. -/
theorem exists_errorContent_of_tokenize {limit : DepthLimit} {offset : Int}
    {expression : String} {error : LexError}
    (h : tokenize limit offset expression = .error error) :
    ∃ start groups stop,
      ErrorContent limit.value offset expression.toList error start groups stop := by
  obtain ⟨before, here, beyond, he, hstops⟩ := exists_stopsAt_of_tokenize h
  rw [he]
  exact ⟨_, _, _, hstops.content⟩

/-- The run of letters in the inner group opens no reference, and what is left of that group
is reported. -/
theorem exists_errorContent_nested :
    tokenize { value := 2 } 10 "1 + (A2 * (-3 - AB) / 4) - 5" =
        .error ⟨26, "AB", .unrecognizedToken⟩ ∧
      ∃ start groups stop, ErrorContent 2 10 "1 + (A2 * (-3 - AB) / 4) - 5".toList
        ⟨26, "AB", .unrecognizedToken⟩ start groups stop := by
  have h : tokenize { value := 2 } 10 "1 + (A2 * (-3 - AB) / 4) - 5" =
      .error ⟨26, "AB", .unrecognizedToken⟩ := by cbv
  exact ⟨h, exists_errorContent_of_tokenize h⟩

/-- The text in front of an error is sound: with its open groups closed, the lexer accepts
it. -/
theorem exists_tokenize_repaired {limit : DepthLimit} {offset : Int} {expression : String}
    {error : LexError} (h : tokenize limit offset expression = .error error) :
    ∃ start groups : Nat, error.position = offset + start ∧
      start < expression.toList.length ∧
      (expression.toList.take start).count '(' =
        (expression.toList.take start).count ')' + groups ∧
      ∀ offset', ∃ tokens, tokenize limit offset' (String.ofList
        (expression.toList.take start ++ List.replicate groups ')')) = .ok tokens := by
  obtain ⟨before, here, beyond, he, hstops⟩ := exists_stopsAt_of_tokenize h
  have hpos := List.length_pos_iff.2 hstops.cause.ne_nil
  rw [he]
  refine ⟨before.length, beyond.count ')', hstops.position_eq, ?_, ?_, ?_⟩
  · rw [List.length_append, List.length_append]
    omega
  · rw [take_middle]
    exact hstops.opened
  · intro offset'
    simp only [tokenize, String.toList_ofList, lexWindow_eq_ok_iff]
    rw [take_middle]
    exact exists_reads_iff.2 hstops.repaired

/-- The outer group ends with the text, and one parenthesis is missing in it. -/
theorem exists_tokenize_repaired_group :
    tokenize { value := 2 } (-7) "((A1) + (B22)" = .error ⟨1, "(B22", .unterminatedGroup⟩ ∧
      ∃ start groups : Nat, (1 : Int) = -7 + start ∧
        start < "((A1) + (B22)".toList.length ∧
        ("((A1) + (B22)".toList.take start).count '(' =
          ("((A1) + (B22)".toList.take start).count ')' + groups ∧
        ∀ offset', ∃ tokens, tokenize { value := 2 } offset' (String.ofList
          ("((A1) + (B22)".toList.take start ++ List.replicate groups ')')) = .ok tokens := by
  have h : tokenize { value := 2 } (-7) "((A1) + (B22)" =
      .error ⟨1, "(B22", .unterminatedGroup⟩ := by cbv
  exact ⟨h, exists_tokenize_repaired h⟩

end FormulaLexer
