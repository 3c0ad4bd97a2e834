import FormulaLexer.Proofs.Lexer.Turn
import FormulaLexer.Proofs.Text.Respacing

/-!
Progress. Every step moves the lexer on in the text, from one call into the next and back, and no
call gets out of its bounds. So the lexer ends, and it has looked for a lexeme at a different
visible character each time.
-/

namespace FormulaLexer

open Text

/-! ### Visible characters in front of a position -/

theorem length_visible_take_le {s : List Char} {m n : Nat} (h : m ≤ n) :
    (visible (s.take m)).length ≤ (visible (s.take n)).length :=
  ((List.take_prefix_take_left h).sublist.filter _).length_le

theorem length_visible_take_le_self (s : List Char) (n : Nat) :
    (visible (s.take n)).length ≤ (visible s).length :=
  ((List.take_sublist n s).filter _).length_le

/-- A visible character counts for every position behind it. -/
theorem LexCall.Meets.visible_lt {s : List Char} {call : LexCall} {here behind : Int}
    (h : call.Meets s here) (hstart : 0 ≤ call.start) (hlt : here < behind) :
    (visible (s.take call.start.toNat)).length < (visible (s.take behind.toNat)).length := by
  obtain ⟨hle, -, c, hc, hblank⟩ := h
  calc (visible (s.take call.start.toNat)).length
      ≤ (visible (s.take here.toNat)).length := length_visible_take_le (by omega)
    _ < (visible (s.take (here.toNat + 1))).length := by
        rw [List.take_add_one, hc, visible_append, List.length_append]
        simp [visible_cons hblank]
    _ ≤ (visible (s.take behind.toNat)).length := length_visible_take_le (by omega)

/-! ### Tokens of a tree -/

namespace Token

theorem entries_append (depth : Nat) (tokens tokens' : List Token) :
    entries depth (tokens ++ tokens') = entries depth tokens ++ entries depth tokens' := by
  induction tokens with
  | nil => rw [entries, List.nil_append, List.nil_append]
  | cons token tokens ih => cases token <;> simp [entries, ih]

theorem length_entries (depth depth' : Nat) (tokens : List Token) :
    (entries depth tokens).length = (entries depth' tokens).length := by
  fun_induction entries depth tokens generalizing depth' with
  | case1 => rw [entries]
  | case2 depth kind text span rest ih => simp [entries, ih depth']
  | case3 depth children span rest ihchildren ih =>
      simp [entries, ih depth', ihchildren (depth' + 1)]

end Token

/-! ### Calls around calls -/

/-- A group lies in what is left for its caller. -/
structure OpenGroup.Fits (group : OpenGroup) : Prop where
  start_le : group.caller.start ≤ group.start
  width : group.start + 2 ≤ group.stop
  stop_le : group.stop ≤ group.caller.stop

/-- A call reads the text between the parentheses of the first of some groups, and so does the
caller of each group for the next one. -/
inductive LexCall.Within (limit length : Nat) : LexCall → List OpenGroup → Prop
  | top {call : LexCall} (hcall : call.InBounds limit length) (hdepth : call.depth = 0) :
      Within limit length call []
  | inside {call : LexCall} {group around} (hcall : call.InBounds limit length)
      (hgroup : group.Fits) (hdepth : call.depth = group.caller.depth + 1)
      (hstop : call.stop = group.stop - 1) (hcaller : Within limit length group.caller around) :
      Within limit length call (group :: around)

namespace LexCall.Within

variable {limit length : Nat} {call : LexCall} {group : OpenGroup} {around : List OpenGroup}

theorem inBounds (h : Within limit length call around) : call.InBounds limit length := by
  cases h with
  | top hcall _ => exact hcall
  | inside hcall _ _ _ _ => exact hcall

theorem callers_inBounds (h : Within limit length call around) :
    ∀ group ∈ around, group.caller.InBounds limit length := by
  induction h with
  | top _ _ => simp
  | inside _ _ _ _ hcaller ih => exact List.forall_mem_cons.2 ⟨hcaller.inBounds, ih⟩

/-- As many calls wait as groups stand around the text of the call at work. -/
theorem length_eq (h : Within limit length call around) : around.length = call.depth := by
  induction h with
  | top _ hdepth => exact hdepth.symm
  | inside _ _ hdepth _ _ ih =>
      rw [hdepth, List.length_cons, ih]

/-- A call that has read a token is still within the same groups. -/
theorem read {token : Token} {behind : Int} (h : Within limit length call around)
    (hstart : call.start ≤ behind) (hstop : behind ≤ call.stop) :
    Within limit length (call.read token behind) around := by
  have hcall := h.inBounds
  have hread : (call.read token behind).InBounds limit length :=
    ⟨hcall.depth_le, hcall.start_nonneg.trans hstart, hstop, hcall.stop_le⟩
  cases h with
  | top _ hdepth => exact .top hread hdepth
  | inside _ hgroup hdepth hstop hcaller => exact .inside hread hgroup hdepth hstop hcaller

theorem enter (h : Within limit length group.caller around) (hgroup : group.Fits)
    (hdepth : group.caller.depth < limit) :
    Within limit length group.inside (group :: around) := by
  obtain ⟨-, hnonneg, -, hstop⟩ := h.inBounds
  obtain ⟨hstart, hwidth, hle⟩ := hgroup
  refine .inside ⟨hdepth, ?_, ?_, ?_⟩ ⟨hstart, hwidth, hle⟩ rfl rfl h
  · show 0 ≤ group.start + 1
    omega
  · show group.start + 1 ≤ group.stop - 1
    omega
  · show group.stop - 1 ≤ length
    omega

/-- The end of a group is behind the call that reads it and behind its caller. -/
theorem start_lt (h : Within limit length call (group :: around)) :
    call.start < group.stop ∧ group.caller.start < group.stop := by
  cases h with
  | inside hcall hgroup _ hstop _ =>
      have hend := hcall.start_le
      obtain ⟨hstart, hwidth, -⟩ := hgroup
      omega

theorem leave {offset : Int} {children : List Token}
    (h : Within limit length call (group :: around)) :
    Within limit length (group.close offset children) around := by
  cases h with
  | inside _ hgroup _ _ hcaller =>
      obtain ⟨hstart, hwidth, hle⟩ := hgroup
      exact hcaller.read (by omega) hle

end LexCall.Within

/-! ### What a step does -/

/-- How a lexer goes on. -/
inductive LexState.Advances (state next : LexState) : Prop
  /-- The call goes on behind a leaf, in its bounds. -/
  | turns (haround : next.around = state.around)
      (hdepth : next.active.depth = state.active.depth)
      (hstart : state.active.start < next.active.start)
      (hle : next.active.start ≤ state.active.stop)
      (hstop : next.active.stop = state.active.stop)
  /-- A call is made for a group, on a text shorter by two characters or more. -/
  | calls (group : OpenGroup) (haround : next.around = group :: state.around)
      (hcaller : group.caller = state.active) (hactive : next.active = group.inside)
      (hstart : state.active.start ≤ group.start) (hle : group.start + 1 ≤ group.stop - 1)
      (hwidth : (group.stop - 1) - (group.start + 1) + 2 ≤ state.active.stop - group.start)
  /-- The call has ended, and the one that waits for it goes on behind the group. -/
  | returns (group : OpenGroup) (haround : state.around = group :: next.around)
      (hdepth : next.active.depth = group.caller.depth)
      (hstart : group.caller.start < next.active.start)
      (hle : next.active.start ≤ group.caller.stop)
      (hstop : next.active.stop = group.caller.stop)

section

variable {limit : Nat} {s : List Char} {offset : Int} {state next : LexState}

/-- In the same call, in a new one or in one that has waited, a lexer goes on at a later position
of the text. -/
theorem LexState.advances_of_step (h : state.active.Within limit s.length state.around)
    (hstep : state.step limit s offset = .running next) :
    next.active.Within limit s.length next.around ∧
      state.active.start < next.active.start ∧ state.Advances next := by
  have htakes := h.inBounds.takes offset
  rw [step] at hstep
  generalize state.active.turn limit s offset = turn at htakes hstep
  cases htakes with
  | failed _ _ => contradiction
  | leaf hmeets hlt hle _ =>
      cases hstep
      have hstart := hmeets.start_le.trans_lt hlt
      exact ⟨h.read hstart.le hle, hstart, .turns rfl rfl hstart hle rfl⟩
  | @group start stop hmeets hdepth hwidth hle _ =>
      cases hstep
      have hstart := hmeets.start_le
      refine ⟨h.enter ⟨hstart, hwidth, hle⟩ hdepth, ?_, ?_⟩
      · show state.active.start < start + 1
        omega
      · exact .calls ⟨state.active, start, stop⟩ rfl rfl rfl hstart (by simp only; omega)
          (by simp only; omega)
  | ended _ =>
      cases haround : state.around with
      | nil => simp [haround] at hstep
      | cons group around =>
          simp only [haround] at hstep
          cases hstep
          rw [haround] at h
          obtain ⟨hactive, hcaller⟩ := h.start_lt
          refine ⟨h.leave, hactive, .returns group haround rfl hcaller ?_ rfl⟩
          cases h with
          | inside _ hgroup _ _ _ => exact hgroup.stop_le

end

/-! ### What a run leaves unchanged -/

/-- What becomes of the tokens of a call: the caller takes them for a group, and what it reads
in the end goes on to its own caller. -/
def handOn (limit : Nat) (s : List Char) (offset : Int) :
    List OpenGroup → List Token → Except LexError (List Token)
  | [], tokens => .ok tokens
  | group :: around, children => do
    let tokens ← (group.close offset children).result limit s offset
    handOn limit s offset around tokens

/-- The result that a lexer at work will come to. -/
def LexState.result (limit : Nat) (s : List Char) (offset : Int) (state : LexState) :
    Except LexError (List Token) := do
  let tokens ← state.active.result limit s offset
  handOn limit s offset state.around tokens

/-- The number of tokens that a lexer at work has come to, each group that is being read
counted as one. -/
def LexState.tokenCount (state : LexState) : Nat :=
  (Token.entries 0 state.active.before).length +
    (state.around.map fun group => (Token.entries 0 group.caller.before).length + 1).sum

/-- What holds of a lexer at work that will come to a result. -/
structure LexState.Sound (limit : Nat) (s : List Char) (offset : Int)
    (result : Except LexError (List Token)) (state : LexState) : Prop where
  within : state.active.Within limit s.length state.around
  /-- Each lexeme was looked for at a different visible character. -/
  lookups_le : state.lookups ≤ (visible (s.take state.active.start.toNat)).length
  lookups_eq : state.lookups = state.tokenCount
  result_eq : state.result limit s offset = result

def LexStatus.Sound (limit : Nat) (s : List Char) (offset : Int)
    (result : Except LexError (List Token)) : LexStatus → Prop
  | running state => state.Sound limit s offset result
  | finished result' lookups => result' = result ∧ lookups ≤ (visible s).length ∧
      ∀ tokens, result' = .ok tokens → lookups = (Token.entries 0 tokens).length
  | lost => False

section

variable {limit : Nat} {s : List Char} {offset : Int} {state : LexState}
  {result : Except LexError (List Token)}

namespace LexState.Sound

theorem fails {error : LexError} {here : Int} (h : state.Sound limit s offset result)
    (hmeets : state.active.Meets s here)
    (hresult : state.active.result limit s offset = .error error) :
    LexStatus.Sound limit s offset result (.finished (.error error) (state.lookups + 1)) := by
  have hlookups := h.lookups_le
  have hlt := hmeets.visible_lt h.within.inBounds.start_nonneg (Int.lt_succ here)
  have hle := length_visible_take_le_self s (here + 1).toNat
  refine ⟨?_, by omega, by simp⟩
  rw [← h.result_eq, LexState.result, hresult]
  rfl

theorem read {kind : LeafKind} {text : String} {span : Span} {here behind : Int}
    (h : state.Sound limit s offset result) (hmeets : state.active.Meets s here)
    (hlt : here < behind) (hle : behind ≤ state.active.stop)
    (hresult : state.active.result limit s offset =
      (state.active.read (.leaf kind text span) behind).result limit s offset) :
    Sound limit s offset result
      ⟨state.active.read (.leaf kind text span) behind, state.around, state.lookups + 1⟩ where
  within := h.within.read (hmeets.start_le.trans hlt.le) hle
  lookups_le := by
    have hvisible := hmeets.visible_lt h.within.inBounds.start_nonneg hlt
    exact Nat.succ_le_of_lt (h.lookups_le.trans_lt hvisible)
  lookups_eq := by
    rw [h.lookups_eq]
    simp only [tokenCount, LexCall.read, Token.entries_append, List.length_append, Token.entries,
      List.length_cons, List.length_nil]
    omega
  result_eq := by rw [← h.result_eq, LexState.result, LexState.result, ← hresult]

theorem enter {start stop : Int} (h : state.Sound limit s offset result)
    (hmeets : state.active.Meets s start) (hdepth : state.active.depth < limit)
    (hwidth : start + 2 ≤ stop) (hle : stop ≤ state.active.stop)
    (hresult : state.active.result limit s offset = (do
      let children ← (OpenGroup.inside ⟨state.active, start, stop⟩).result limit s offset
      (OpenGroup.close offset children ⟨state.active, start, stop⟩).result limit s offset)) :
    Sound limit s offset result ⟨OpenGroup.inside ⟨state.active, start, stop⟩,
      ⟨state.active, start, stop⟩ :: state.around, state.lookups + 1⟩ where
  within := h.within.enter ⟨hmeets.start_le, hwidth, hle⟩ hdepth
  lookups_le := by
    have hvisible := hmeets.visible_lt h.within.inBounds.start_nonneg (Int.lt_succ start)
    exact Nat.succ_le_of_lt (h.lookups_le.trans_lt hvisible)
  lookups_eq := by
    rw [h.lookups_eq]
    simp only [tokenCount, OpenGroup.inside, Token.entries, List.length_nil, List.map_cons,
      List.sum_cons]
    omega
  result_eq := by
    rw [← h.result_eq, LexState.result, LexState.result, hresult, bind_assoc]
    rfl

theorem leave {group : OpenGroup} {around : List OpenGroup}
    (h : state.Sound limit s offset result) (haround : state.around = group :: around)
    (hresult : state.active.result limit s offset = .ok state.active.before) :
    Sound limit s offset result
      ⟨group.close offset state.active.before, around, state.lookups⟩ := by
  obtain ⟨hwithin, hle, heq, hresult_eq⟩ := h
  rw [haround] at hwithin
  refine ⟨hwithin.leave, ?_, ?_, ?_⟩
  · have hstart : state.active.start.toNat ≤ group.stop.toNat :=
      Int.toNat_le_toNat hwithin.start_lt.1.le
    exact hle.trans (length_visible_take_le hstart)
  · rw [heq, tokenCount, haround]
    simp only [tokenCount, OpenGroup.close, LexCall.read, Token.entries_append, List.length_append,
      Token.entries, List.length_cons, List.length_nil, List.map_cons, List.sum_cons,
      Token.length_entries 1 0]
    omega
  · rw [← hresult_eq, LexState.result, LexState.result, hresult, haround]
    rfl

theorem ends (h : state.Sound limit s offset result) (haround : state.around = [])
    (hresult : state.active.result limit s offset = .ok state.active.before) :
    LexStatus.Sound limit s offset result (.finished (.ok state.active.before) state.lookups) := by
  refine ⟨?_, h.lookups_le.trans (length_visible_take_le_self s _), ?_⟩
  · rw [← h.result_eq, LexState.result, hresult, haround]
    rfl
  · rintro tokens ⟨⟩
    rw [h.lookups_eq, tokenCount, haround]
    rfl

theorem step (h : state.Sound limit s offset result) :
    (state.step limit s offset).Sound limit s offset result := by
  have htakes := h.within.inBounds.takes offset
  rw [LexState.step]
  generalize state.active.turn limit s offset = turn at htakes ⊢
  cases htakes with
  | failed hmeets hresult => exact h.fails hmeets hresult
  | leaf hmeets hlt hle hresult => exact h.read hmeets hlt hle hresult
  | group hmeets hdepth hwidth hle hresult => exact h.enter hmeets hdepth hwidth hle hresult
  | ended hresult =>
      cases haround : state.around with
      | nil => exact h.ends haround hresult
      | cons group around => exact h.leave haround hresult

end LexState.Sound

end

section

variable (limit : Nat) (s : List Char) (offset : Int)

theorem lexInPlace_whole :
    lexInPlace limit s 0 offset [] 0 s.length = lexWindow limit 0 true offset s := by
  rw [lexInPlace_nil_eq_lexWindow (Nat.zero_le _) (Nat.le_refl _)]
  simp [slice_full]

/-- Every step leaves unchanged what holds at the start, by the lemma for what its turn comes
to. -/
theorem lexSteps_sound (n : Nat) :
    (lexSteps limit s offset n).Sound limit s offset (lexWindow limit 0 true offset s) := by
  induction n with
  | zero =>
      rw [lexSteps]
      refine ⟨.top ⟨Nat.zero_le _, Int.le_refl 0, Int.natCast_nonneg _, Int.le_refl _⟩ rfl,
        Nat.zero_le _, ?_, ?_⟩
      · simp [LexState.tokenCount, Token.entries]
      · rw [LexState.result, ← lexInPlace_whole]
        exact bind_pure _
  | succ n ih =>
      rw [lexSteps]
      cases hstatus : lexSteps limit s offset n with
      | running state =>
          rw [hstatus] at ih
          exact LexState.Sound.step ih
      | finished result lookups =>
          rw [hstatus] at ih
          exact ih
      | lost =>
          rw [hstatus] at ih
          exact ih

variable {limit s offset}

theorem lexSteps_succ {n : Nat} {state : LexState}
    (h : lexSteps limit s offset n = .running state) :
    lexSteps limit s offset (n + 1) = state.step limit s offset := by
  rw [lexSteps, h]
  rfl

theorem within_of_lexSteps {n : Nat} {state : LexState}
    (h : lexSteps limit s offset n = .running state) :
    state.active.Within limit s.length state.around := by
  have hsound := lexSteps_sound limit s offset n
  rw [h] at hsound
  exact hsound.within

/-- Each step moves the lexer on by a character at least. -/
theorem le_start_of_lexSteps {n : Nat} {state : LexState}
    (h : lexSteps limit s offset n = .running state) : n ≤ state.active.start := by
  induction n generalizing state with
  | zero =>
      cases h
      exact Int.le_refl 0
  | succ n ih =>
      rw [lexSteps] at h
      cases hstatus : lexSteps limit s offset n with
      | running previous =>
          rw [hstatus] at h
          have hle := ih hstatus
          obtain ⟨-, hlt, -⟩ := LexState.advances_of_step (within_of_lexSteps hstatus) h
          omega
      | finished result lookups =>
          rw [hstatus] at h
          contradiction
      | lost =>
          rw [hstatus] at h
          contradiction

/-- The lexer has ended before it could be behind the text. -/
theorem exists_lexSteps_finished :
    ∃ lookups,
      lexSteps limit s offset (s.length + 1) =
        .finished (lexWindow limit 0 true offset s) lookups ∧
      lookups ≤ (visible s).length ∧
      ∀ tokens, lexWindow limit 0 true offset s = .ok tokens →
        lookups = (Token.entries 0 tokens).length := by
  have hsound := lexSteps_sound limit s offset (s.length + 1)
  cases hstatus : lexSteps limit s offset (s.length + 1) with
  | running state =>
      have hle := le_start_of_lexSteps hstatus
      obtain ⟨-, -, hstart, hstop⟩ := (within_of_lexSteps hstatus).inBounds
      omega
  | finished result lookups =>
      rw [hstatus] at hsound
      obtain ⟨rfl, hle, hcount⟩ := hsound
      exact ⟨lookups, rfl, hle, hcount⟩
  | lost =>
      rw [hstatus] at hsound
      contradiction

end

/-- Every call of the lexer stays in its bounds and in no deeper groups than the limit allows, and
each step moves on; so the end of the blanks is always found. Lexing ends after at most one step
more than the text has characters. By then a lexeme was looked for no more often than the text has
visible characters and, where lexing succeeds, once for each token of the tree. -/
theorem lexSteps_inBounds_and_finished (limit : DepthLimit) (offset : Int) (expression : String) :
    let run := lexSteps limit.value expression.toList offset
    (∀ n state, run n = .running state →
      (∀ call ∈ state.calls, call.InBounds limit.value expression.length) ∧
      state.around.length = state.active.depth ∧
      (∃ here, blanksEnd? expression.toList state.active.start state.active.stop = some here ∧
        state.active.start ≤ here ∧ here ≤ state.active.stop) ∧
      ∀ next, run (n + 1) = .running next →
        state.active.start < next.active.start ∧ state.Advances next) ∧
    ∃ lookups,
      run (expression.length + 1) = .finished (tokenize limit offset expression) lookups ∧
      lookups ≤ (visible expression.toList).length ∧
      ∀ tokens, tokenize limit offset expression = .ok tokens →
        lookups = (Token.entries 0 tokens).length := by
  intro run
  rw [← String.length_toList]
  refine ⟨fun n state hstate => ?_, ?_⟩
  · have hwithin := within_of_lexSteps hstate
    obtain ⟨here, stop, hskips⟩ := hwithin.inBounds.exists_skips offset
    refine ⟨?_, hwithin.length_eq, ⟨here, hskips.end_eq, hskips.start_le, ?_⟩, ?_⟩
    · rw [LexState.calls, List.forall_mem_cons, List.forall_mem_map]
      exact ⟨hwithin.inBounds, hwithin.callers_inBounds⟩
    · rw [hskips.stop_eq]
      exact Int.ofNat_le.2 hskips.here_le
    · intro next hnext
      have hstep := (lexSteps_succ hstate).symm.trans hnext
      exact (LexState.advances_of_step hwithin hstep).2
  · exact exists_lexSteps_finished

/-- The call for the inner group has ended, and the one for the outer group goes on. -/
theorem lexSteps_inBounds_and_finished_nested :
    let run := lexSteps 2 "A1 *(-3 - (4))".toList 7
    let tokens : List Token := [.leaf .reference "A1" ⟨7, 9⟩, .leaf .operator "*" ⟨10, 11⟩,
      .group [.leaf .number "-3" ⟨12, 14⟩, .leaf .operator "-" ⟨15, 16⟩,
        .group [.leaf .number "4" ⟨18, 19⟩] ⟨17, 20⟩] ⟨11, 21⟩]
    let whole : OpenGroup :=
      ⟨⟨0, [.leaf .reference "A1" ⟨7, 9⟩, .leaf .operator "*" ⟨10, 11⟩], 4, 14⟩, 4, 14⟩
    let outer : OpenGroup :=
      ⟨⟨1, [.leaf .number "-3" ⟨12, 14⟩, .leaf .operator "-" ⟨15, 16⟩], 9, 13⟩, 10, 13⟩
    let inner : LexCall := ⟨2, [.leaf .number "4" ⟨18, 19⟩], 12, 12⟩
    let state : LexState := ⟨inner, [outer, whole], 7⟩
    let next : LexState := ⟨outer.close 7 inner.before, [whole], 7⟩
    (run 7 = .running state ∧ inner.InBounds 2 14) ∧
      (run 8 = .running next ∧ (12 : Int) < next.active.start ∧ state.Advances next) ∧
      tokenize { value := 2 } 7 "A1 *(-3 - (4))" = .ok tokens ∧
      ∃ lookups, run 15 = .finished (.ok tokens) lookups ∧ lookups = 7 := by
  intro run tokens whole outer inner state next
  have hstate : lexSteps 2 "A1 *(-3 - (4))".toList 7 7 = .running state := by cbv
  have hnext : lexSteps 2 "A1 *(-3 - (4))".toList 7 8 = .running next := by cbv
  have htokens : tokenize { value := 2 } 7 "A1 *(-3 - (4))" = .ok tokens := by cbv
  have hcount : (Token.entries 0 tokens).length = 7 := by cbv
  obtain ⟨hbounds, lookups, hfinished, -, hlookups⟩ :=
    lexSteps_inBounds_and_finished { value := 2 } 7 "A1 *(-3 - (4))"
  obtain ⟨hcalls, -, -, hgoes⟩ := hbounds 7 state hstate
  obtain ⟨hlt, hadvances⟩ := hgoes next hnext
  rw [htokens] at hfinished
  exact ⟨⟨hstate, hcalls inner List.mem_cons_self⟩, ⟨hnext, hlt, hadvances⟩, htokens, lookups,
    hfinished, (hlookups tokens htokens).trans hcount⟩

end FormulaLexer
