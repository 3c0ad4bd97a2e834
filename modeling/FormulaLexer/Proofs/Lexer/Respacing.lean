import Mathlib
import FormulaLexer.Proofs.Lexer.Reread
import FormulaLexer.Proofs.Text.Respacing

/-!
Which blanks a text has does not matter to the lexer, only where it has some. Two texts that
are spaced alike have the same tokens but for their spans, or errors of the same reason at the
same place.
-/

namespace FormulaLexer

open Text

/-! ### The start of a window -/

section

variable {operand : Bool} {kind : LeafKind} {text rest rest' s' : List Char}

theorem Text.SpacedAlike.head_digit (h : SpacedAlike false rest rest')
    (hdigit : ∀ c ∈ rest.head?, isDigit c = false) : ∀ c ∈ rest'.head?, isDigit c = false := by
  intro c hc
  rw [Bool.eq_false_iff]
  intro hcdigit
  obtain ⟨t, rfl⟩ := List.head?_eq_some_iff.1 hc
  have hchar : isLeafChar c := by simp [isLeafChar, hcdigit]
  have hparenthesis : isParenthesis c = false := by
    simpa [isParenthesis] using ne_parenthesis_of_isLeafChar hchar
  obtain ⟨blanks, u, rfl, -, hgap, -⟩ :=
    h.symm.exists_of_cons (isBlank_eq_false_of_isLeafChar hchar)
  simp only [hparenthesis, Bool.false_eq_true, false_or] at hgap
  subst hgap
  simp [hcdigit] at hdigit

/-- Whether a leaf ends somewhere is told from the next character. -/
theorem Leads.of_spacedAlike (h : Leads operand kind text rest)
    (halike : SpacedAlike false rest rest') : Leads operand kind text rest' where
  spells := h.spells
  ends := by
    have hends := h.ends
    cases kind with
    | reference => exact halike.head_digit hends
    | number => exact halike.head_digit hends
    | operator => trivial
  minus := fun htext hoperand => halike.head_digit (h.minus htext hoperand)

/-- A leaf at the start of one window stands in the other one behind blanks. -/
theorem Leads.exists_of_spacedAlike (h : Leads operand kind text rest)
    (halike : SpacedAlike true (text ++ rest) s') :
    ∃ blanks rest', s' = blanks ++ (text ++ rest') ∧ (∀ c ∈ blanks, isBlank c) ∧
      Leads operand kind text rest' ∧ SpacedAlike false rest rest' := by
  have hchars : ∀ c ∈ text, isBlank c = false ∧ isParenthesis c = false := by
    intro c hc
    have hchar := h.spells.isLeafChar c hc
    exact ⟨isBlank_eq_false_of_isLeafChar hchar,
      by simpa [isParenthesis] using ne_parenthesis_of_isLeafChar hchar⟩
  obtain ⟨c, t, rfl, -⟩ := h.spells.exists_cons
  obtain ⟨⟨hc, hparenthesis⟩, htext⟩ := List.forall_mem_cons.1 hchars
  obtain ⟨blanks, u, rfl, hblanks, -, hrest⟩ := halike.exists_of_cons hc
  rw [hparenthesis] at hrest
  obtain ⟨rest', rfl, halike'⟩ := hrest.exists_of_append htext
  exact ⟨blanks, rest', rfl, hblanks, h.of_spacedAlike halike', halike'⟩

/-- A group at the start of one window stands in the other one behind blanks. -/
theorem Text.SpacedAlike.exists_of_group {inner after : List Char} (hclose : ')' ∉ after)
    (h : SpacedAlike true ('(' :: inner ++ ')' :: after) s') :
    ∃ blanks inner' after', s' = blanks ++ ('(' :: inner' ++ ')' :: after') ∧
      (∀ c ∈ blanks, isBlank c) ∧ ')' ∉ after' ∧
      SpacedAlike true inner inner' ∧ SpacedAlike true after after' := by
  obtain ⟨blanks, t, rfl, hblanks, -, hrest⟩ := h.exists_of_cons (by decide)
  obtain ⟨inner', after', rfl, hinner, hafter⟩ :=
    hrest.exists_of_parenthesis (by decide) (by decide)
  exact ⟨blanks, inner', after', rfl, hblanks,
    fun hmem => hclose ((hafter.mem_iff (by decide)).2 hmem), hinner, hafter⟩

theorem Lexeme.first?_eq_none_of_spacedAlike {c : Char} (hc : isBlank c = false)
    (hopening : c ≠ '(') (halike : SpacedAlike (isParenthesis c) rest rest')
    (h : first? operand (c :: rest) = none) : first? operand (c :: rest') = none := by
  by_contra hsome
  rcases exists_of_first?_ne_none hsome with ⟨kind, text, t, htext, hlead⟩ | ⟨_, _, hgroup, -⟩
  · -- The same leaf would stand at the start of the first window.
    have hwindow : SpacedAlike true (text ++ t) (c :: rest) := by
      rw [← htext]
      exact halike.symm.cons_visible hc
    obtain ⟨blanks, u, hsplit, hblanks, hlead', -⟩ := hlead.exists_of_spacedAlike hwindow
    obtain ⟨d, text', rfl, hd⟩ := hlead.spells.exists_cons
    obtain ⟨-, hstart⟩ := blanks_append_inj (List.forall_mem_nil _) hblanks
      (by simpa using hc) (by simpa using hd.not_blank) ((List.nil_append _).trans hsplit)
    rw [hstart, first?_leaf hlead'] at h
    contradiction
  · exact hopening (List.cons.inj hgroup).1

end

/-! ### Tokens of texts that are spaced alike -/

theorem Reads.exists_of_spacedAlike {limit depth : Nat} {operand : Bool} {position : Int}
    {s s' : List Char} {tokens : List Token} (h : Reads limit depth operand position s tokens)
    (halike : SpacedAlike true s s') (position' : Int) :
    ∃ tokens', Reads limit depth operand position' s' tokens' ∧
      Token.trees tokens = Token.trees tokens' := by
  induction h generalizing s' position' with
  | nil =>
      have hblanks := visible_eq_nil_iff.1 halike.visible_eq.symm
      refine ⟨[], ?_, rfl⟩
      rw [← List.append_nil s', reads_blanks_iff hblanks]
      exact .nil
  | blank hblank _ ih => exact ih (halike.of_cons_blank hblank) position'
  | leaf hlead _ ih =>
      obtain ⟨blanks, rest', rfl, hblanks, hlead', hrest⟩ := hlead.exists_of_spacedAlike halike
      obtain ⟨tokens', hreads, htrees⟩ := ih hrest.opened _
      refine ⟨_, (reads_blanks_iff hblanks).2 (.leaf hlead' hreads), ?_⟩
      rw [Token.trees, Token.trees, htrees]
  | group hdepth hclose _ _ ihinner ihafter =>
      obtain ⟨blanks, inner', after', rfl, hblanks, hclose', hinner, hafter⟩ :=
        halike.exists_of_group hclose
      obtain ⟨children', hchildren, hchildrenTrees⟩ := ihinner hinner _
      obtain ⟨tokens', hreads, htrees⟩ := ihafter hafter _
      refine ⟨_, (reads_blanks_iff hblanks).2 (.group hdepth hclose' hchildren hreads), ?_⟩
      rw [Token.trees, Token.trees, htrees, hchildrenTrees]

/-! ### Errors of texts that are spaced alike -/

/-- Two errors tell the same of two texts that start at the given positions, up to blanks: why
the lexer stopped, what was left of the window, and what stands in front. -/
structure AlikeErrors (position position' : Int) (s s' : List Char) (error error' : LexError) :
    Prop where
  reason_eq : error.reason = error'.reason
  remaining_eq : visible error.remaining.toList = visible error'.remaining.toList
  before_eq : ∃ before before', before <+: s ∧ before' <+: s' ∧
    error.position = position + before.length ∧ error'.position = position' + before'.length ∧
    visible before = visible before'

namespace AlikeErrors

variable {position position' : Int} {s s' : List Char} {error error' : LexError}

theorem start {isOpen : Bool} {c : Char} {rest rest' : List Char} (reason : Reason)
    (hc : isBlank c = false) (hrest : SpacedAlike isOpen rest rest') :
    AlikeErrors position position' (c :: rest) (c :: rest')
      ⟨position, String.ofList (c :: rest), reason⟩
      ⟨position', String.ofList (c :: rest'), reason⟩ where
  reason_eq := rfl
  remaining_eq := by
    rw [String.toList_ofList, String.toList_ofList, visible_cons hc, visible_cons hc,
      hrest.visible_eq]
  before_eq := ⟨[], [], List.nil_prefix, List.nil_prefix, by simp, by simp, rfl⟩

theorem append {text text' : List Char} (htext : visible text = visible text')
    (h : AlikeErrors (position + text.length) (position' + text'.length) s s' error error') :
    AlikeErrors position position' (text ++ s) (text' ++ s') error error' where
  reason_eq := h.reason_eq
  remaining_eq := h.remaining_eq
  before_eq := by
    obtain ⟨before, before', hbefore, hbefore', hposition, hposition', hvisible⟩ := h.before_eq
    refine ⟨text ++ before, text' ++ before', (List.prefix_append_right_inj text).2 hbefore,
      (List.prefix_append_right_inj text').2 hbefore', ?_, ?_, ?_⟩
    · rw [hposition, List.length_append]
      omega
    · rw [hposition', List.length_append]
      omega
    · rw [visible_append, visible_append, htext, hvisible]

/-- What stands behind a window does not count. -/
theorem append_right (h : AlikeErrors position position' s s' error error') (t t' : List Char) :
    AlikeErrors position position' (s ++ t) (s' ++ t') error error' where
  reason_eq := h.reason_eq
  remaining_eq := h.remaining_eq
  before_eq := by
    obtain ⟨before, before', hbefore, hbefore', hrest⟩ := h.before_eq
    exact ⟨before, before', hbefore.trans (List.prefix_append _ _),
      hbefore'.trans (List.prefix_append _ _), hrest⟩

end AlikeErrors

/-- Blanks in front of a window move its error, and nothing else. -/
theorem exists_stops_behind_blanks {limit depth : Nat} {operand : Bool} {position position' : Int}
    {s s' blanks : List Char} {error : LexError} (hblanks : ∀ c ∈ blanks, isBlank c)
    (h : ∃ error', Stops limit depth operand (position' + blanks.length) s' error' ∧
      AlikeErrors position (position' + blanks.length) s s' error error') :
    ∃ error', Stops limit depth operand position' (blanks ++ s') error' ∧
      AlikeErrors position position' s (blanks ++ s') error error' := by
  obtain ⟨error', hstops, halike⟩ := h
  refine ⟨error', ?_, ?_⟩
  · clear halike
    induction blanks generalizing position' with
    | nil => simpa using hstops
    | cons c blanks ih =>
        obtain ⟨hc, hblanks⟩ := List.forall_mem_cons.1 hblanks
        have hlength : position' + (c :: blanks).length = position' + 1 + blanks.length := by
          rw [List.length_cons]
          omega
        rw [hlength] at hstops
        exact .blank hc (ih hblanks hstops)
  · have hvisible : visible [] = visible blanks := (visible_eq_nil_iff.2 hblanks).symm
    exact .append hvisible (by simpa using halike)

theorem Stops.exists_of_spacedAlike {limit depth : Nat} {operand : Bool} {position : Int}
    {s s' : List Char} {error : LexError} (h : Stops limit depth operand position s error)
    (halike : SpacedAlike true s s') (position' : Int) :
    ∃ error', Stops limit depth operand position' s' error' ∧
      AlikeErrors position position' s s' error error' := by
  have hopening : isBlank '(' = false := by decide
  have hclosing : isBlank ')' = false := by decide
  induction h generalizing s' position' with
  | unrecognized hblank hne hnone =>
      obtain ⟨blanks, rest', rfl, hblanks, -, hrest⟩ := halike.exists_of_cons hblank
      have hnone' := Lexeme.first?_eq_none_of_spacedAlike hblank hne hrest hnone
      exact exists_stops_behind_blanks hblanks
        ⟨_, .unrecognized hblank hne hnone', .start _ hblank hrest⟩
  | unterminated hclose =>
      obtain ⟨blanks, rest', rfl, hblanks, -, hrest⟩ := halike.exists_of_cons hopening
      have hclose' := mt (hrest.mem_iff hclosing).2 hclose
      exact exists_stops_behind_blanks hblanks
        ⟨_, .unterminated hclose', .start _ hopening hrest⟩
  | tooDeep hdepth hclose =>
      obtain ⟨blanks, rest', rfl, hblanks, -, hrest⟩ := halike.exists_of_cons hopening
      have hclose' := (hrest.mem_iff hclosing).1 hclose
      exact exists_stops_behind_blanks hblanks
        ⟨_, .tooDeep hdepth hclose', .start _ hopening hrest⟩
  | @blank depth operand position c rest error hblank _ ih =>
      obtain ⟨error', hstops, herrors⟩ := ih (halike.of_cons_blank hblank) position'
      have hvisible : visible [c] = visible [] :=
        visible_eq_nil_iff.2 (List.forall_mem_singleton.2 hblank)
      exact ⟨error', hstops, .append hvisible (by simpa using herrors)⟩
  | leaf hlead _ ih =>
      obtain ⟨blanks, rest', rfl, hblanks, hlead', hrest⟩ := hlead.exists_of_spacedAlike halike
      obtain ⟨error', hstops, herrors⟩ := ih hrest.opened _
      exact exists_stops_behind_blanks hblanks ⟨error', .leaf hlead' hstops, herrors.append rfl⟩
  | @inside depth operand position inner after error hdepth hclose _ ih =>
      obtain ⟨blanks, inner', after', rfl, hblanks, hclose', hinner, -⟩ :=
        halike.exists_of_group hclose
      obtain ⟨error', hstops, herrors⟩ := ih hinner (position' + blanks.length + 1)
      have hgroup : AlikeErrors position (position' + blanks.length) (['('] ++ inner)
          (['('] ++ inner') error error' := .append rfl herrors
      exact exists_stops_behind_blanks hblanks
        ⟨error', .inside hdepth hclose' hstops, hgroup.append_right _ _⟩
  | @behind depth operand position inner after _ _ hdepth hclose hreads _ ih =>
      obtain ⟨blanks, inner', after', rfl, hblanks, hclose', hinner, hafter⟩ :=
        halike.exists_of_group hclose
      obtain ⟨children', hchildren, -⟩ := hreads.exists_of_spacedAlike hinner _
      obtain ⟨error', hstops, herrors⟩ :=
        ih hafter (position' + blanks.length + (inner'.length + 2))
      have hvisible : visible ('(' :: inner ++ [')']) = visible ('(' :: inner' ++ [')']) := by
        rw [visible_append, visible_append, visible_cons hopening, visible_cons hopening,
          hinner.visible_eq]
      have hwidth (inner : List Char) :
          (inner.length + 2 : Int) = ('(' :: inner ++ [')']).length := by
        rw [List.length_append]
        rfl
      rw [hwidth, hwidth] at herrors
      exact exists_stops_behind_blanks hblanks
        ⟨error', .behind hdepth hclose' hchildren hstops, by simpa using herrors.append hvisible⟩

/-! ### Expressions -/

end FormulaLexer
