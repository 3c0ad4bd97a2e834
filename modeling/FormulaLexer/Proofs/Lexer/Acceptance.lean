import FormulaLexer.Proofs.Lexer.Derivation
import FormulaLexer.Proofs.Lexer.LetterRun

/-!
The texts that the lexer accepts, told without nesting: by their characters, their runs of
letters, and the order and number of their parentheses.
-/

namespace FormulaLexer

open Text Shape

/-- Whether leaves are made of a character. -/
def isLeafChar (c : Char) : Bool := isLetter c || isDigit c || isOperator c

/-- A text that is read with room for so many groups in each other. -/
structure Accepted (room : Nat) (s : List Char) : Prop where
  characters : ∀ c ∈ s, isLeafChar c ∨ c = '(' ∨ c = ')' ∨ isBlank c
  runs : ∀ before run after, LetterRun s before run after → OpensReference run after
  /-- No opening parenthesis stands behind a closing one. -/
  order : s.Pairwise fun c d => c = ')' → d ≠ '('
  balance : s.count '(' = s.count ')'
  nesting : s.count '(' ≤ room

/-! ### The characters of a leaf -/

theorem Shape.Spells.isLeafChar {signed : Bool} {kind : LeafKind} {text : List Char}
    (h : kind.shape.Spells signed text) : ∀ c ∈ text, isLeafChar c := by
  intro x hx
  cases kind with
  | reference =>
      obtain ⟨c, n, d, digits, hc, hd, hall, rfl⟩ := h
      simp only [FormulaLexer.isLeafChar, Bool.or_eq_true]
      grind
  | number =>
      obtain ⟨digits, -, hall, rfl | ⟨-, rfl⟩⟩ := h
      · simp [FormulaLexer.isLeafChar, hall x hx]
      · rcases List.mem_cons.1 hx with rfl | hx
        · decide
        · simp [FormulaLexer.isLeafChar, hall x hx]
  | operator =>
      obtain ⟨c, hc, rfl⟩ := h
      rw [List.mem_singleton.1 hx]
      simp [FormulaLexer.isLeafChar, hc]

theorem ne_parenthesis_of_isLeafChar {c : Char} (h : isLeafChar c) : c ≠ '(' ∧ c ≠ ')' := by
  constructor <;> rintro rfl <;> revert h <;> decide

theorem isBlank_eq_false_of_isLeafChar {c : Char} (h : isLeafChar c) : isBlank c = false := by
  simp only [isLeafChar, Bool.or_eq_true] at h
  have : 33 ≤ c.toNat ∧ c.toNat ≤ 126 := by grind
  exact isBlank_eq_false this.1 this.2

theorem ne_parenthesis_of_isBlank {c : Char} (h : isBlank c) : c ≠ '(' ∧ c ≠ ')' := by
  constructor <;> rintro rfl <;> revert h <;> decide

theorem isLetter_eq_false_of_isBlank {c : Char} (h : isBlank c) : isLetter c = false := by
  rw [Bool.eq_false_iff]
  intro hletter
  have := isLetter_iff.1 hletter
  rw [isBlank_eq_false (by omega) (by omega)] at h
  contradiction

theorem isDigit_eq_false_of_isBlank {c : Char} (h : isBlank c) : isDigit c = false := by
  rw [Bool.eq_false_iff]
  intro hdigit
  have := isDigit_iff.1 hdigit
  rw [isBlank_eq_false (by omega) (by omega)] at h
  contradiction

theorem lettersClosed_spells {signed : Bool} {kind : LeafKind} {text s : List Char}
    (h : kind.shape.Spells signed text) : LettersClosed (text ++ s) ↔ LettersClosed s := by
  have hdigits {digits : List Char} (hall : ∀ x ∈ digits, isDigit x) :
      ∀ x ∈ digits, isLetter x = false := by
    intro x hx
    have := hall x hx
    grind
  cases kind with
  | reference =>
      obtain ⟨c, n, d, digits, hc, hd, hall, rfl⟩ := h
      rw [List.append_assoc, List.cons_append, lettersClosed_replicate_append hd,
        ← List.cons_append]
      apply lettersClosed_append
      intro x hx
      rcases List.mem_cons.1 hx with rfl | hx
      · exact isLetter_eq_false_of_isLeadingDigit hd
      · exact hdigits hall x hx
  | number =>
      obtain ⟨digits, -, hall, rfl | ⟨-, rfl⟩⟩ := h
      · exact lettersClosed_append (hdigits hall)
      · rw [List.cons_append, lettersClosed_cons (by decide)]
        exact lettersClosed_append (hdigits hall)
  | operator =>
      obtain ⟨c, hc, rfl⟩ := h
      apply lettersClosed_cons
      grind

/-- Neither leaves nor blanks have parentheses. -/
theorem count_parentheses {text : List Char} (h : ∀ c ∈ text, isLeafChar c ∨ isBlank c) :
    text.count '(' = 0 ∧ text.count ')' = 0 := by
  constructor
  · refine List.count_eq_zero.2 fun hmem => ?_
    rcases h _ hmem with hchar | hblank
    · exact (ne_parenthesis_of_isLeafChar hchar).1 rfl
    · exact (ne_parenthesis_of_isBlank hblank).1 rfl
  · refine List.count_eq_zero.2 fun hmem => ?_
    rcases h _ hmem with hchar | hblank
    · exact (ne_parenthesis_of_isLeafChar hchar).2 rfl
    · exact (ne_parenthesis_of_isBlank hblank).2 rfl

/-! ### Accepted texts, part by part -/

theorem accepted_nil (room : Nat) : Accepted room [] where
  characters := by simp
  runs := lettersClosed_iff.1 trivial
  order := .nil
  balance := rfl
  nesting := by simp

/-- Text without parentheses in front does not count. -/
theorem accepted_append {room : Nat} {text s : List Char}
    (hcharacters : ∀ c ∈ text, isLeafChar c ∨ isBlank c)
    (hletters : LettersClosed (text ++ s) ↔ LettersClosed s) :
    Accepted room (text ++ s) ↔ Accepted room s := by
  obtain ⟨hopening, hclosing⟩ := count_parentheses hcharacters
  have hclose : ∀ c ∈ text, c ≠ ')' := by
    rintro c hc rfl
    exact List.count_eq_zero.1 hclosing hc
  constructor
  · intro h
    exact {
      characters := fun c hc => h.characters c (List.mem_append_right _ hc)
      runs := lettersClosed_iff.1 (hletters.1 (lettersClosed_iff.2 h.runs))
      order := (List.pairwise_append.1 h.order).2.1
      balance := by simpa [hopening, hclosing] using h.balance
      nesting := by simpa [hopening] using h.nesting }
  · intro h
    refine {
      characters := ?_
      runs := lettersClosed_iff.1 (hletters.2 (lettersClosed_iff.2 h.runs))
      order := List.pairwise_append.2 ⟨?_, h.order, ?_⟩
      balance := by simpa [hopening, hclosing] using h.balance
      nesting := by simpa [hopening] using h.nesting }
    · intro c hc
      rcases List.mem_append.1 hc with hc | hc
      · rcases hcharacters c hc with h | h
        · exact .inl h
        · exact .inr (.inr (.inr h))
      · exact h.characters c hc
    · -- The order asks nothing of a text in which no group closes.
      rw [List.pairwise_iff_forall_sublist]
      intro c d hsub hc
      exact absurd hc (hclose c (hsub.subset List.mem_cons_self))
    · intro c hc d _ heq
      exact absurd heq (hclose c hc)

theorem accepted_blank {room : Nat} {c : Char} {s : List Char} (hblank : isBlank c) :
    Accepted room (c :: s) ↔ Accepted room s := by
  rw [← List.singleton_append]
  apply accepted_append
  · simp [hblank]
  · exact lettersClosed_cons (isLetter_eq_false_of_isBlank hblank)

theorem accepted_leaf {room : Nat} {signed : Bool} {kind : LeafKind} {text s : List Char}
    (h : kind.shape.Spells signed text) : Accepted room (text ++ s) ↔ Accepted room s :=
  accepted_append (fun c hc => .inl (h.isLeafChar c hc)) (lettersClosed_spells h)

/-- A group takes one of the rooms for its inner text, and no further group may follow. -/
theorem accepted_group {room : Nat} {inner after : List Char} (hclose : ')' ∉ after) :
    Accepted room ('(' :: inner ++ ')' :: after) ↔
      0 < room ∧ Accepted (room - 1) inner ∧ Accepted room after := by
  have hletters : LettersClosed ('(' :: inner ++ ')' :: after) ↔
      LettersClosed inner ∧ LettersClosed after := by
    rw [lettersClosed_append_cons (by decide) (by decide), lettersClosed_cons (by decide)]
  have hclosing : after.count ')' = 0 := List.count_eq_zero.2 hclose
  constructor
  · intro h
    obtain ⟨hinner, hafter, hacross⟩ := List.pairwise_append.1 h.order
    rw [List.pairwise_cons] at hinner hafter
    -- All of `after` stands behind the parenthesis that closes the group.
    have hopening : after.count '(' = 0 :=
      List.count_eq_zero.2 fun hmem => hafter.1 _ hmem rfl rfl
    have hbalance := h.balance
    have hnesting := h.nesting
    simp [hopening, hclosing] at hbalance hnesting
    have hruns := hletters.1 (lettersClosed_iff.2 h.runs)
    refine ⟨by omega, ?_, ?_⟩
    · exact {
        characters := fun c hc => h.characters c (by simp [hc])
        runs := lettersClosed_iff.1 hruns.1
        order := hinner.2
        balance := by omega
        nesting := by omega }
    · exact {
        characters := fun c hc => h.characters c (by simp [hc])
        runs := lettersClosed_iff.1 hruns.2
        order := hafter.2
        balance := by omega
        nesting := by omega }
  · rintro ⟨hroom, hinner, hafter⟩
    have hopening : after.count '(' = 0 := hafter.balance.trans hclosing
    have hnone : ∀ d ∈ after, d ≠ '(' := by
      rintro d hd rfl
      exact List.count_eq_zero.1 hopening hd
    have hbalance := hinner.balance
    have hnesting := hinner.nesting
    refine {
      characters := ?_
      runs := lettersClosed_iff.1 (hletters.2
        ⟨lettersClosed_iff.2 hinner.runs, lettersClosed_iff.2 hafter.runs⟩)
      order := ?_
      balance := by simp [hopening, hclosing]; omega
      nesting := by simp [hopening]; omega }
    · intro c hc
      simp only [List.cons_append, List.mem_cons, List.mem_append] at hc
      rcases hc with rfl | hc | rfl | hc
      · exact .inr (.inl rfl)
      · exact hinner.characters c hc
      · exact .inr (.inr (.inl rfl))
      · exact hafter.characters c hc
    · rw [List.pairwise_append, List.pairwise_cons, List.pairwise_cons]
      refine ⟨⟨fun d _ heq => absurd heq (by decide), hinner.order⟩,
        ⟨fun d hd _ => hnone d hd, hafter.order⟩, fun c _ d hd _ => ?_⟩
      rcases List.mem_cons.1 hd with rfl | hd
      · decide
      · exact hnone d hd

/-! ### What is read is accepted, and nothing else -/

theorem Reads.accepted {limit depth : Nat} {operand : Bool} {position : Int}
    {window : List Char} {tokens : List Token}
    (h : Reads limit depth operand position window tokens) :
    Accepted (limit - depth) window := by
  induction h with
  | nil => exact accepted_nil _
  | blank hblank _ ih => exact (accepted_blank hblank).2 ih
  | leaf hlead _ ih => exact (accepted_leaf hlead.spells).2 ih
  | group hdepth hclose _ _ ihinner ihafter =>
      exact (accepted_group hclose).2 ⟨Nat.sub_pos_of_lt hdepth, ihinner, ihafter⟩

/-- Where no lexeme starts, there is a letter that opens no reference or a character that no
leaf starts with. -/
theorem unrecognized_cases {operand : Bool} {c : Char} {rest : List Char}
    (hnone : Lexeme.first? operand (c :: rest) = none) :
    isLeafChar c = false ∨ isLetter c ∧
      ¬ OpensReference (c :: rest.takeWhile isLetter) (rest.dropWhile isLetter) := by
  have hlongest := Lexeme.longest?_eq_none_of_first? hnone
  by_cases hletter : isLetter c
  · exact .inr ⟨hletter, fun hopens =>
      hopens.longest?_ne_none hletter operand (hlongest .reference)⟩
  · -- A digit would start a number, and an operator is a leaf by itself.
    refine .inl ?_
    have hdigit : ¬ isDigit c := by
      intro hdigit
      have hspells : Spells operand .number ((c :: rest).takeWhile isDigit) :=
        ⟨_, by simp [hdigit], fun y hy => List.mem_takeWhile_imp hy, .inl rfl⟩
      have hends : EndsBefore .number ((c :: rest).dropWhile isDigit) := head_dropWhile
      have := longest?_append hspells hends
      rw [List.takeWhile_append_dropWhile, hlongest .number] at this
      contradiction
    have hoperator : ¬ isOperator c := by
      intro hoperator
      have hspells : Spells operand .operator [c] := ⟨c, hoperator, rfl⟩
      have hends : EndsBefore .operator rest := trivial
      have := longest?_append hspells hends
      rw [List.singleton_append, hlongest .operator] at this
      contradiction
    simpa [isLeafChar, hletter, hdigit] using hoperator

theorem Stops.not_accepted {limit depth : Nat} {operand : Bool} {position : Int}
    {window : List Char} {error : LexError}
    (h : Stops limit depth operand position window error) :
    ¬ Accepted (limit - depth) window := by
  induction h with
  | @unrecognized depth operand position c rest hblank hopening hnone =>
      intro h
      rcases unrecognized_cases hnone with hchar | ⟨hletter, hopens⟩
      · have := h.characters c List.mem_cons_self
        simp only [hchar, hblank, hopening, Bool.false_eq_true, false_or, or_false] at this
        -- A closing parenthesis stands first, and no opening one may follow it.
        subst this
        have hopening : rest.count '(' = 0 :=
          List.count_eq_zero.2 fun hmem => (List.pairwise_cons.1 h.order).1 _ hmem rfl rfl
        have hbalance := h.balance
        simp [hopening] at hbalance
      · exact hopens (h.runs _ _ _ (letterRun_takeWhile hletter))
  | unterminated hclose =>
      intro h
      have hbalance := h.balance
      simp [List.count_eq_zero.2 hclose] at hbalance
  | tooDeep hdepth hclose =>
      intro h
      have hnesting := h.nesting
      simp at hnesting
      omega
  | blank hblank _ ih => rwa [accepted_blank hblank]
  | leaf hlead _ ih => rwa [accepted_leaf hlead.spells]
  | inside hdepth hclose _ ih =>
      rw [accepted_group hclose]
      exact fun h => ih h.2.1
  | behind hdepth hclose _ _ ih =>
      rw [accepted_group hclose]
      exact fun h => ih h.2.2

theorem exists_reads_iff {limit depth : Nat} {operand : Bool} {position : Int}
    {window : List Char} :
    (∃ tokens, Reads limit depth operand position window tokens) ↔
      Accepted (limit - depth) window := by
  constructor
  · rintro ⟨tokens, h⟩
    exact h.accepted
  · intro h
    refine (reads_or_stops limit depth operand position window).resolve_right ?_
    rintro ⟨error, hstops⟩
    exact hstops.not_accepted h

/-- The lexer accepts a text by its characters, its runs of letters and its parentheses
alone. -/
theorem exists_tokenize_eq_ok_iff (limit : DepthLimit) (offset : Int) (expression : String) :
    (∃ tokens, tokenize limit offset expression = .ok tokens) ↔
      Accepted limit.value expression.toList := by
  simp only [tokenize, lexWindow_eq_ok_iff]
  exact exists_reads_iff

end FormulaLexer
