import FormulaLexer.Lexer.InPlace
import FormulaLexer.Proofs.Lexer.Limit
import FormulaLexer.Proofs.Lexer.Tokenization

/-!
Windows in isolation. What the lexer reads between two positions of a text depends on nothing
outside of them: it is what the lexer reads from a copy of the window, moved to the place
where the window starts. In particular the children of a group are the tokens of the text
between its parentheses.
-/

namespace FormulaLexer

open Text

/-! ### One step in place -/

section

variable {s : List Char} {start stop : Nat}

theorem skipBlanks_of_blank {c : Char} (hlt : start < stop) (hc : s[start]? = some c)
    (hblank : isBlank c) : skipBlanks s start stop = skipBlanks s (start + 1) stop := by
  rw [skipBlanks, if_pos ⟨hlt, by simp [hc, hblank]⟩]

theorem skipBlanks_of_visible {c : Char} (hc : s[start]? = some c) (hblank : isBlank c = false) :
    skipBlanks s start stop = start := by
  rw [skipBlanks, if_neg (by simp [hc, hblank])]

theorem skipBlanks_of_le (hle : stop ≤ start) : skipBlanks s start stop = start := by
  rw [skipBlanks, if_neg (by omega)]

variable {limit depth : Nat} {offset : Int} {before : List Token}

theorem lexInPlace_of_le (hle : stop ≤ start) :
    lexInPlace limit s depth offset before start stop = .ok before := by
  rw [lexInPlace, skipBlanks_of_le hle, if_neg (by omega)]

theorem lexInPlace_blank {c : Char} {rest : List Char} (hslice : slice s start stop = c :: rest)
    (hblank : isBlank c) :
    lexInPlace limit s depth offset before start stop =
      lexInPlace limit s depth offset before (start + 1) stop := by
  obtain ⟨hlt, hc, -⟩ := of_slice_eq_cons hslice
  rw [lexInPlace, skipBlanks_of_blank hlt hc hblank, ← lexInPlace]

theorem getLast?_all_eq_expectsOperand (before : List Token) :
    (before.getLast?.all fun token => token.kind = .leaf .operator) =
      Token.expectsOperand true before := by
  rw [Token.expectsOperand]
  cases before.getLast? <;> rfl

theorem between?_eq (operand : Bool) (s : List Char) (start stop : Nat) :
    Lexeme.between? operand s start stop = Lexeme.first? operand (slice s start stop) := by
  rw [Lexeme.between?, slice, Int.toNat_natCast, Int.toNat_natCast]

/-- What happens in place at a character that is not blank. -/
theorem lexInPlace_visible {c : Char} {rest : List Char} (hslice : slice s start stop = c :: rest)
    (hblank : isBlank c = false) :
    lexInPlace limit s depth offset before start stop =
      match Lexeme.first? (Token.expectsOperand true before) (c :: rest) with
      | none =>
        .error ⟨start + offset, String.ofList (c :: rest),
          if c = '(' then .unterminatedGroup else .unrecognizedToken⟩
      | some lexeme =>
        let behind := start + lexeme.text.length
        let span : Span := ⟨start + offset, behind + offset⟩
        match lexeme.shape.leafKind? with
        | some kind =>
          let token := .leaf kind (String.ofList lexeme.text) span
          lexInPlace limit s depth offset (before ++ [token]) behind stop
        | none =>
          if limit ≤ depth then .error ⟨start + offset, String.ofList (c :: rest), .depthExceeded⟩
          else (do
            let children ← lexInPlace limit s (depth + 1) offset [] (start + 1) (behind - 1)
            lexInPlace limit s depth offset (before ++ [.group children span]) behind stop) := by
  obtain ⟨hlt, hc, -⟩ := of_slice_eq_cons hslice
  have hremaining : (s.take stop).drop start = c :: rest := by
    rw [← hslice, slice, Int.toNat_natCast, Int.toNat_natCast]
  rw [lexInPlace, skipBlanks_of_visible hc hblank, if_pos hlt]
  simp only [hremaining, hc, Option.some.injEq]
  split
  · next hnone =>
      rw [getLast?_all_eq_expectsOperand, between?_eq, hslice] at hnone
      rw [hnone]
  · next lexeme hsome =>
      rw [getLast?_all_eq_expectsOperand, between?_eq, hslice] at hsome
      cases hkind : lexeme.shape.leafKind? <;> simp only [hsome, hkind]

theorem lexInPlace_leaf {kind : LeafKind} {text rest : List Char}
    (hslice : slice s start stop = text ++ rest)
    (hlead : Leads (Token.expectsOperand true before) kind text rest) :
    lexInPlace limit s depth offset before start stop =
      lexInPlace limit s depth offset
        (before ++ [.leaf kind (String.ofList text)
          ⟨start + offset, start + offset + text.length⟩])
        (start + text.length) stop := by
  obtain ⟨c, t, rfl, hc⟩ := hlead.spells.exists_cons
  have hbehind : ((start + (c :: t).length : Nat) : Int) + offset =
      start + offset + (c :: t).length := by omega
  rw [List.cons_append] at hslice
  rw [lexInPlace_visible hslice hc.not_blank, ← List.cons_append, Lexeme.first?_leaf hlead]
  simp only [LeafKind.leafKind?_shape, hbehind]

theorem lexInPlace_group {inner after : List Char} (hdepth : depth < limit)
    (hslice : slice s start stop = '(' :: inner ++ ')' :: after) (hclose : ')' ∉ after) :
    lexInPlace limit s depth offset before start stop =
      (do
        let children ← lexInPlace limit s (depth + 1) offset [] (start + 1)
          (start + (inner.length + 1))
        lexInPlace limit s depth offset
          (before ++ [.group children ⟨start + offset, start + offset + (inner.length + 2)⟩])
          (start + (inner.length + 2)) stop) := by
  have hwidth : ('(' :: inner ++ [')']).length = inner.length + 2 := by simp
  have hbehind : ((start + (inner.length + 2) : Nat) : Int) + offset =
      start + offset + (inner.length + 2) := by omega
  rw [List.cons_append] at hslice
  rw [lexInPlace_visible hslice (by decide), ← List.cons_append, Lexeme.first?_group hclose]
  simp only [Shape.leafKind?, hwidth, hbehind, if_neg (Nat.not_le.2 hdepth)]
  rfl

theorem lexInPlace_tooDeep {rest : List Char} (hdepth : limit ≤ depth)
    (hslice : slice s start stop = '(' :: rest) (hclose : ')' ∈ rest) :
    lexInPlace limit s depth offset before start stop =
      .error ⟨start + offset, String.ofList ('(' :: rest), .depthExceeded⟩ := by
  obtain ⟨inner, after, rfl, hafter⟩ := Shape.exists_last hclose
  rw [lexInPlace_visible hslice (by decide), ← List.cons_append, Lexeme.first?_group hafter]
  simp only [Shape.leafKind?, if_pos hdepth]

theorem lexInPlace_none {c : Char} {rest : List Char} (hslice : slice s start stop = c :: rest)
    (hblank : isBlank c = false)
    (hnone : Lexeme.first? (Token.expectsOperand true before) (c :: rest) = none) :
    lexInPlace limit s depth offset before start stop =
      .error ⟨start + offset, String.ofList (c :: rest),
        if c = '(' then .unterminatedGroup else .unrecognizedToken⟩ := by
  rw [lexInPlace_visible hslice hblank, hnone]

end

/-! ### Lexing in place gives what the window alone gives -/

theorem Token.expectsOperand_append (operand : Bool) (before : List Token) (token : Token) :
    expectsOperand operand (before ++ [token]) = decide (token.kind = .leaf .operator) := by
  rw [expectsOperand, List.getLast?_concat]

/-- Behind the tokens `before`, lexing in place adds the tokens of the window. -/
theorem lexInPlace_eq_lexWindow {limit depth : Nat} {s : List Char} {offset : Int}
    {before : List Token} {start stop : Nat} (hle : start ≤ stop) (hstop : stop ≤ s.length) :
    lexInPlace limit s depth offset before start stop =
      (lexWindow limit depth (Token.expectsOperand true before) (start + offset)
        (slice s start stop)).map (before ++ ·) := by
  -- By induction on the width of the window, over all depths and tokens read so far at once.
  induction hn : stop - start using Nat.strong_induction_on
    generalizing depth before start stop with
  | _ n ih =>
  subst hn
  cases hslice : slice s start stop with
  | nil =>
      have hlength := length_slice (Int.natCast_nonneg start) (Int.ofNat_le.2 hle)
        (Int.ofNat_le.2 hstop)
      rw [hslice, List.length_nil] at hlength
      rw [lexInPlace_of_le (by omega), lexWindow_nil]
      simp [Except.map]
  | cons c rest =>
      rcases window_cases (Token.expectsOperand true before) c rest with hblank |
        ⟨kind, text, after, hs, hlead⟩ | ⟨inner, after, hs, hclose⟩ | ⟨rfl, hclose⟩ |
        ⟨hblank, -, hnone⟩
      · obtain ⟨hlt, -, hrest⟩ := of_slice_eq_cons hslice
        rw [lexInPlace_blank hslice hblank, lexWindow_blank hblank,
          ih _ (by omega) (by omega) hstop rfl, hrest, Int.natCast_add, Int.add_right_comm]
        rfl
      · have hpos := List.length_pos_iff.2 hlead.ne_nil
        rw [hs] at hslice ⊢
        obtain ⟨hbehind, -, hafter⟩ := of_slice_eq_append hle hstop hslice
        rw [lexInPlace_leaf hslice hlead, lexWindow_leaf hlead, ih _ (by omega) hbehind hstop rfl,
          Token.expectsOperand_append, hafter, Int.natCast_add,
          Int.add_right_comm start text.length]
        simp only [Token.kind, Kind.leaf.injEq]
        cases lexWindow limit depth (kind = .operator) (start + offset + text.length) after <;>
          simp [bind, Except.bind, pure, Except.pure, Except.map]
      · rw [hs] at hslice ⊢
        by_cases hdepth : depth < limit
        · obtain ⟨hbehind, hinner, hafter⟩ := of_slice_eq_enclosed hstop hslice
          have hinside : lexInPlace limit s (depth + 1) offset [] (start + 1)
              (start + (inner.length + 1)) =
              lexWindow limit (depth + 1) true (start + offset + 1) inner := by
            rw [ih _ (by omega) (by omega) (by omega) rfl, hinner, Int.natCast_add,
              Int.add_right_comm]
            exact congrFun Except.map_id _
          have hbeyond (group : Token) (hgroup : group.kind = .group) :
              lexInPlace limit s depth offset (before ++ [group]) (start + (inner.length + 2))
                  stop =
                (lexWindow limit depth false (start + offset + (inner.length + 2)) after).map
                  (before ++ group :: ·) := by
            rw [ih _ (by omega) hbehind hstop rfl, hafter, Token.expectsOperand_append, hgroup,
              Int.natCast_add, Int.add_right_comm]
            simp
          rw [lexInPlace_group hdepth hslice hclose, lexWindow_group hdepth hclose, hinside]
          cases lexWindow limit (depth + 1) true (start + offset + 1) inner with
          | error error => rfl
          | ok children =>
              simp only [bind, Except.bind]
              rw [hbeyond _ rfl]
              cases lexWindow limit depth false (start + offset + (inner.length + 2)) after <;> rfl
        · have hmem : ')' ∈ inner ++ ')' :: after := by simp
          rw [List.cons_append] at hslice ⊢
          rw [lexInPlace_tooDeep (by omega) hslice hmem, lexWindow_tooDeep (by omega) hmem]
          rfl
      · rw [lexInPlace_none hslice (by decide) (Lexeme.first?_unclosed hclose),
          lexWindow_none (by decide) (Lexeme.first?_unclosed hclose)]
        rfl
      · rw [lexInPlace_none hslice hblank hnone, lexWindow_none hblank hnone]
        rfl

theorem lexInPlace_nil_eq_lexWindow {limit depth : Nat} {s : List Char} {offset : Int}
    {start stop : Nat} (hle : start ≤ stop) (hstop : stop ≤ s.length) :
    lexInPlace limit s depth offset [] start stop =
      lexWindow limit depth true (start + offset) (slice s start stop) := by
  rw [lexInPlace_eq_lexWindow hle hstop]
  exact congrFun Except.map_id _

/-! ### Tokens inside of groups -/

/-- A token stands in a list or, at any depth, in a group of the list. -/
def Token.Occurs (token : Token) : List Token → Prop
  | [] => False
  | leaf kind text span :: rest => token = leaf kind text span ∨ Occurs token rest
  | group children span :: rest =>
      token = group children span ∨ Occurs token children ∨ Occurs token rest

/-- The children of a group at any depth are read from the text between its parentheses. -/
theorem Reads.of_occurs {limit depth : Nat} {operand : Bool} {position : Int}
    {window : List Char} {tokens : List Token}
    (h : Reads limit depth operand position window tokens) {children : List Token} {span : Span}
    (hoccurs : Token.Occurs (.group children span) tokens) :
    ∃ depth' before inner after, window = before ++ '(' :: inner ++ ')' :: after ∧
      span.start = position + before.length ∧ span.stop = span.start + (inner.length + 2) ∧
      Reads limit depth' true (span.start + 1) inner children := by
  induction h with
  | nil =>
      rw [Token.Occurs] at hoccurs
      contradiction
  | @blank depth operand position c rest tokens hblank _ ih =>
      obtain ⟨depth', before, inner, after, rfl, hstart, hstop, hreads⟩ := ih hoccurs
      refine ⟨depth', c :: before, inner, after, rfl, ?_, hstop, hreads⟩
      rw [hstart, List.length_cons]
      omega
  | @leaf depth operand position kind text rest tokens hlead _ ih =>
      rw [Token.Occurs] at hoccurs
      obtain ⟨depth', before, inner, after, rfl, hstart, hstop, hreads⟩ :=
        ih (hoccurs.resolve_left (by simp))
      refine ⟨depth', text ++ before, inner, after, by simp, ?_, hstop, hreads⟩
      rw [hstart, List.length_append]
      omega
  | @group depth operand position inner after children' tokens _ _ hinner _ ihinner ihafter =>
      rw [Token.Occurs] at hoccurs
      rcases hoccurs with heq | hoccurs | hoccurs
      · cases heq
        exact ⟨_, [], inner, after, by simp, by simp, rfl, hinner⟩
      · obtain ⟨depth', before, inner', after', rfl, hstart, hstop, hreads⟩ := ihinner hoccurs
        refine ⟨depth', '(' :: before, inner', after' ++ ')' :: after, by simp, ?_, hstop, hreads⟩
        rw [hstart, List.length_cons]
        omega
      · obtain ⟨depth', before, inner', after', rfl, hstart, hstop, hreads⟩ := ihafter hoccurs
        refine ⟨depth', '(' :: inner ++ ')' :: before, inner', after', by simp, ?_, hstop, hreads⟩
        rw [hstart]
        simp
        omega

/-- Lexing a part of a text in place gives what lexing a copy of that part gives, moved to the
place of the part, and the groups around it count as if the limit were lower by their number.
The text between the parentheses of a group, lexed by itself at its place, gives the children
of the group. -/
theorem lexInPlace_isolated (limit : DepthLimit) (offset : Int) (expression : String) :
    tokenize limit offset expression =
        lexInPlace limit.value expression.toList 0 offset [] 0 expression.length ∧
      (∀ depth start stop : Nat, start ≤ stop → stop ≤ expression.length →
        lexInPlace limit.value expression.toList depth offset [] start stop =
            shiftResult (start + offset)
              (lexInPlace limit.value (slice expression.toList start stop) depth 0 [] 0
                (stop - start)) ∧
          lexInPlace limit.value expression.toList depth offset [] start stop =
            lexInPlace (limit.value - depth) expression.toList 0 offset [] start stop) ∧
      ∀ tokens, tokenize limit offset expression = .ok tokens →
        ∀ children span, Token.Occurs (.group children span) tokens →
          tokenize limit (span.start + 1)
            (String.ofList (slice expression.toList (span.start - offset + 1)
              (span.stop - offset - 1))) = .ok children := by
  rw [← String.length_toList]
  refine ⟨?_, fun depth start stop hle hstop => ⟨?_, ?_⟩, fun tokens h children span hoccurs => ?_⟩
  · rw [lexInPlace_nil_eq_lexWindow (Nat.zero_le _) (Nat.le_refl _), tokenize]
    simp [slice_full]
  · have hlength := length_slice (Int.natCast_nonneg start) (Int.ofNat_le.2 hle)
      (Int.ofNat_le.2 hstop)
    have hwidth : (slice expression.toList start stop).length = stop - start := by omega
    rw [lexInPlace_nil_eq_lexWindow hle hstop, ← hwidth,
      lexInPlace_nil_eq_lexWindow (Nat.zero_le _) (Nat.le_refl _), ← lexWindow_add]
    simp [slice_full]
  · rw [lexInPlace_nil_eq_lexWindow hle hstop, lexInPlace_nil_eq_lexWindow hle hstop]
    exact lexWindow_eq_of_room (by omega)
  · obtain ⟨depth', before, inner, after, he, hstart, hstop, hreads⟩ :=
      (lexWindow_eq_ok_iff.1 h).of_occurs hoccurs
    have hslice : slice expression.toList (span.start - offset + 1) (span.stop - offset - 1) =
        inner := by
      have hmiddle := slice_middle (before ++ ['(']) inner (')' :: after)
      have htext : before ++ ['('] ++ inner ++ ')' :: after = expression.toList := by
        rw [he, List.append_assoc before, List.singleton_append]
      simp only [htext, List.length_append, List.length_singleton] at hmiddle
      rw [← hmiddle]
      congr 1 <;> omega
    rw [tokenize, String.toList_ofList, hslice]
    exact (hreads.of_room (by omega)).lexWindow_eq

/-- The inside of the outer group is lexed in place, and that of the inner group by itself. -/
theorem lexInPlace_isolated_nested :
    tokenize { value := 2 } 7 "A1 * (-3 - (4 / B22))" = .ok
        [.leaf .reference "A1" ⟨7, 9⟩, .leaf .operator "*" ⟨10, 11⟩,
          .group [.leaf .number "-3" ⟨13, 15⟩, .leaf .operator "-" ⟨16, 17⟩,
            .group [.leaf .number "4" ⟨19, 20⟩, .leaf .operator "/" ⟨21, 22⟩,
              .leaf .reference "B22" ⟨23, 26⟩] ⟨18, 27⟩] ⟨12, 28⟩] ∧
      lexInPlace 2 "A1 * (-3 - (4 / B22))".toList 1 7 [] 6 20 =
        shiftResult 13 (lexInPlace 2 (slice "A1 * (-3 - (4 / B22))".toList 6 20) 1 0 [] 0 14) ∧
      tokenize { value := 2 } 19 (String.ofList (slice "A1 * (-3 - (4 / B22))".toList 12 19)) =
        .ok [.leaf .number "4" ⟨19, 20⟩, .leaf .operator "/" ⟨21, 22⟩,
          .leaf .reference "B22" ⟨23, 26⟩] := by
  have h : tokenize { value := 2 } 7 "A1 * (-3 - (4 / B22))" = .ok
      [.leaf .reference "A1" ⟨7, 9⟩, .leaf .operator "*" ⟨10, 11⟩,
        .group [.leaf .number "-3" ⟨13, 15⟩, .leaf .operator "-" ⟨16, 17⟩,
          .group [.leaf .number "4" ⟨19, 20⟩, .leaf .operator "/" ⟨21, 22⟩,
            .leaf .reference "B22" ⟨23, 26⟩] ⟨18, 27⟩] ⟨12, 28⟩] := by cbv
  obtain ⟨-, hplace, hgroups⟩ := lexInPlace_isolated { value := 2 } 7 "A1 * (-3 - (4 / B22))"
  exact ⟨h, (hplace 1 6 20 (by decide) (by decide)).1,
    hgroups _ h _ ⟨18, 27⟩ (by simp [Token.Occurs])⟩

end FormulaLexer
