import Mathlib
import FormulaLexer.Proofs.Lexer.Reread

/-!
Groups and parentheses. The groups of a text pair its parentheses from the outside in: the first
that opens goes with the last that closes, and so on inwards. Each token stands in as many groups
as there are parentheses open in front of it.
-/

namespace FormulaLexer

/-! ### The groups of a tree -/

namespace Token

/-- The lists of siblings in a tree: the list at the top, and the children of each group. -/
inductive Siblings (tokens : List Token) : List Token → Prop
  | top : Siblings tokens tokens
  | children {siblings children span}
      (hsiblings : Siblings tokens siblings) (hgroup : .group children span ∈ siblings) :
      Siblings tokens children

/-- The groups of a tree, each before the groups inside it. -/
def groups (depth : Nat) (tokens : List Token) : List Entry :=
  (entries depth tokens).filter fun entry => entry.kind = .group

section

variable {depth : Nat} {tokens : List Token} {span : Span}

@[simp] theorem groups_nil : groups depth [] = [] := by
  rw [groups, entries, List.filter_nil]

@[simp] theorem groups_leaf {kind : LeafKind} {text : String} :
    groups depth (.leaf kind text span :: tokens) = groups depth tokens := by
  simp [groups, entries]

@[simp] theorem groups_group {children : List Token} :
    groups depth (.group children span :: tokens) =
      ⟨depth, .group, none, span⟩ :: groups (depth + 1) children ++ groups depth tokens := by
  simp [groups, entries]

end

end Token

theorem Separated.of_siblings {limit depth : Nat} {operand : Bool} {tokens siblings : List Token}
    (h : Separated limit depth operand tokens) (hsiblings : Token.Siblings tokens siblings) :
    ∃ depth operand, Separated limit depth operand siblings := by
  induction hsiblings with
  | top => exact ⟨depth, operand, h⟩
  | children _ hgroup ih =>
      obtain ⟨depth', operand', separable, room, children⟩ := ih
      exact ⟨_, _, children _ _ hgroup⟩

theorem Separable.countP_group_le_one {operand : Bool} {tokens : List Token}
    (h : Separable operand tokens) : tokens.countP (fun token => token.kind = .group) ≤ 1 := by
  induction tokens generalizing operand with
  | nil => exact Nat.zero_le 1
  | cons token tokens ih =>
      obtain ⟨-, hnone, -, hrest⟩ := separable_cons.1 h
      by_cases hgroup : token.kind = .group
      · have hzero : tokens.countP (fun token => token.kind = .group) = 0 :=
          List.countP_eq_zero.2 fun next hnext => by simpa using hnone hgroup next hnext
        rw [List.countP_cons_of_pos (by simpa using hgroup), hzero]
      · rw [List.countP_cons_of_neg (by simpa using hgroup)]
        exact ih hrest

/-! ### Parentheses in pairs -/

/-- A span reaches from the opening parenthesis with the given number to the closing one with
this number, where the opening ones are counted from the start of a text, the closing ones from
its end, and both from zero. -/
def Pairs (s : List Char) (position : Int) (number : Nat) (span : Span) : Prop :=
  ∃ before inner after, s = before ++ '(' :: inner ++ ')' :: after ∧
    before.count '(' = number ∧ after.count ')' = number ∧
    span = ⟨position + before.length, position + (before ++ '(' :: inner).length + 1⟩

/-- An entry starts in a text where as many parentheses are open as groups stand around it, the
groups around the text not counted. -/
def StandsOpen (s : List Char) (position : Int) (depth : Nat) (entry : Entry) : Prop :=
  ∃ before after, s = before ++ after ∧ after ≠ [] ∧
    entry.span.start = position + before.length ∧
    before.count '(' + depth = before.count ')' + entry.depth

section

variable {s inner after : List Char} {position : Int} {number depth : Nat} {span : Span}
  {entry : Entry}

namespace Pairs

/-- The parentheses around a text are the outermost pair. -/
theorem outer (hclose : ')' ∉ after) : Pairs ('(' :: inner ++ ')' :: after) position 0
    ⟨position, position + (inner.length + 2)⟩ := by
  refine ⟨[], inner, after, rfl, rfl, List.count_eq_zero.2 hclose, ?_⟩
  simp
  omega

/-- Each pair inside a pair has the next number. -/
theorem inside (hclose : ')' ∉ after) (h : Pairs inner (position + 1) number span) :
    Pairs ('(' :: inner ++ ')' :: after) position (number + 1) span := by
  obtain ⟨before, inner, after', rfl, hopening, hclosing, rfl⟩ := h
  refine ⟨'(' :: before, inner, after' ++ ')' :: after, by simp, ?_, ?_, ?_⟩
  · rw [List.count_cons_self, hopening]
  · rw [List.count_append, List.count_cons_self, hclosing, List.count_eq_zero.2 hclose]
  · simp
    omega

theorem append {text : List Char} (htext : text.count '(' = 0)
    (h : Pairs s (position + text.length) number span) :
    Pairs (text ++ s) position number span := by
  obtain ⟨before, inner, after, rfl, hopening, hclosing, rfl⟩ := h
  refine ⟨text ++ before, inner, after, by simp, ?_, hclosing, ?_⟩
  · rw [List.count_append, htext, hopening, Nat.zero_add]
  · simp
    omega

end Pairs

namespace StandsOpen

theorem start (hs : s ≠ []) (hstart : entry.span.start = position) :
    StandsOpen s position entry.depth entry := by
  refine ⟨[], s, rfl, hs, ?_, ?_⟩
  · rw [hstart, List.length_nil, Int.natCast_zero, Int.add_zero]
  · rfl

theorem append {text : List Char} (htext : text.count '(' = text.count ')')
    (h : StandsOpen s (position + text.length) depth entry) :
    StandsOpen (text ++ s) position depth entry := by
  obtain ⟨before, after, rfl, hafter, hstart, hopen⟩ := h
  refine ⟨text ++ before, after, by simp, hafter, ?_, ?_⟩
  · rw [hstart, List.length_append]
    omega
  · rw [List.count_append, List.count_append]
    omega

/-- Inside a group one more parenthesis is open. -/
theorem inside (h : StandsOpen inner (position + 1) (depth + 1) entry) :
    StandsOpen ('(' :: inner ++ ')' :: after) position depth entry := by
  obtain ⟨before, after', rfl, hafter, hstart, hopen⟩ := h
  refine ⟨'(' :: before, after' ++ ')' :: after, by simp, by simp, ?_, ?_⟩
  · rw [hstart, List.length_cons]
    omega
  · rw [List.count_cons_self, List.count_cons_of_ne (by decide)]
    omega

/-- Behind a group as many parentheses are open as in front of it. -/
theorem behind (hinner : inner.count '(' = inner.count ')')
    (h : StandsOpen after (position + (inner.length + 2)) depth entry) :
    StandsOpen ('(' :: inner ++ ')' :: after) position depth entry := by
  have hgroup : ('(' :: inner ++ [')']).count '(' = ('(' :: inner ++ [')']).count ')' := by
    simp [hinner]
  have hlength : ((('(' :: inner ++ [')']).length : Nat) : Int) = inner.length + 2 := by
    simp
    omega
  rw [← hlength] at h
  simpa using h.append hgroup

end StandsOpen

end

/-! ### What is read pairs the parentheses -/

section

variable {limit depth : Nat} {operand : Bool} {position : Int} {window : List Char}
  {tokens : List Token}

/-- Behind a group no further group opens. -/
theorem Reads.count_opening_eq_zero (h : Reads limit depth operand position window tokens)
    (hclose : ')' ∉ window) : window.count '(' = 0 :=
  h.accepted.balance.trans (List.count_eq_zero.2 hclose)

/-- There are as many groups as opening parentheses. -/
theorem Reads.length_groups (h : Reads limit depth operand position window tokens) :
    (Token.groups depth tokens).length = window.count '(' := by
  induction h with
  | nil => rw [Token.groups_nil, List.length_nil, List.count_nil]
  | blank hblank _ ih =>
      rw [ih, List.count_cons_of_ne (ne_parenthesis_of_isBlank hblank).1]
  | leaf hlead _ ih =>
      have hnone := count_parentheses fun c hc => .inl (hlead.spells.isLeafChar c hc)
      rw [Token.groups_leaf, ih, List.count_append, hnone.1, Nat.zero_add]
  | group _ _ _ _ ihinner ihafter =>
      simp [ihinner, ihafter]

/-- The group with a number, counted as each one opens, pairs the parentheses of this number. -/
theorem Reads.pairs (h : Reads limit depth operand position window tokens) {number : Nat}
    {entry : Entry} (hentry : (Token.groups depth tokens)[number]? = some entry) :
    Pairs window position number entry.span := by
  induction h generalizing number with
  | nil => simp at hentry
  | @blank depth operand position c rest tokens hblank _ ih =>
      have hnone : [c].count '(' = 0 := by simp [(ne_parenthesis_of_isBlank hblank).1]
      exact .append hnone (ih hentry)
  | leaf hlead _ ih =>
      have hnone := count_parentheses fun c hc => .inl (hlead.spells.isLeafChar c hc)
      rw [Token.groups_leaf] at hentry
      exact .append hnone.1 (ih hentry)
  | group _ hclose hinner hafter ihinner _ =>
      -- All further groups stand inside this one, as no group follows it.
      have hnone := hafter.length_groups.trans (hafter.count_opening_eq_zero hclose)
      rw [Token.groups_group, List.length_eq_zero_iff.1 hnone, List.append_nil] at hentry
      cases number with
      | zero =>
          cases hentry
          exact .outer hclose
      | succ number => exact .inside hclose (ihinner hentry)

/-- The depth of a token is the number of parentheses that are open in front of it. -/
theorem Reads.standsOpen (h : Reads limit depth operand position window tokens) {entry : Entry}
    (hentry : entry ∈ Token.entries depth tokens) : StandsOpen window position depth entry := by
  induction h with
  | nil =>
      rw [Token.entries] at hentry
      contradiction
  | @blank depth operand position c rest tokens hblank _ ih =>
      have hnone := ne_parenthesis_of_isBlank hblank
      have hcount : [c].count '(' = [c].count ')' := by simp [hnone.1, hnone.2]
      exact .append hcount (ih hentry)
  | leaf hlead _ ih =>
      have hnone := count_parentheses fun c hc => .inl (hlead.spells.isLeafChar c hc)
      rw [Token.entries, List.mem_cons] at hentry
      rcases hentry with rfl | hentry
      · exact .start (by simp [hlead.ne_nil]) rfl
      · exact .append (hnone.1.trans hnone.2.symm) (ih hentry)
  | group _ _ hinner _ ihinner ihafter =>
      rw [Token.entries, List.cons_append, List.mem_cons, List.mem_append] at hentry
      rcases hentry with rfl | hentry | hentry
      · exact .start (by simp) rfl
      · exact .inside (ihinner hentry)
      · exact .behind hinner.accepted.balance (ihafter hentry)

end

/-- The groups of a text pair its parentheses from the outside in. No two of them are siblings,
and each token stands in as many groups as there are parentheses open in front of it. -/
theorem groups_of_tokenize {limit : DepthLimit} {offset : Int} {expression : String}
    {tokens : List Token} (h : tokenize limit offset expression = .ok tokens) :
    (∀ siblings, Token.Siblings tokens siblings →
      siblings.countP (fun token => token.kind = .group) ≤ 1) ∧
    (Token.groups 0 tokens).length = expression.toList.count '(' ∧
    (∀ number entry, (Token.groups 0 tokens)[number]? = some entry →
      Pairs expression.toList offset number entry.span) ∧
    ∀ entry ∈ Token.entries 0 tokens, StandsOpen expression.toList offset 0 entry := by
  have hreads := lexWindow_eq_ok_iff.1 h
  refine ⟨fun siblings hsiblings => ?_, hreads.length_groups, fun number entry hentry => ?_,
    fun entry hentry => ?_⟩
  · obtain ⟨_, _, hseparated⟩ := hreads.separated.of_siblings hsiblings
    exact hseparated.separable.countP_group_le_one
  · exact hreads.pairs hentry
  · exact hreads.standsOpen hentry

/-- Of the three groups the innermost one is empty, and it is paired with the first of the
parentheses that close. -/
theorem groups_of_tokenize_nested :
    let inner : List Token := [.leaf .reference "B7" ⟨3, 5⟩, .leaf .operator "-" ⟨5, 6⟩,
      .group [] ⟨7, 10⟩]
    let tokens : List Token := [.leaf .number "-2" ⟨-3, -1⟩, .leaf .operator "*" ⟨-1, 0⟩,
      .group [.group inner ⟨2, 11⟩, .leaf .operator "/" ⟨12, 13⟩] ⟨0, 14⟩]
    tokenize { value := 3 } (-3) "-2*( (B7- ( )) /)" = .ok tokens ∧
      (Token.Siblings tokens inner ∧ inner.countP (fun token => token.kind = .group) ≤ 1) ∧
      ((Token.groups 0 tokens)[2]? = some ⟨2, .group, none, ⟨7, 10⟩⟩ ∧
        Pairs "-2*( (B7- ( )) /)".toList (-3) 2 ⟨7, 10⟩) ∧
      ⟨1, .leaf .operator, some "/", ⟨12, 13⟩⟩ ∈ Token.entries 0 tokens ∧
      StandsOpen "-2*( (B7- ( )) /)".toList (-3) 0
        ⟨1, .leaf .operator, some "/", ⟨12, 13⟩⟩ := by
  intro inner tokens
  have h : tokenize { value := 3 } (-3) "-2*( (B7- ( )) /)" = .ok tokens := by cbv
  have hinner : Token.Siblings tokens inner :=
    .children (.children .top (.tail _ (.tail _ (.head _)))) (.head _)
  have hgroup : (Token.groups 0 tokens)[2]? = some ⟨2, .group, none, ⟨7, 10⟩⟩ := by
    simp [tokens, inner]
  have hentry : ⟨1, .leaf .operator, some "/", ⟨12, 13⟩⟩ ∈ Token.entries 0 tokens := by
    simp [tokens, inner, Token.entries]
  obtain ⟨hone, -, hpairs, hopen⟩ := groups_of_tokenize h
  exact ⟨h, ⟨hinner, hone inner hinner⟩, ⟨hgroup, hpairs 2 _ hgroup⟩, hentry, hopen _ hentry⟩

end FormulaLexer
