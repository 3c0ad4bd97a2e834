import FormulaLexer.Proofs.Lexer.Acceptance
import FormulaLexer.Proofs.Lexer.Tokenization
import FormulaLexer.Proofs.Token.Trees

/-!
Trees of tokens whose text can be taken apart again: what keeps two neighbours from being read
as one token, and a group from reaching further than it should.
-/

namespace FormulaLexer

open Text

namespace Token

/-- A digit that stands directly behind such a token is read together with it. The flag tells
whether an operand is expected where the token stands. -/
def TakesDigits (operand : Bool) : Token → Prop
  | leaf .reference _ _ | leaf .number _ _ => True
  | leaf .operator text _ => text = "-" ∧ operand
  | group _ _ => False

/-- A number without a minus sign in front. -/
def IsUnsigned : Token → Prop
  | leaf .number text _ => text.toList.head? ≠ some '-'
  | _ => False

end Token

/-- One list of tokens can be told apart in its text. -/
structure Separable (operand : Bool) (tokens : List Token) : Prop where
  spelled : ∀ kind text span, .leaf kind text span ∈ tokens →
    kind.shape.Spells true text.toList
  /-- A number with a sign stands where an operand is expected. -/
  signs : ∀ before text span after, tokens = before ++ .leaf .number text span :: after →
    text.toList.head? = some '-' → Token.expectsOperand operand before
  /-- There is at most one group. -/
  oneGroup : tokens.Pairwise fun token next => token.kind = .group → next.kind ≠ .group
  /-- A number without a sign stands apart from a token that would take its digits. -/
  apart : ∀ before token next after, tokens = before ++ token :: next :: after →
    token.TakesDigits (Token.expectsOperand operand before) → next.IsUnsigned →
    token.span.stop < next.span.start

/-- The tokens of a list, and those of each group in it, can be told apart, and there is room
for all groups. -/
inductive Separated (limit : Nat) : Nat → Bool → List Token → Prop
  | intro {depth operand tokens}
      (separable : Separable operand tokens)
      (room : ∀ children span, .group children span ∈ tokens → depth < limit)
      (children : ∀ children span, .group children span ∈ tokens →
        Separated limit (depth + 1) true children) :
      Separated limit depth operand tokens

/-- A text of a kind is read where no operand is expected unless it is a number with a sign. -/
theorem LeafKind.spells_iff {kind : LeafKind} {operand : Bool} {text : List Char} :
    kind.shape.Spells operand text ↔
      kind.shape.Spells true text ∧ (kind = .number → text.head? = some '-' → operand) := by
  cases kind with
  | reference => simp [LeafKind.shape, Shape.Spells]
  | operator => simp [LeafKind.shape, Shape.Spells]
  | number =>
      constructor
      · rintro ⟨digits, hne, hall, rfl | ⟨hoperand, rfl⟩⟩
        · refine ⟨⟨text, hne, hall, .inl rfl⟩, fun _ hhead => ?_⟩
          have := hall '-' (List.mem_of_mem_head? hhead)
          contradiction
        · exact ⟨⟨digits, hne, hall, .inr ⟨rfl, rfl⟩⟩, fun _ _ => hoperand⟩
      · rintro ⟨⟨digits, hne, hall, rfl | ⟨-, rfl⟩⟩, hsign⟩
        · exact ⟨text, hne, hall, .inl rfl⟩
        · exact ⟨digits, hne, hall, .inr ⟨hsign rfl rfl, rfl⟩⟩

theorem separable_nil (operand : Bool) : Separable operand [] where
  spelled := by simp
  signs := by simp
  oneGroup := .nil
  apart := by simp

theorem separable_cons {operand : Bool} {token : Token} {tokens : List Token} :
    Separable operand (token :: tokens) ↔
      (∀ kind text span, token = .leaf kind text span →
        kind.shape.Spells operand text.toList) ∧
      (token.kind = .group → ∀ next ∈ tokens, next.kind ≠ .group) ∧
      (token.TakesDigits operand → ∀ next ∈ tokens.head?, next.IsUnsigned →
        token.span.stop < next.span.start) ∧
      Separable (token.kind = .leaf .operator) tokens := by
  constructor
  · intro h
    obtain ⟨hgroup, htail⟩ := List.pairwise_cons.1 h.oneGroup
    refine ⟨?_, fun hkind next hnext => hgroup next hnext hkind, ?_, ?_⟩
    · rintro kind text span rfl
      refine LeafKind.spells_iff.2 ⟨h.spelled kind text span List.mem_cons_self, ?_⟩
      rintro rfl hhead
      exact h.signs [] text span tokens rfl hhead
    · intro htakes next hnext hunsigned
      obtain ⟨after, rfl⟩ := List.head?_eq_some_iff.1 hnext
      exact h.apart [] token next after rfl htakes hunsigned
    · refine ⟨fun kind text span hmem => h.spelled kind text span (List.mem_cons_of_mem _ hmem),
        ?_, htail, ?_⟩
      · rintro before text span after rfl hhead
        have := h.signs (token :: before) text span after rfl hhead
        rwa [Token.expectsOperand_cons] at this
      · rintro before token' next after rfl htakes hunsigned
        rw [← Token.expectsOperand_cons operand] at htakes
        exact h.apart (token :: before) token' next after rfl htakes hunsigned
  · rintro ⟨hspells, hgroup, hapart, h⟩
    refine ⟨?_, ?_, ?_, ?_⟩
    · intro kind text span hmem
      rcases List.mem_cons.1 hmem with heq | hmem
      · exact (LeafKind.spells_iff.1 (hspells kind text span heq.symm)).1
      · exact h.spelled kind text span hmem
    · intro before text span after hsplit hhead
      rcases List.cons_eq_append_iff.1 hsplit with ⟨rfl, heq⟩ | ⟨before', rfl, hrest⟩
      · cases heq
        exact (LeafKind.spells_iff.1 (hspells .number text span rfl)).2 rfl hhead
      · rw [Token.expectsOperand_cons]
        exact h.signs before' text span after hrest hhead
    · exact List.pairwise_cons.2 ⟨fun next hnext hkind => hgroup hkind next hnext, h.oneGroup⟩
    · intro before token' next after hsplit htakes hunsigned
      rcases List.cons_eq_append_iff.1 hsplit with ⟨rfl, heq⟩ | ⟨before', rfl, hrest⟩
      · cases heq
        exact hapart htakes next rfl hunsigned
      · rw [Token.expectsOperand_cons] at htakes
        exact h.apart before' token' next after hrest htakes hunsigned

namespace Separated

variable {limit depth : Nat} {operand : Bool} {tokens : List Token}

theorem separable (h : Separated limit depth operand tokens) : Separable operand tokens := by
  cases h with
  | intro separable room children => exact separable

theorem nil : Separated limit depth operand [] :=
  .intro (separable_nil operand) (by simp) (by simp)

theorem leaf_cons_iff {kind : LeafKind} {text : String} {span : Span} :
    Separated limit depth operand (.leaf kind text span :: tokens) ↔
      kind.shape.Spells operand text.toList ∧
      ((Token.leaf kind text span).TakesDigits operand → ∀ next ∈ tokens.head?,
        next.IsUnsigned → span.stop < next.span.start) ∧
      Separated limit depth (kind = .operator) tokens := by
  have hkind : decide ((Token.leaf kind text span).kind = .leaf .operator) =
      decide (kind = .operator) := by simp [Token.kind]
  constructor
  · rintro ⟨separable, room, children⟩
    obtain ⟨hspells, -, hapart, htail⟩ := separable_cons.1 separable
    rw [hkind] at htail
    exact ⟨hspells kind text span rfl, hapart, .intro htail
      (fun _ _ hmem => room _ _ (List.mem_cons_of_mem _ hmem))
      fun _ _ hmem => children _ _ (List.mem_cons_of_mem _ hmem)⟩
  · rintro ⟨hspells, hapart, htail, room, children⟩
    refine .intro (separable_cons.2 ⟨?_, ?_, hapart, ?_⟩) ?_ ?_
    · rintro _ _ _ ⟨rfl, rfl, rfl⟩
      exact hspells
    · intro hgroup
      cases hgroup
    · rwa [hkind]
    · intro children' span' hmem
      exact room children' span' (List.mem_of_ne_of_mem (by simp) hmem)
    · intro children' span' hmem
      exact children children' span' (List.mem_of_ne_of_mem (by simp) hmem)

theorem group_cons_iff {children : List Token} {span : Span} :
    Separated limit depth operand (.group children span :: tokens) ↔
      depth < limit ∧ Separated limit (depth + 1) true children ∧
      (∀ next ∈ tokens, next.kind ≠ .group) ∧ Separated limit depth false tokens := by
  constructor
  · rintro ⟨separable, room, hchildren⟩
    obtain ⟨-, hgroup, -, htail⟩ := separable_cons.1 separable
    exact ⟨room children span List.mem_cons_self, hchildren children span List.mem_cons_self,
      hgroup rfl, .intro htail (fun _ _ hmem => room _ _ (List.mem_cons_of_mem _ hmem))
        fun _ _ hmem => hchildren _ _ (List.mem_cons_of_mem _ hmem)⟩
  · rintro ⟨hroom, hinner, hgroup, htail, room, hchildren⟩
    refine .intro (separable_cons.2 ⟨by simp, fun _ => hgroup, ?_, htail⟩) ?_ ?_
    · intro htakes
      contradiction
    · intro children' span' hmem
      exact hroom
    · intro children' span' hmem
      rcases List.mem_cons.1 hmem with heq | hmem
      · cases heq
        exact hinner
      · exact hchildren children' span' hmem

end Separated

theorem Separable.flat {operand : Bool} {tokens : List Token} (h : Separable operand tokens)
    (hgroup : ∀ token ∈ tokens, token.kind ≠ .group) : Token.Flat tokens := by
  intro token hmem
  cases token with
  | group children span => exact absurd rfl (hgroup _ hmem)
  | leaf kind text span =>
      refine ⟨kind, text, span, rfl, fun hclose => ?_⟩
      have hchar := (h.spelled kind text span hmem).isLeafChar _ hclose
      exact (ne_parenthesis_of_isLeafChar hchar).2 rfl

/-- What may stand behind a leaf hangs on whether it takes digits. -/
theorem LeafKind.leads_iff {kind : LeafKind} {text : String} {operand : Bool} {rest : List Char}
    (span : Span) :
    Leads operand kind text.toList rest ↔ kind.shape.Spells operand text.toList ∧
      ((Token.leaf kind text span).TakesDigits operand →
        ∀ c ∈ rest.head?, isDigit c = false) := by
  cases kind with
  | reference =>
      exact ⟨fun h => ⟨h.spells, fun _ => h.ends⟩,
        fun h => ⟨h.1, h.2 trivial, fun _ _ => h.2 trivial⟩⟩
  | number =>
      exact ⟨fun h => ⟨h.spells, fun _ => h.ends⟩,
        fun h => ⟨h.1, h.2 trivial, fun _ _ => h.2 trivial⟩⟩
  | operator =>
      constructor
      · intro h
        refine ⟨h.spells, ?_⟩
        rintro ⟨rfl, hoperand⟩
        exact h.minus rfl hoperand
      · rintro ⟨hspells, hdigit⟩
        exact ⟨hspells, trivial, fun htext hoperand => hdigit ⟨String.toList_inj.1 htext, hoperand⟩⟩

/-- The text of a leaf starts with a digit just if the leaf is a number without a sign. -/
theorem Token.isUnsigned_leaf_iff {kind : LeafKind} {text : String}
    (h : kind.shape.Spells true text.toList) (span : Span) :
    (Token.leaf kind text span).IsUnsigned ↔ ∃ c ∈ text.toList.head?, isDigit c := by
  obtain ⟨c, t, htext, hc⟩ := h.exists_cons
  have hhead : (∃ d ∈ text.toList.head?, isDigit d) ↔ isDigit c := by simp [htext]
  rw [hhead]
  cases kind with
  | reference =>
      simp only [LeafKind.shape, Shape.StartsWith] at hc
      exact ⟨False.elim, fun hdigit => by grind⟩
  | operator =>
      simp only [LeafKind.shape, Shape.StartsWith] at hc
      exact ⟨False.elim, fun hdigit => by grind⟩
  | number =>
      rw [IsUnsigned, htext]
      simp only [LeafKind.shape, Shape.StartsWith, true_and] at hc
      constructor
      · intro hne
        exact hc.resolve_right fun hminus => hne (congrArg some hminus)
      · rintro hdigit heq
        cases heq
        contradiction

end FormulaLexer
