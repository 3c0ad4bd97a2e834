import FormulaLexer.Token.Tree

/-!
What the tree of some tokens tells about them: all but their spans.
-/

namespace FormulaLexer

theorem LeafKind.tree_inj {kind kind' : LeafKind} {text text' : String} :
    kind.tree text = kind'.tree text' ↔ kind = kind' ∧ text = text' := by
  cases kind <;> cases kind' <;> simp [LeafKind.tree, LeafKind.name]

namespace Token

variable {tokens tokens' : List Token}

theorem exists_leaf_of_trees {kind : LeafKind} {text : String} {span : Span}
    (h : trees tokens' = trees (.leaf kind text span :: tokens)) :
    ∃ span' rest, tokens' = .leaf kind text span' :: rest ∧ trees rest = trees tokens := by
  cases tokens' with
  | nil => simp [trees] at h
  | cons token tokens' =>
      cases token with
      | leaf kind' text' span' =>
          simp only [trees, List.cons.injEq, LeafKind.tree_inj] at h
          obtain ⟨⟨rfl, rfl⟩, hrest⟩ := h
          exact ⟨span', tokens', rfl, hrest⟩
      | group children' span' => simp [trees, LeafKind.tree] at h

theorem exists_group_of_trees {children : List Token} {span : Span}
    (h : trees tokens' = trees (.group children span :: tokens)) :
    ∃ children' span' rest, tokens' = .group children' span' :: rest ∧
      trees children' = trees children ∧ trees rest = trees tokens := by
  cases tokens' with
  | nil => simp [trees] at h
  | cons token tokens' =>
      cases token with
      | leaf kind' text' span' => simp [trees, LeafKind.tree] at h
      | group children' span' =>
          simp only [trees, List.cons.injEq, Json.obj.injEq, Prod.mk.injEq, Json.arr.injEq] at h
          exact ⟨children', span', tokens', rfl, h.1.2.1.2, h.2⟩

/-- There are no groups among some tokens, and no parenthesis closes in their texts. -/
def Flat (tokens : List Token) : Prop :=
  ∀ token ∈ tokens, ∃ kind text span, token = .leaf kind text span ∧ ')' ∉ text.toList

theorem Flat.of_trees (h : Flat tokens') (htrees : trees tokens' = trees tokens) :
    Flat tokens := by
  induction tokens generalizing tokens' with
  | nil => exact fun token hmem => absurd hmem List.not_mem_nil
  | cons token tokens ih =>
      cases token with
      | leaf kind text span =>
          obtain ⟨span', rest, rfl, hrest⟩ := exists_leaf_of_trees htrees
          obtain ⟨hleaf, hflat⟩ := List.forall_mem_cons.1 h
          refine List.forall_mem_cons.2 ⟨⟨kind, text, span, rfl, ?_⟩, ih hflat hrest⟩
          obtain ⟨_, _, _, heq, hclose⟩ := hleaf
          cases heq
          exact hclose
      | group children span =>
          obtain ⟨children', span', rest, rfl, -⟩ := exists_group_of_trees htrees
          obtain ⟨_, _, _, heq, -⟩ := h _ List.mem_cons_self
          cases heq

theorem Flat.kind_ne_group (h : Flat tokens) : ∀ token ∈ tokens, token.kind ≠ .group := by
  intro token hmem
  obtain ⟨kind, text, span, rfl, -⟩ := h token hmem
  exact Kind.noConfusion

end Token

end FormulaLexer
