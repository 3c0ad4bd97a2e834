import FormulaLexer.Proofs.Text.Classes
import Mathlib.Data.List.TakeWhile
import Mathlib.Logic.Relation

/-!
Texts that differ in their blanks alone. A change of blanks at one place is `Respaced`; what
any number of such changes leave in step is `SpacedAlike`, which walks through both texts from
one visible character to the next.
-/

namespace FormulaLexer.Text

def isParenthesis (c : Char) : Bool := c == '(' || c == ')'

/-- The characters of a text that are not blank. -/
def visible (s : List Char) : List Char := s.filter (! isBlank ·)

/-- Other blanks stand at one place of a text. At either end of the text and directly next to
a parenthesis they may be put in or taken away; elsewhere there are some before and after. -/
inductive Respaced : List Char → List Char → Prop
  | intro (before blanks blanks' after)
      (hblanks : ∀ c ∈ blanks, isBlank c) (hblanks' : ∀ c ∈ blanks', isBlank c)
      (hplace : before.getLast?.all isParenthesis ∨ after.head?.all isParenthesis ∨
        blanks ≠ [] ∧ blanks' ≠ []) :
      Respaced (before ++ blanks ++ after) (before ++ blanks' ++ after)

/-- Two texts have the same visible characters in the same order, and between two neighbours
of them blanks stand in both texts or in neither, unless one of the neighbours is a
parenthesis. The flag tells whether blanks at the start are left open as well. -/
inductive SpacedAlike : Bool → List Char → List Char → Prop
  | nil {isOpen : Bool} {blanks blanks'}
      (hblanks : ∀ c ∈ blanks, isBlank c) (hblanks' : ∀ c ∈ blanks', isBlank c) :
      SpacedAlike isOpen blanks blanks'
  | cons {isOpen : Bool} {blanks blanks' c s s'}
      (hblanks : ∀ c ∈ blanks, isBlank c) (hblanks' : ∀ c ∈ blanks', isBlank c)
      (hc : isBlank c = false)
      (hgap : isOpen ∨ isParenthesis c ∨ (blanks = [] ↔ blanks' = []))
      (hrest : SpacedAlike (isParenthesis c) s s') :
      SpacedAlike isOpen (blanks ++ c :: s) (blanks' ++ c :: s')

/-! ### Visible characters -/

section

variable {s t : List Char}

theorem visible_append : visible (s ++ t) = visible s ++ visible t := List.filter_append ..

theorem visible_eq_nil_iff : visible s = [] ↔ ∀ c ∈ s, isBlank c := by
  simp [visible]

theorem visible_cons {c : Char} (hc : isBlank c = false) : visible (c :: s) = c :: visible s := by
  simp [visible, hc]

theorem mem_visible {c : Char} (hc : isBlank c = false) : c ∈ visible s ↔ c ∈ s := by
  simp [visible, hc]

end

namespace SpacedAlike

variable {isOpen : Bool} {s s' t : List Char} {c : Char}

theorem symm (h : SpacedAlike isOpen s s') : SpacedAlike isOpen s' s := by
  induction h with
  | nil hblanks hblanks' => exact .nil hblanks' hblanks
  | cons hblanks hblanks' hc hgap _ ih =>
      exact .cons hblanks' hblanks hc (hgap.imp_right (Or.imp_right Iff.symm)) ih

/-- What is asked of the start may be dropped. -/
theorem opened (h : SpacedAlike isOpen s s') : SpacedAlike true s s' := by
  cases h with
  | nil hblanks hblanks' => exact .nil hblanks hblanks'
  | cons hblanks hblanks' hc _ hrest => exact .cons hblanks hblanks' hc (.inl rfl) hrest

theorem visible_eq (h : SpacedAlike isOpen s s') : visible s = visible s' := by
  induction h with
  | nil hblanks hblanks' =>
      rw [visible_eq_nil_iff.2 hblanks, visible_eq_nil_iff.2 hblanks']
  | cons hblanks hblanks' hc _ _ ih =>
      rw [visible_append, visible_append, visible_eq_nil_iff.2 hblanks,
        visible_eq_nil_iff.2 hblanks', visible_cons hc, visible_cons hc, ih]

theorem mem_iff (h : SpacedAlike isOpen s s') (hc : isBlank c = false) : c ∈ s ↔ c ∈ s' := by
  rw [← mem_visible hc, h.visible_eq, mem_visible hc]

/-! ### Putting texts together -/

theorem cons_blank (hc : isBlank c) (h : SpacedAlike isOpen s s') :
    SpacedAlike isOpen (c :: s) (c :: s') := by
  have hmore {blanks : List Char} (hblanks : ∀ x ∈ blanks, isBlank x) :
      ∀ x ∈ c :: blanks, isBlank x := List.forall_mem_cons.2 ⟨hc, hblanks⟩
  cases h with
  | nil hblanks hblanks' => exact .nil (hmore hblanks) (hmore hblanks')
  | cons hblanks hblanks' hd _ hrest =>
      rw [← List.cons_append, ← List.cons_append]
      exact .cons (hmore hblanks) (hmore hblanks') hd (.inr (.inr (by simp))) hrest

theorem cons_visible (hc : isBlank c = false) (h : SpacedAlike (isParenthesis c) s s') :
    SpacedAlike isOpen (c :: s) (c :: s') := by
  have hnone : ∀ x ∈ ([] : List Char), isBlank x := List.forall_mem_nil _
  exact .cons hnone hnone hc (.inr (.inr Iff.rfl)) h

theorem refl (isOpen : Bool) (s : List Char) : SpacedAlike isOpen s s := by
  induction s generalizing isOpen with
  | nil => exact .nil (List.forall_mem_nil _) (List.forall_mem_nil _)
  | cons c s ih =>
      by_cases hc : isBlank c
      · exact (ih isOpen).cons_blank hc
      · exact (ih _).cons_visible (Bool.eq_false_iff.2 hc)

/-- Other blanks may stand in front of a text. -/
theorem blanks_append {blanks blanks' : List Char} (hblanks : ∀ c ∈ blanks, isBlank c)
    (hblanks' : ∀ c ∈ blanks', isBlank c)
    (hplace : isOpen ∨ s.head?.all isParenthesis ∨ blanks ≠ [] ∧ blanks' ≠ []) :
    SpacedAlike isOpen (blanks ++ s) (blanks' ++ s) := by
  have hmore {blanks : List Char} (hblanks : ∀ c ∈ blanks, isBlank c) :
      ∀ c ∈ blanks ++ s.takeWhile isBlank, isBlank c :=
    List.forall_mem_append.2 ⟨hblanks, fun _ => List.mem_takeWhile_imp⟩
  rw [← List.takeWhile_append_dropWhile (p := isBlank) (l := s), ← List.append_assoc,
    ← List.append_assoc]
  cases hs : s.dropWhile isBlank with
  | nil =>
      rw [List.append_nil, List.append_nil]
      exact .nil (hmore hblanks) (hmore hblanks')
  | cons d t =>
      have hd : isBlank d = false := by
        have := List.head?_dropWhile_not isBlank s
        rwa [hs] at this
      refine .cons (hmore hblanks) (hmore hblanks') hd ?_ (refl _ _)
      rcases hplace with hopen | hhead | ⟨hne, hne'⟩
      · exact .inl hopen
      · cases s with
        | nil => contradiction
        | cons x s =>
            by_cases hx : isBlank x
            · exact .inr (.inr (by simp [hx]))
            · rw [List.dropWhile_cons_of_neg hx] at hs
              cases hs
              exact .inr (.inl (by simpa using hhead))
      · exact .inr (.inr (by simp [hne, hne']))

/-! ### Taking texts apart -/

/-- A blank at an open start does not count. -/
theorem of_cons_blank (hc : isBlank c) (h : SpacedAlike true (c :: s) s') :
    SpacedAlike true s s' := by
  generalize ht : c :: s = t at h
  cases h with
  | nil hblanks hblanks' =>
      subst ht
      exact .nil (List.forall_mem_cons.1 hblanks).2 hblanks'
  | @cons _ blanks _ d s _ hblanks hblanks' hd _ hrest =>
      cases blanks with
      | nil =>
          cases ht
          rw [hd] at hc
          contradiction
      | cons x blanks =>
          cases ht
          exact .cons (List.forall_mem_cons.1 hblanks).2 hblanks' hd (.inl rfl) hrest

/-- The first visible character of one text is that of the other one. -/
theorem exists_of_append_cons {blanks : List Char} (hblanks : ∀ c ∈ blanks, isBlank c)
    (hc : isBlank c = false) (h : SpacedAlike isOpen (blanks ++ c :: s) s') :
    ∃ blanks' t, s' = blanks' ++ c :: t ∧ (∀ c ∈ blanks', isBlank c) ∧
      (isOpen ∨ isParenthesis c ∨ (blanks = [] ↔ blanks' = [])) ∧
      SpacedAlike (isParenthesis c) s t := by
  generalize ht : blanks ++ c :: s = t at h
  cases h with
  | nil hall _ =>
      subst ht
      rw [hall c (by simp)] at hc
      contradiction
  | @cons _ _ blanks' d _ t hblanks₁ hblanks' hd hgap hrest =>
      obtain ⟨rfl, hcons⟩ := blanks_append_inj hblanks hblanks₁ (by simpa using hc)
        (by simpa using hd) ht
      cases hcons
      exact ⟨blanks', t, rfl, hblanks', hgap, hrest⟩

theorem exists_of_cons (hc : isBlank c = false) (h : SpacedAlike isOpen (c :: s) s') :
    ∃ blanks t, s' = blanks ++ c :: t ∧ (∀ c ∈ blanks, isBlank c) ∧
      (isOpen ∨ isParenthesis c ∨ blanks = []) ∧ SpacedAlike (isParenthesis c) s t := by
  obtain ⟨blanks, t, rfl, hblanks, hgap, hrest⟩ :=
    exists_of_append_cons (List.forall_mem_nil _) hc h
  exact ⟨blanks, t, rfl, hblanks, by simpa using hgap, hrest⟩

theorem trans {s'' : List Char} (h : SpacedAlike isOpen s s')
    (h' : SpacedAlike isOpen s' s'') : SpacedAlike isOpen s s'' := by
  induction h generalizing s'' with
  | nil hblanks hblanks' =>
      have hvisible := h'.visible_eq
      rw [visible_eq_nil_iff.2 hblanks'] at hvisible
      exact .nil hblanks (visible_eq_nil_iff.1 hvisible.symm)
  | cons hblanks hblanks' hc hgap _ ih =>
      obtain ⟨blanks'', t, rfl, hblanks'', hgap', hrest⟩ :=
        h'.exists_of_append_cons hblanks' hc
      refine .cons hblanks hblanks'' hc ?_ (ih hrest)
      rcases hgap with hopen | hparenthesis | hgap
      · exact .inl hopen
      · exact .inr (.inl hparenthesis)
      · exact hgap'.imp_right (Or.imp_right hgap.trans)

/-- Between characters that are neither blank nor parentheses the texts do not differ. -/
theorem exists_of_append {text : List Char}
    (htext : ∀ c ∈ text, isBlank c = false ∧ isParenthesis c = false)
    (h : SpacedAlike false (text ++ s) s') : ∃ t, s' = text ++ t ∧ SpacedAlike false s t := by
  induction text generalizing s' with
  | nil => exact ⟨s', rfl, h⟩
  | cons c text ih =>
      obtain ⟨⟨hc, hparenthesis⟩, htext⟩ := List.forall_mem_cons.1 htext
      obtain ⟨blanks, t, rfl, -, hgap, hrest⟩ := h.exists_of_cons hc
      rw [hparenthesis] at hgap hrest
      obtain ⟨u, rfl, hu⟩ := ih htext hrest
      simp only [Bool.false_eq_true, false_or] at hgap
      exact ⟨u, by rw [hgap, List.nil_append, List.cons_append], hu⟩

/-- At a parenthesis both texts come apart. -/
theorem exists_of_parenthesis (hparenthesis : isParenthesis c) (hc : isBlank c = false)
    (h : SpacedAlike isOpen (s ++ c :: t) s') :
    ∃ u v, s' = u ++ c :: v ∧ SpacedAlike isOpen s u ∧ SpacedAlike true t v := by
  generalize hall : s ++ c :: t = all at h
  induction h generalizing s with
  | nil hblanks _ =>
      subst hall
      rw [hblanks c (by simp)] at hc
      contradiction
  | @cons isOpen blanks blanks' d rest rest' hblanks hblanks' hd hgap hrest ih =>
      rcases List.append_eq_append_iff.1 hall with ⟨x, rfl, hx⟩ | ⟨x, rfl, hx⟩
      · -- The parenthesis stands behind blanks alone.
        cases x with
        | nil =>
            cases hx
            rw [List.append_nil] at hblanks
            rw [hparenthesis] at hrest
            exact ⟨blanks', rest', rfl, .nil hblanks hblanks', hrest⟩
        | cons y x =>
            cases hx
            rw [hblanks c (by simp)] at hc
            contradiction
      · cases x with
        | nil =>
            cases hx
            rw [hparenthesis] at hrest
            rw [List.append_nil]
            exact ⟨blanks', rest', rfl, .nil hblanks hblanks', hrest⟩
        | cons y x =>
            cases hx
            obtain ⟨u, v, rfl, hu, hv⟩ := ih rfl
            exact ⟨blanks' ++ d :: u, v, by simp, .cons hblanks hblanks' hd hgap hu, hv⟩

end SpacedAlike

/-- A change of blanks at one place leaves the texts in step. -/
theorem Respaced.spacedAlike {s s' : List Char} (h : Respaced s s') : SpacedAlike true s s' := by
  obtain ⟨before, blanks, blanks', after, hblanks, hblanks', hplace⟩ := h
  -- In front of the place the texts are the same, up to the last visible character before it.
  suffices hstep : ∀ isOpen : Bool, before.getLast?.elim isOpen isParenthesis ∨
      after.head?.all isParenthesis ∨ blanks ≠ [] ∧ blanks' ≠ [] →
      SpacedAlike isOpen (before ++ (blanks ++ after)) (before ++ (blanks' ++ after)) by
    rw [List.append_assoc, List.append_assoc]
    refine hstep true (hplace.imp_left fun hlast => ?_)
    cases hbefore : before.getLast? with
    | none => rfl
    | some c => simpa [hbefore] using hlast
  clear hplace
  induction before with
  | nil => exact fun isOpen hplace => .blanks_append hblanks hblanks' hplace
  | cons c before ih =>
      intro isOpen hplace
      rw [List.getLast?_cons] at hplace
      have hlast (isOpen : Bool) (hend : isParenthesis c → isOpen) :
          before.getLast?.elim isOpen isParenthesis ∨ after.head?.all isParenthesis ∨
            blanks ≠ [] ∧ blanks' ≠ [] := by
        refine hplace.imp_left fun hplace => ?_
        cases hbefore : before.getLast? with
        | none => exact hend (by simpa [hbefore] using hplace)
        | some d => simpa [hbefore] using hplace
      by_cases hc : isBlank c
      · refine (ih isOpen (hlast isOpen fun hparenthesis => ?_)).cons_blank hc
        -- A blank is no parenthesis.
        have hne : isBlank '(' = false ∧ isBlank ')' = false := by decide
        simp only [isParenthesis, Bool.or_eq_true, beq_iff_eq] at hparenthesis
        rcases hparenthesis with rfl | rfl <;> simp_all
      · exact (ih _ (hlast _ id)).cons_visible (Bool.eq_false_iff.2 hc)

theorem spacedAlike_of_reflTransGen {s s' : List Char}
    (h : Relation.ReflTransGen Respaced s s') : SpacedAlike true s s' := by
  induction h with
  | refl => exact .refl true s
  | tail _ hstep ih => exact ih.trans hstep.spacedAlike

end FormulaLexer.Text
