import FormulaLexer.Proofs.Text.Classes

/-!
Normal spacing. Blanks at the ends of a text and just inside of parentheses are dropped, and
every other run of blanks becomes a single space.
-/

namespace FormulaLexer.Text

/-- A text with normal spacing. The flag tells whether blanks at its start are dropped. -/
def normalSpacing (dropped : Bool) : List Char → List Char
  | [] => []
  | c :: s =>
    if isBlank c then
      -- What becomes of a run is decided at its last blank.
      if s.head?.any isBlank then normalSpacing dropped s
      else (if dropped || s.head?.all (· == ')') then [] else [' ']) ++ normalSpacing false s
    else c :: normalSpacing (c == '(') s

section

variable {dropped : Bool} {c : Char} {s run before after : List Char}

theorem normalSpacing_visible (hc : isBlank c = false) :
    normalSpacing dropped (c :: s) = c :: normalSpacing (c == '(') s := by
  rw [normalSpacing, hc]
  rfl

/-- Within a run of blanks, only the last one counts. -/
theorem normalSpacing_blank_cons {d : Char} (hc : isBlank c) :
    normalSpacing dropped (c :: d :: s) =
      if isBlank d then normalSpacing dropped (d :: s)
      else (if dropped || d == ')' then [] else [' ']) ++ normalSpacing false (d :: s) := by
  rw [normalSpacing, if_pos hc]
  rfl

theorem normalSpacing_singleton (hc : isBlank c) : normalSpacing dropped [c] = [] := by
  simp [normalSpacing, hc]

/-- What becomes of a run of blanks at the start of a text. -/
theorem normalSpacing_run (hne : run ≠ []) (hblank : ∀ c ∈ run, isBlank c)
    (hafter : ∀ c ∈ after.head?, isBlank c = false) :
    normalSpacing dropped (run ++ after) =
      (if dropped || after.head?.all (· == ')') then [] else [' ']) ++
        normalSpacing false after := by
  induction run with
  | nil => contradiction
  | cons c run ih =>
      have hc := hblank c List.mem_cons_self
      cases run with
      | nil =>
          cases after with
          | nil => simp [normalSpacing_singleton hc, normalSpacing]
          | cons d after =>
              rw [List.singleton_append, normalSpacing_blank_cons hc, hafter d rfl]
              rfl
      | cons d run =>
          have hd := hblank d (by simp)
          rw [List.cons_append, List.cons_append, normalSpacing_blank_cons hc, if_pos hd,
            ← List.cons_append,
            ih (List.cons_ne_nil _ _) fun x hx => hblank x (List.mem_cons_of_mem _ hx)]

theorem normalSpacing_blanks (hblank : ∀ c ∈ run, isBlank c) : normalSpacing dropped run = [] := by
  by_cases hne : run = []
  · rw [hne, normalSpacing]
  · have hrun : normalSpacing dropped (run ++ []) = _ := normalSpacing_run hne hblank (by simp)
    simpa [normalSpacing] using hrun

/-- Behind a character that is not blank, spacing starts anew. -/
theorem normalSpacing_append (hlast : ∀ c ∈ before.getLast?, isBlank c = false) :
    normalSpacing dropped (before ++ s) =
      normalSpacing dropped before ++
        normalSpacing (before.getLast?.elim dropped (· == '(')) s := by
  induction before generalizing dropped with
  | nil => rfl
  | cons c before ih =>
      cases before with
      | nil =>
          rw [List.singleton_append, normalSpacing_visible (hlast c rfl),
            normalSpacing_visible (hlast c rfl)]
          rfl
      | cons d before =>
          rw [List.getLast?_cons_cons] at hlast ⊢
          rw [List.getLast?_cons] at hlast ih ⊢
          have hrest (flag : Bool) : normalSpacing flag (d :: (before ++ s)) = _ := ih hlast
          by_cases hc : isBlank c
          · rw [List.cons_append, List.cons_append, normalSpacing_blank_cons hc,
              normalSpacing_blank_cons hc, hrest, hrest]
            split <;> simp
          · rw [Bool.not_eq_true] at hc
            rw [List.cons_append, normalSpacing_visible hc, normalSpacing_visible hc,
              List.cons_append, hrest]
            rfl

/-- A text without blanks has normal spacing. -/
theorem normalSpacing_of_visible (hvisible : ∀ c ∈ s, isBlank c = false) :
    normalSpacing dropped s = s := by
  induction s generalizing dropped with
  | nil => rfl
  | cons c s ih =>
      rw [normalSpacing_visible (hvisible c List.mem_cons_self),
        ih fun x hx => hvisible x (List.mem_cons_of_mem _ hx)]

/-- Blanks before a closing parenthesis are dropped as they are at the end of a text. -/
theorem normalSpacing_closing (inner after : List Char) (dropped : Bool) :
    normalSpacing dropped (inner ++ ')' :: after) =
      normalSpacing dropped inner ++ ')' :: normalSpacing false after := by
  have hclosing : isBlank ')' = false := by decide
  induction inner generalizing dropped with
  | nil =>
      rw [List.nil_append, normalSpacing_visible hclosing]
      rfl
  | cons c inner ih =>
      by_cases hc : isBlank c
      · cases inner with
        | nil =>
            rw [List.singleton_append, normalSpacing_blank_cons hc, normalSpacing_singleton hc]
            simp [hclosing, normalSpacing_visible hclosing]
        | cons d inner =>
            rw [List.cons_append] at ih
            rw [List.cons_append, List.cons_append, normalSpacing_blank_cons hc,
              normalSpacing_blank_cons hc, ih, ih]
            split <;> simp
      · rw [Bool.not_eq_true] at hc
        rw [List.cons_append, normalSpacing_visible hc, normalSpacing_visible hc, ih,
          List.cons_append]

/-- Only blanks are dropped and put in. -/
theorem filter_normalSpacing (s : List Char) (dropped : Bool) :
    (normalSpacing dropped s).filter (! isBlank ·) = s.filter (! isBlank ·) := by
  have hspace : isBlank ' ' := by decide
  fun_induction normalSpacing dropped s with
  | case1 => rfl
  | case2 dropped c s hc _ ih => simp [hc, ih]
  | case3 dropped c s hc _ ih =>
      rw [List.filter_append, ih]
      split <;> simp [hc, hspace]
  | case4 dropped c s hc ih => simp [hc, ih]

end

/-- A maximal run of blanks in a text, with what stands before and behind it. -/
structure BlankRun (s before run after : List Char) : Prop where
  split : s = before ++ run ++ after
  ne_nil : run ≠ []
  blank : ∀ c ∈ run, isBlank c
  left : ∀ c ∈ before.getLast?, isBlank c = false
  right : ∀ c ∈ after.head?, isBlank c = false

instance (s before run after : List Char) : Decidable (BlankRun s before run after) :=
  decidable_of_iff (s = before ++ run ++ after ∧ run ≠ [] ∧ run.all isBlank ∧
      before.getLast?.all (! isBlank ·) ∧ after.head?.all (! isBlank ·)) <| by
    simp only [List.all_eq_true, Option.all_eq_true, Bool.not_eq_true']
    exact ⟨fun ⟨split, ne_nil, blank, left, right⟩ => ⟨split, ne_nil, blank, left, right⟩,
      fun h => ⟨h.split, h.ne_nil, h.blank, h.left, h.right⟩⟩

/-- Every maximal run of blanks is dropped or becomes a single space, and the parts of the text
around it are dealt with by themselves. -/
theorem BlankRun.normalSpacing_eq {s before run after : List Char}
    (h : BlankRun s before run after) :
    normalSpacing true s =
      normalSpacing true before ++
        (if before.getLast?.all (· == '(') || after.head?.all (· == ')') then [] else [' ']) ++
        normalSpacing false after := by
  have hleft : before.getLast?.elim true (· == '(') = before.getLast?.all (· == '(') := by
    cases before.getLast? <;> rfl
  rw [h.split, List.append_assoc, normalSpacing_append h.left, hleft,
    normalSpacing_run h.ne_nil h.blank h.right, List.append_assoc]

example : normalSpacing true "  ( A1  -3 ) * ( )".toList = "(A1 -3) * ()".toList := by decide

end FormulaLexer.Text
