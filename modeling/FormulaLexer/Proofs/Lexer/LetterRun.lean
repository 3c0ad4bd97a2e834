import FormulaLexer.Proofs.Lexer.Lead

/-!
Maximal runs of letters. That each of them opens a reference is a condition on neighbouring
characters: a letter stands before the same letter or before a leading digit.
-/

namespace FormulaLexer

open Text Shape

/-- A maximal run of letters in a text, with what stands before and behind it. -/
structure LetterRun (s before run after : List Char) : Prop where
  split : s = before ++ run ++ after
  ne_nil : run ≠ []
  letters : ∀ c ∈ run, isLetter c
  left : ∀ c ∈ before.getLast?, isLetter c = false
  right : ∀ c ∈ after.head?, isLetter c = false

/-- A run of letters is one letter repeated, and a digit other than zero follows it. -/
def OpensReference (run after : List Char) : Prop :=
  (∃ c n, run = List.replicate n c) ∧ ∃ d ∈ after.head?, isLeadingDigit d

/-- Every letter stands before the same letter or before a digit other than zero. -/
def LettersClosed : List Char → Prop
  | [] => True
  | c :: s => (isLetter c → ∃ d ∈ s.head?, d = c ∨ isLeadingDigit d) ∧ LettersClosed s

theorem isLetter_eq_false_of_isLeadingDigit {c : Char} (h : isLeadingDigit c) :
    isLetter c = false := by
  grind

theorem LettersClosed.of_append {s t : List Char} (h : LettersClosed (s ++ t)) :
    LettersClosed t := by
  induction s with
  | nil => exact h
  | cons c s ih => exact ih h.2

theorem lettersClosed_cons {c : Char} {s : List Char} (hc : isLetter c = false) :
    LettersClosed (c :: s) ↔ LettersClosed s := by
  rw [LettersClosed, hc]
  exact and_iff_right fun h => Bool.noConfusion h

theorem lettersClosed_append {text s : List Char} (htext : ∀ c ∈ text, isLetter c = false) :
    LettersClosed (text ++ s) ↔ LettersClosed s := by
  induction text with
  | nil => rfl
  | cons c text ih =>
      rw [List.cons_append, lettersClosed_cons (htext c List.mem_cons_self)]
      exact ih fun x hx => htext x (List.mem_cons_of_mem _ hx)

theorem lettersClosed_replicate_append {c d : Char} {n : Nat} {s : List Char}
    (hd : isLeadingDigit d) :
    LettersClosed (List.replicate n c ++ d :: s) ↔ LettersClosed (d :: s) := by
  induction n with
  | zero => rfl
  | succ n ih =>
      rw [List.replicate_succ, List.cons_append, LettersClosed, ih]
      refine and_iff_right fun _ => ?_
      cases n with
      | zero => exact ⟨d, rfl, .inr hd⟩
      | succ n => exact ⟨c, rfl, .inl rfl⟩

/-- A character that neither is a letter nor ends a run divides the condition. -/
theorem lettersClosed_append_cons {s t : List Char} {d : Char} (hletter : isLetter d = false)
    (hdigit : isLeadingDigit d = false) :
    LettersClosed (s ++ d :: t) ↔ LettersClosed s ∧ LettersClosed t := by
  induction s with
  | nil =>
      rw [List.nil_append, lettersClosed_cons hletter]
      exact (and_iff_right trivial).symm
  | cons c s ih =>
      rw [List.cons_append, LettersClosed, LettersClosed, ih, and_assoc]
      refine and_congr_left fun _ => ?_
      cases s with
      | nil =>
          have hne : isLetter c → d ≠ c := by
            rintro hc rfl
            simp [hc] at hletter
          simp only [List.nil_append, List.head?_cons, List.head?_nil]
          grind
      | cons x s => simp

/-- The run at the start of a text that starts with a letter. -/
theorem letterRun_takeWhile {c : Char} {s : List Char} (hc : isLetter c) :
    LetterRun (c :: s) [] (c :: s.takeWhile isLetter) (s.dropWhile isLetter) where
  split := by simp [List.takeWhile_append_dropWhile]
  ne_nil := List.cons_ne_nil _ _
  letters := by
    intro x hx
    rcases List.mem_cons.1 hx with rfl | hx
    · exact hc
    · exact List.mem_takeWhile_imp hx
  left := by simp
  right := head_dropWhile

theorem LettersClosed.opensReference {run after : List Char}
    (hclosed : LettersClosed (run ++ after))
    (hne : run ≠ []) (hletters : ∀ c ∈ run, isLetter c)
    (hright : ∀ c ∈ after.head?, isLetter c = false) : OpensReference run after := by
  induction run with
  | nil => contradiction
  | cons c run ih =>
      have hc := hletters c List.mem_cons_self
      obtain ⟨d, hd, hnext⟩ := hclosed.1 hc
      cases run with
      | nil =>
          refine ⟨⟨c, 1, rfl⟩, d, hd, hnext.resolve_left ?_⟩
          rintro rfl
          simp [hright d hd] at hc
      | cons x run =>
          cases hd
          have hd := hletters d (by simp)
          have hdc : d = c := by
            refine hnext.resolve_right fun hdigit => ?_
            simp [isLetter_eq_false_of_isLeadingDigit hdigit] at hd
          obtain ⟨⟨x, n, hrun⟩, hafter⟩ := ih hclosed.2 (List.cons_ne_nil _ _)
            fun y hy => hletters y (List.mem_cons_of_mem _ hy)
          refine ⟨⟨d, n + 1, ?_⟩, hafter⟩
          cases n with
          | zero => contradiction
          | succ n =>
              obtain ⟨rfl, -⟩ := List.cons.inj hrun
              rw [hrun, hdc, ← List.replicate_succ]

/-- A run at the start of a text without its first character is a run of the rest. -/
theorem LetterRun.opensReference_of_cons {c : Char} {s before run after : List Char}
    (hrun : LetterRun s before run after)
    (h : ∀ before run after, LetterRun (c :: s) before run after → OpensReference run after) :
    OpensReference run after := by
  obtain ⟨rfl, hne, hletters, hleft, hright⟩ := hrun
  cases before with
  | nil =>
      by_cases hc : isLetter c
      · -- With a letter in front, the run is longer by one.
        obtain ⟨⟨x, n, heq⟩, hafter⟩ := h [] (c :: run) after {
          split := rfl
          ne_nil := List.cons_ne_nil _ _
          letters := fun y hy => (List.mem_cons.1 hy).elim (fun hy => hy ▸ hc) (hletters y)
          left := by simp
          right := hright }
        refine ⟨⟨x, n - 1, ?_⟩, hafter⟩
        rw [← List.tail_replicate, ← heq, List.tail_cons]
      · exact h [c] run after ⟨rfl, hne, hletters, by simpa using hc, hright⟩
  | cons b before =>
      exact h (c :: b :: before) run after ⟨rfl, hne, hletters, by
        rwa [List.getLast?_cons_cons], hright⟩

theorem lettersClosed_iff {s : List Char} :
    LettersClosed s ↔
      ∀ before run after, LetterRun s before run after → OpensReference run after := by
  constructor
  · rintro hclosed before run after ⟨rfl, hne, hletters, -, hright⟩
    rw [List.append_assoc] at hclosed
    exact hclosed.of_append.opensReference hne hletters hright
  · intro h
    induction s with
    | nil => trivial
    | cons c s ih =>
        refine ⟨fun hc => ?_, ih fun before run after hrun => hrun.opensReference_of_cons h⟩
        obtain ⟨⟨x, n, heq⟩, d, hd, hdigit⟩ := h _ _ _ (letterRun_takeWhile hc)
        cases s with
        | nil => contradiction
        | cons y s =>
            by_cases hy : isLetter y
            · -- Both letters are in the run, so they are the same.
              have hmem : c ∈ List.replicate n x ∧ y ∈ List.replicate n x := by
                rw [← heq]
                simp [hy]
              rw [List.mem_replicate, List.mem_replicate] at hmem
              exact ⟨y, rfl, .inl (hmem.2.2.trans hmem.1.2.symm)⟩
            · rw [List.dropWhile_cons_of_neg hy] at hd
              exact ⟨d, hd, .inr hdigit⟩

/-- No letter stands before what neither is a letter nor ends a run. -/
theorem LettersClosed.getLast {s t : List Char} (h : LettersClosed (s ++ t))
    (ht : ∀ d ∈ t.head?, isLetter d = false ∧ isLeadingDigit d = false) :
    ∀ c ∈ s.getLast?, isLetter c = false := by
  intro c hc
  obtain ⟨s, rfl⟩ := List.getLast?_eq_some_iff.1 hc
  rw [List.append_assoc] at h
  obtain ⟨hnext, -⟩ := h.of_append
  rw [Bool.eq_false_iff]
  intro hletter
  obtain ⟨d, hd, rfl | hdigit⟩ := hnext hletter
  · simp [(ht d hd).1] at hletter
  · simp [(ht d hd).2] at hdigit

/-- What stands behind a text that ends a run does not count. -/
theorem OpensReference.of_append {run after beyond : List Char}
    (h : OpensReference run (after ++ beyond))
    (hbeyond : ∀ d ∈ beyond.head?, isLeadingDigit d = false) : OpensReference run after := by
  obtain ⟨hrun, d, hd, hdigit⟩ := h
  cases after with
  | nil => simp [hbeyond d hd] at hdigit
  | cons c after => exact ⟨hrun, d, hd, hdigit⟩

/-- A run of letters that opens a reference is the start of one. -/
theorem OpensReference.longest?_ne_none {c : Char} {rest : List Char} (hletter : isLetter c)
    (h : OpensReference (c :: rest.takeWhile isLetter) (rest.dropWhile isLetter))
    (signed : Bool) : longest? signed .reference (c :: rest) ≠ none := by
  obtain ⟨⟨x, n, hrun⟩, d, hd, hdigit⟩ := h
  obtain ⟨t, ht⟩ := List.head?_eq_some_iff.1 hd
  cases n with
  | zero => contradiction
  | succ n =>
      have hs : c :: rest =
          (List.replicate (n + 1) x ++ d :: t.takeWhile isDigit) ++ t.dropWhile isDigit := by
        rw [← hrun, List.append_assoc, List.cons_append, List.cons_append,
          List.takeWhile_append_dropWhile, ← ht, List.takeWhile_append_dropWhile]
      obtain ⟨rfl, -⟩ := List.cons.inj hrun
      have hspells : Spells signed .reference
          (List.replicate (n + 1) c ++ d :: t.takeWhile isDigit) :=
        ⟨c, n, d, _, hletter, hdigit, fun y hy => List.mem_takeWhile_imp hy, rfl⟩
      have hends : EndsBefore .reference (t.dropWhile isDigit) := head_dropWhile
      rw [hs, longest?_append hspells hends]
      exact Option.some_ne_none _

end FormulaLexer
