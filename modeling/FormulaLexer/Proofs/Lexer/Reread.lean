import Mathlib
import FormulaLexer.Proofs.Token.Written

/-!
Reading tokens back from their text. Any tree of tokens can be written, and the text is read
as the same tree just if the tokens in it are kept apart.
-/

namespace FormulaLexer

open Text

/-! ### Reading behind blanks -/

section

variable {limit depth : Nat} {operand : Bool} {position : Int} {window blanks : List Char}
  {tokens : List Token}

theorem reads_blanks_iff (hblanks : ∀ c ∈ blanks, isBlank c) :
    Reads limit depth operand position (blanks ++ window) tokens ↔
      Reads limit depth operand (position + blanks.length) window tokens := by
  induction blanks generalizing position with
  | nil => simp
  | cons c blanks ih =>
      have hlength : position + 1 + blanks.length = position + (c :: blanks).length := by
        rw [List.length_cons]
        omega
      rw [List.cons_append, reads_blank_iff (hblanks c List.mem_cons_self),
        ih fun x hx => hblanks x (List.mem_cons_of_mem _ hx), hlength]

/-- What is read is written in the window, behind the blanks that were skipped. -/
theorem Reads.written (h : Reads limit depth operand position window tokens)
    {stop? : Option Int} {skipped : List Char} (hskipped : ∀ c ∈ skipped, isBlank c)
    (hposition : ∀ stop ∈ stop?, position = stop + skipped.length) :
    Written stop? tokens (skipped ++ window) := by
  have hgap {position : Int} {stop? : Option Int} {skipped : List Char}
      (hposition : ∀ stop ∈ stop?, position = stop + skipped.length) :
      ∀ stop ∈ stop?, skipped ≠ [] ↔ stop < position := by
    intro stop hstop
    rw [hposition stop hstop, ← List.length_pos_iff]
    omega
  induction h generalizing stop? skipped with
  | nil =>
      rw [List.append_nil]
      exact .nil hskipped
  | @blank depth operand position c rest tokens hblank _ ih =>
      have hmore : ∀ x ∈ skipped ++ [c], isBlank x := by
        intro x hx
        rcases List.mem_append.1 hx with hx | hx
        · exact hskipped x hx
        · rwa [List.mem_singleton.1 hx]
      rw [← List.singleton_append, ← List.append_assoc]
      refine ih hmore fun stop hstop => ?_
      rw [hposition stop hstop, List.length_append, List.length_singleton]
      omega
  | @leaf depth operand position kind text rest tokens hlead _ ih =>
      have hrest : Written (some (position + text.length)) tokens ([] ++ rest) :=
        ih (by simp) (by simp)
      have hleaf : Written stop?
          (.leaf kind (String.ofList text) ⟨position, position + text.length⟩ :: tokens)
          (skipped ++ ((String.ofList text).toList ++ rest)) :=
        .leaf hskipped (hgap hposition) hrest
      rwa [String.toList_ofList] at hleaf
  | @group depth operand position inner after children tokens _ _ _ _ ihinner ihafter =>
      have hinner : Written none children ([] ++ inner) := ihinner (by simp) (by simp)
      have hafter : Written (some (position + (inner.length + 2))) tokens ([] ++ after) :=
        ihafter (by simp) (by simp)
      exact .group hskipped (hgap hposition) hinner hafter

/-- Where a leaf is read first, it stands in the window behind blanks. -/
theorem Reads.exists_leaf {kind : LeafKind} {text : String} {span : Span}
    (h : Reads limit depth operand position window (.leaf kind text span :: tokens)) :
    ∃ blanks rest, window = blanks ++ (text.toList ++ rest) ∧ (∀ c ∈ blanks, isBlank c) ∧
      Leads operand kind text.toList rest ∧
      Reads limit depth (kind = .operator) (position + blanks.length + text.toList.length) rest
        tokens := by
  generalize hall : Token.leaf kind text span :: tokens = all at h
  induction h with
  | nil => cases hall
  | @blank depth operand position c rest _ hblank _ ih =>
      obtain ⟨blanks, rest, rfl, hblanks, hlead, hrest⟩ := ih hall
      refine ⟨c :: blanks, rest, rfl, ?_, hlead, ?_⟩
      · exact List.forall_mem_cons.2 ⟨hblank, hblanks⟩
      · rw [List.length_cons, Int.natCast_add, Int.add_comm (blanks.length : Int),
          ← Int.add_assoc]
        exact hrest
  | @leaf depth operand position kind text rest _ hlead hrest _ =>
      cases hall
      refine ⟨[], rest, ?_, by simp, ?_, ?_⟩
      · rw [String.toList_ofList, List.nil_append]
      · rwa [String.toList_ofList]
      · rw [String.toList_ofList, List.length_nil]
        simpa using hrest
  | group => cases hall

/-- Where a group is read first, it stands in the window behind blanks. -/
theorem Reads.exists_group {children : List Token} {span : Span}
    (h : Reads limit depth operand position window (.group children span :: tokens)) :
    ∃ blanks inner after, window = blanks ++ ('(' :: inner ++ ')' :: after) ∧
      (∀ c ∈ blanks, isBlank c) ∧ depth < limit ∧ ')' ∉ after ∧
      Reads limit (depth + 1) true (position + blanks.length + 1) inner children ∧
      Reads limit depth false (position + blanks.length + (inner.length + 2)) after tokens := by
  generalize hall : Token.group children span :: tokens = all at h
  induction h with
  | nil => cases hall
  | @blank depth operand position c rest _ hblank _ ih =>
      obtain ⟨blanks, inner, after, rfl, hblanks, hdepth, hclose, hinner, hafter⟩ := ih hall
      have hlength : position + 1 + blanks.length = position + (c :: blanks).length := by
        rw [List.length_cons]
        omega
      rw [hlength] at hinner hafter
      exact ⟨c :: blanks, inner, after, rfl, List.forall_mem_cons.2 ⟨hblank, hblanks⟩, hdepth,
        hclose, hinner, hafter⟩
  | leaf => cases hall
  | @group depth operand position inner after _ _ hdepth hclose hinner hafter _ _ =>
      cases hall
      exact ⟨[], inner, after, rfl, by simp, hdepth, hclose, by simpa using hinner,
        by simpa using hafter⟩

/-- Where no group closes, no group is read. -/
theorem Reads.flat (h : Reads limit depth operand position window tokens)
    (hclose : ')' ∉ window) : Token.Flat tokens := by
  induction h with
  | nil => exact fun token hmem => absurd hmem List.not_mem_nil
  | blank _ _ ih => exact ih fun hmem => hclose (List.mem_cons_of_mem _ hmem)
  | leaf hlead _ ih =>
      rw [List.mem_append, not_or] at hclose
      refine List.forall_mem_cons.2 ⟨⟨_, _, _, rfl, ?_⟩, ih hclose.2⟩
      rw [String.toList_ofList]
      exact hclose.1
  | group => simp at hclose

/-- A text is cut in one way at its last closing parenthesis. -/
theorem closing_append_inj {inner inner' after after' : List Char} (hclose : ')' ∉ after)
    (hclose' : ')' ∉ after') (h : inner ++ ')' :: after = inner' ++ ')' :: after') :
    inner = inner' ∧ after = after' := by
  have hlast := congrArg (Shape.throughLast ')') h
  rw [Shape.throughLast_append hclose, Shape.throughLast_append hclose'] at hlast
  have hinner := List.append_cancel_right hlast
  rw [hinner] at h
  exact ⟨hinner, List.tail_eq_of_cons_eq (List.append_cancel_left h)⟩

end

/-! ### The text is read as the same tree just if its tokens are kept apart -/

section

variable {limit depth : Nat} {operand : Bool} {position : Int}

theorem exists_reads_leaf_iff {kind : LeafKind} {text : String} {span : Span}
    {tokens : List Token} {rest : List Char} :
    (∃ tokens', Reads limit depth operand position (text.toList ++ rest) tokens' ∧
      Token.trees tokens' = Token.trees (.leaf kind text span :: tokens)) ↔
      Leads operand kind text.toList rest ∧
      ∃ tokens', Reads limit depth (kind = .operator) (position + text.toList.length) rest
        tokens' ∧ Token.trees tokens' = Token.trees tokens := by
  constructor
  · rintro ⟨tokens', hreads, htrees⟩
    obtain ⟨span', tokens', rfl, hrestTrees⟩ := Token.exists_leaf_of_trees htrees
    obtain ⟨blanks, rest', hwindow, hblanks, hlead, hrest⟩ := hreads.exists_leaf
    have hvisible {s : List Char} : ∀ c ∈ (text.toList ++ s).head?, isBlank c = false := by
      obtain ⟨c, t, htext, hc⟩ := hlead.spells.exists_cons
      simpa [htext] using hc.not_blank
    obtain ⟨rfl, htext⟩ := blanks_append_inj (List.forall_mem_nil _) hblanks hvisible hvisible
      ((List.nil_append _).trans hwindow)
    rw [List.append_cancel_left htext]
    exact ⟨hlead, tokens', by simpa using hrest, hrestTrees⟩
  · rintro ⟨hlead, tokens', hreads, htrees⟩
    refine ⟨_, .leaf hlead hreads, ?_⟩
    rw [Token.trees, Token.trees, htrees, String.ofList_toList]

theorem exists_reads_group_iff {children tokens : List Token} {span : Span}
    {inner rest : List Char} (hwritten : Written (some span.stop) tokens rest) :
    (∃ tokens', Reads limit depth operand position ('(' :: inner ++ ')' :: rest) tokens' ∧
      Token.trees tokens' = Token.trees (.group children span :: tokens)) ↔
      depth < limit ∧ ')' ∉ rest ∧
      (∃ children', Reads limit (depth + 1) true (position + 1) inner children' ∧
        Token.trees children' = Token.trees children) ∧
      ∃ tokens', Reads limit depth false (position + (inner.length + 2)) rest tokens' ∧
        Token.trees tokens' = Token.trees tokens := by
  constructor
  · rintro ⟨tokens', hreads, htrees⟩
    obtain ⟨children', span', tokens', rfl, hchildren, htrees⟩ :=
      Token.exists_group_of_trees htrees
    obtain ⟨blanks, inner', after, hwindow, hblanks, hdepth, hclose, hinner, hafter⟩ :=
      hreads.exists_group
    have hopening {s : List Char} : ∀ c ∈ ('(' :: s).head?, isBlank c = false := by
      simp only [List.head?_cons, Option.mem_some_iff]
      rintro _ rfl
      decide
    obtain ⟨rfl, hgroup⟩ := blanks_append_inj (List.forall_mem_nil _) hblanks hopening hopening
      ((List.nil_append _).trans hwindow)
    -- No group closes behind this one, as none does in the same tree that was read there.
    have hrest := hwritten.closing_not_mem ((hafter.flat hclose).of_trees htrees)
    obtain ⟨rfl, rfl⟩ := closing_append_inj hrest hclose (List.tail_eq_of_cons_eq hgroup)
    rw [List.length_nil, Int.natCast_zero, Int.add_zero] at hinner hafter
    exact ⟨hdepth, hclose, ⟨children', hinner, hchildren⟩, tokens', hafter, htrees⟩
  · rintro ⟨hdepth, hclose, ⟨children', hinner, hchildren⟩, tokens', hrest, htrees⟩
    refine ⟨_, .group hdepth hclose hinner hrest, ?_⟩
    rw [Token.trees, Token.trees, htrees, hchildren]

/-- A text in which tokens are written is read as the same tree just if they are kept apart. -/
theorem Written.exists_reads_iff {stop? : Option Int} {tokens : List Token} {window : List Char}
    (h : Written stop? tokens window) :
    (∃ tokens', Reads limit depth operand position window tokens' ∧
      Token.trees tokens' = Token.trees tokens) ↔ Separated limit depth operand tokens := by
  induction h generalizing depth operand position with
  | @nil _ blanks hblanks =>
      refine iff_of_true ⟨[], ?_, rfl⟩ .nil
      rw [← List.append_nil blanks, reads_blanks_iff hblanks]
      exact .nil
  | @leaf _ blanks kind text span tokens rest hblanks _ hrest ih =>
      simp only [reads_blanks_iff hblanks]
      rw [exists_reads_leaf_iff, ih, Separated.leaf_cons_iff,
        LeafKind.leads_iff span, and_assoc]
      refine and_congr_right fun _ => and_congr_left fun htokens => imp_congr_right fun _ => ?_
      have hdigit := not_congr (hrest.head_digit_iff htokens.separable)
      simpa only [not_exists, not_and, Bool.not_eq_true, not_not] using hdigit
  | @group _ blanks children span tokens inner rest hblanks _ _ hrest ihinner ih =>
      simp only [reads_blanks_iff hblanks]
      rw [exists_reads_group_iff hrest, Separated.group_cons_iff]
      constructor
      · rintro ⟨hdepth, hclose, hchildren, tokens', hreads, htrees⟩
        exact ⟨hdepth, ihinner.1 hchildren, ((hreads.flat hclose).of_trees htrees).kind_ne_group,
          ih.1 ⟨tokens', hreads, htrees⟩⟩
      · rintro ⟨hdepth, hchildren, hgroup, htokens⟩
        exact ⟨hdepth, hrest.closing_not_mem (htokens.separable.flat hgroup),
          ihinner.2 hchildren, ih.2 htokens⟩

end

/-- The tokens that are read from a window are kept apart. -/
theorem Reads.separated {limit depth : Nat} {operand : Bool} {position : Int}
    {window : List Char} {tokens : List Token}
    (h : Reads limit depth operand position window tokens) :
    Separated limit depth operand tokens := by
  have hwritten : Written none tokens ([] ++ window) := h.written (by simp) (by simp)
  exact hwritten.exists_reads_iff.1 ⟨tokens, h, rfl⟩

end FormulaLexer
