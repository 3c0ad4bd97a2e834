import FormulaLexer.Proofs.Lexer.Derivation
import FormulaLexer.Proofs.Text.Slice

/-!
What it means that tokens are laid over a text, said position by position and without the
order in which the lexer works. The lexer succeeds with just the tokens that are so laid.
-/

namespace FormulaLexer

open Text

/-- Whether an operand is expected behind some tokens of a list: behind an operator, and at
the start of the list if the flag tells so. -/
def Token.expectsOperand (operand : Bool) (before : List Token) : Bool :=
  match before.getLast? with
  | none => operand
  | some token => token.kind = .leaf .operator

theorem Token.expectsOperand_cons (operand : Bool) (token : Token) (before : List Token) :
    expectsOperand operand (token :: before) =
      expectsOperand (token.kind = .leaf .operator) before := by
  cases before with
  | nil => rfl
  | cons next before =>
      rw [expectsOperand, expectsOperand, List.getLast?_cons_cons]
      rfl

/-- One list of tokens is laid over the positions from `lo` up to `hi` of a text. -/
structure Laid (limit : Nat) (e : List Char) (depth : Nat) (operand : Bool) (lo hi : Int)
    (tokens : List Token) : Prop where
  inside : ∀ token ∈ tokens,
    lo ≤ token.span.start ∧ token.span.start < token.span.stop ∧ token.span.stop ≤ hi
  ordered : tokens.Pairwise fun token next => token.span.stop ≤ next.span.start
  /-- What no token covers is blank. -/
  gaps : ∀ i, lo ≤ i → i < hi →
    (∀ token ∈ tokens, i < token.span.start ∨ token.span.stop ≤ i) →
    ∃ c ∈ e[i.toNat]?, isBlank c
  leaves : ∀ before kind text span after, tokens = before ++ .leaf kind text span :: after →
    text.toList = slice e span.start span.stop ∧
      Leads (Token.expectsOperand operand before) kind text.toList (slice e span.stop hi)
  /-- A group goes up to the last closing parenthesis. -/
  groups : ∀ children span, .group children span ∈ tokens → depth < limit ∧
    slice e span.start span.stop = '(' :: slice e (span.start + 1) (span.stop - 1) ++ [')'] ∧
    ')' ∉ slice e span.stop hi

/-- Tokens are laid over the positions from `lo` up to `hi` of a text, and so are the children
of each group over what stands between its parentheses. -/
inductive Tokenization (limit : Nat) (e : List Char) :
    Nat → Bool → Int → Int → List Token → Prop
  | intro {depth operand lo hi tokens}
      (laid : Laid limit e depth operand lo hi tokens)
      (children : ∀ children span, .group children span ∈ tokens →
        Tokenization limit e (depth + 1) true (span.start + 1) (span.stop - 1) children) :
      Tokenization limit e depth operand lo hi tokens

namespace Laid

variable {limit depth : Nat} {e : List Char} {operand : Bool} {lo hi : Int}
  {token : Token} {tokens : List Token}

theorem nil (h : hi ≤ lo) : Laid limit e depth operand lo hi [] where
  inside := by simp
  ordered := .nil
  gaps := by omega
  leaves := by simp
  groups := by simp

theorem blank {c : Char} (hc : e[lo.toNat]? = some c) (hblank : isBlank c)
    (h : Laid limit e depth operand (lo + 1) hi tokens) :
    Laid limit e depth operand lo hi tokens where
  inside := by
    intro token htoken
    have := h.inside token htoken
    omega
  ordered := h.ordered
  gaps := by
    intro i hlo hhi hfree
    by_cases hi' : i = lo
    · subst hi'
      exact ⟨c, hc, hblank⟩
    · exact h.gaps i (by omega) hhi hfree
  leaves := h.leaves
  groups := h.groups

theorem cons (hstart : lo < token.span.stop) (hstop : token.span.stop ≤ hi)
    (hlo : token.span.start = lo)
    (hleaf : ∀ kind text span, token = .leaf kind text span →
      text.toList = slice e span.start span.stop ∧
        Leads operand kind text.toList (slice e span.stop hi))
    (hgroup : ∀ children span, token = .group children span → depth < limit ∧
      slice e span.start span.stop = '(' :: slice e (span.start + 1) (span.stop - 1) ++ [')'] ∧
      ')' ∉ slice e span.stop hi)
    (h : Laid limit e depth (token.kind = .leaf .operator) token.span.stop hi tokens) :
    Laid limit e depth operand lo hi (token :: tokens) where
  inside := by
    intro next hnext
    rcases List.mem_cons.1 hnext with rfl | hnext
    · omega
    · have := h.inside next hnext
      omega
  ordered := List.pairwise_cons.2 ⟨fun next hnext => (h.inside next hnext).1, h.ordered⟩
  gaps := by
    intro i _ hhi hfree
    have := hfree token List.mem_cons_self
    exact h.gaps i (by omega) hhi fun next hnext => hfree next (List.mem_cons_of_mem _ hnext)
  leaves := by
    intro before kind text span after hsplit
    rcases List.cons_eq_append_iff.1 hsplit with ⟨rfl, hhead⟩ | ⟨before', rfl, hrest⟩
    · cases hhead
      exact hleaf kind text span rfl
    · rw [Token.expectsOperand_cons]
      exact h.leaves before' kind text span after hrest
  groups := by
    intro children span hmem
    rcases List.mem_cons.1 hmem with heq | hmem
    · exact hgroup children span heq.symm
    · exact h.groups children span hmem

theorem of_cons (h : Laid limit e depth operand lo hi (token :: tokens)) :
    Laid limit e depth (token.kind = .leaf .operator) token.span.stop hi tokens where
  inside := by
    intro next hnext
    have := h.inside next (List.mem_cons_of_mem _ hnext)
    have := (List.pairwise_cons.1 h.ordered).1 next hnext
    omega
  ordered := (List.pairwise_cons.1 h.ordered).2
  gaps := by
    intro i hlo hhi hfree
    have := h.inside token List.mem_cons_self
    apply h.gaps i (by omega) hhi
    intro next hnext
    rcases List.mem_cons.1 hnext with rfl | hnext
    · exact .inr hlo
    · exact hfree next hnext
  leaves := by
    intro before kind text span after hsplit
    rw [← Token.expectsOperand_cons operand]
    exact h.leaves (token :: before) kind text span after (by rw [hsplit, List.cons_append])
  groups := fun children span hmem => h.groups children span (List.mem_cons_of_mem _ hmem)

/-- The first position may be left out where no token starts. -/
theorem of_lt (h : Laid limit e depth operand lo hi tokens)
    (hlt : ∀ token ∈ tokens, lo < token.span.start) :
    Laid limit e depth operand (lo + 1) hi tokens where
  inside := by
    intro token htoken
    have := h.inside token htoken
    have := hlt token htoken
    omega
  ordered := h.ordered
  gaps := fun i hlo => h.gaps i (by omega)
  leaves := h.leaves
  groups := h.groups

end Laid

/-! ### From tokens to a derivation -/

theorem Reads.leaf_of_span {limit depth : Nat} {operand : Bool} {kind : LeafKind} {text : String}
    {span : Span} {rest : List Char} {tokens : List Token}
    (hlead : Leads operand kind text.toList rest)
    (hspan : span.stop = span.start + text.toList.length)
    (hrest : Reads limit depth (kind = .operator) span.stop rest tokens) :
    Reads limit depth operand span.start (text.toList ++ rest)
      (.leaf kind text span :: tokens) := by
  obtain ⟨start, stop⟩ := span
  obtain rfl : stop = start + text.toList.length := hspan
  have := Reads.leaf hlead hrest
  rwa [String.ofList_toList] at this

theorem Reads.group_of_span {limit depth : Nat} {operand : Bool} {span : Span}
    {inner after : List Char} {children tokens : List Token}
    (hdepth : depth < limit) (hclose : ')' ∉ after)
    (hspan : span.stop = span.start + (inner.length + 2))
    (hinner : Reads limit (depth + 1) true (span.start + 1) inner children)
    (hafter : Reads limit depth false span.stop after tokens) :
    Reads limit depth operand span.start ('(' :: inner ++ ')' :: after)
      (.group children span :: tokens) := by
  obtain ⟨start, stop⟩ := span
  obtain rfl : stop = start + (inner.length + 2) := hspan
  exact .group hdepth hclose hinner hafter

namespace Tokenization

variable {limit depth : Nat} {e : List Char} {operand : Bool} {lo hi : Int}
  {tokens : List Token}

theorem laid (h : Tokenization limit e depth operand lo hi tokens) :
    Laid limit e depth operand lo hi tokens := by
  cases h with
  | intro laid children => exact laid

theorem children (h : Tokenization limit e depth operand lo hi tokens) {children : List Token}
    {span : Span} (hmem : .group children span ∈ tokens) :
    Tokenization limit e (depth + 1) true (span.start + 1) (span.stop - 1) children := by
  cases h with
  | intro laid hchildren => exact hchildren children span hmem

theorem of_cons {token : Token} (h : Tokenization limit e depth operand lo hi (token :: tokens)) :
    Tokenization limit e depth (token.kind = .leaf .operator) token.span.stop hi tokens :=
  .intro h.laid.of_cons fun _ _ hmem => h.children (List.mem_cons_of_mem _ hmem)

theorem of_lt (h : Tokenization limit e depth operand lo hi tokens)
    (hlt : ∀ token ∈ tokens, lo < token.span.start) :
    Tokenization limit e depth operand (lo + 1) hi tokens :=
  .intro (h.laid.of_lt hlt) fun _ _ hmem => h.children hmem

/-- Tokens that are laid over a window are read from it. -/
theorem reads (h : Tokenization limit e depth operand lo hi tokens) (hlo : 0 ≤ lo)
    (hle : lo ≤ hi) (hhi : hi ≤ e.length) :
    Reads limit depth operand lo (slice e lo hi) tokens := by
  -- By induction on the width of the window, over all nesting depths at once.
  induction hn : (hi - lo).toNat using Nat.strong_induction_on
    generalizing depth operand lo hi tokens with
  | _ n ih =>
  subst hn
  -- Where no token starts, the window starts with a blank.
  have hskip (hlt : lo < hi) (hstarts : ∀ token ∈ tokens, lo < token.span.start) :
      Reads limit depth operand lo (slice e lo hi) tokens := by
    obtain ⟨c, hc, hslice⟩ := slice_cons hlo hlt hhi
    obtain ⟨c', hc', hblank⟩ := h.laid.gaps lo (by omega) hlt fun token htoken =>
      .inl (hstarts token htoken)
    cases hc.symm.trans hc'
    rw [hslice]
    exact .blank hblank (ih _ (by omega) (h.of_lt hstarts) (by omega) (by omega) hhi rfl)
  cases tokens with
  | nil =>
      by_cases hlt : lo < hi
      · exact hskip hlt (by simp)
      · rw [slice_of_le (by omega)]
        exact .nil
  | cons token tokens =>
      obtain ⟨hstart, hnonempty, hstop⟩ := h.laid.inside token List.mem_cons_self
      by_cases heq : token.span.start = lo
      · subst heq
        have hrest := ih _ (by omega) h.of_cons (by omega) hstop hhi rfl
        have hle' := Int.le_of_lt hnonempty
        have hlength := length_slice hlo hle' (by omega : token.span.stop ≤ e.length)
        rw [← slice_append_slice hle' hstop]
        cases token with
        | leaf kind text span =>
            obtain ⟨htext, hlead⟩ := h.laid.leaves [] kind text span tokens rfl
            rw [Token.span, ← htext] at hlength ⊢
            have hkind : decide ((Token.leaf kind text span).kind = .leaf .operator) =
                decide (kind = .operator) := by simp [Token.kind]
            rw [hkind] at hrest
            exact .leaf_of_span hlead (by omega) hrest
        | group children span =>
            obtain ⟨hdepth, hslice, hclose⟩ := h.laid.groups children span List.mem_cons_self
            simp only [Token.span] at ih hlo hnonempty hstop hlength hrest ⊢
            rw [hslice, List.length_append, List.length_cons] at hlength
            simp only [List.length_singleton] at hlength
            have hchildren := ih _ (by omega) (h.children List.mem_cons_self) (by omega)
              (by omega) (by omega) rfl
            rw [hslice, List.append_assoc]
            exact .group_of_span hdepth hclose (by omega) hchildren hrest
      · refine hskip (by omega) fun next hnext => ?_
        rcases List.mem_cons.1 hnext with rfl | hnext
        · omega
        · have := (List.pairwise_cons.1 h.laid.ordered).1 next hnext
          omega

end Tokenization

/-! ### From a derivation to tokens -/

/-- Tokens that are read from a window are laid over it. -/
theorem Reads.tokenization {limit depth : Nat} {operand : Bool} {lo : Int} {window : List Char}
    {tokens : List Token} (h : Reads limit depth operand lo window tokens) {e : List Char}
    {hi : Int} (hlo : 0 ≤ lo) (hle : lo ≤ hi) (hhi : hi ≤ e.length)
    (hwindow : slice e lo hi = window) :
    Tokenization limit e depth operand lo hi tokens := by
  have hlength := length_slice hlo hle hhi
  rw [hwindow] at hlength
  induction h generalizing hi with
  | nil =>
      rw [List.length_nil] at hlength
      exact .intro (Laid.nil (by omega)) (by simp)
  | blank hblank _ ih =>
      rw [List.length_cons] at hlength
      obtain ⟨c, hc, hslice⟩ := slice_cons hlo (by omega) hhi
      cases hslice.symm.trans hwindow
      have htokens := ih (by omega) (by omega) hhi rfl (by omega)
      exact .intro (htokens.laid.blank hc hblank) fun _ _ hmem => htokens.children hmem
  | @leaf depth operand lo kind text rest tokens hlead _ ih =>
      obtain ⟨hle', htext, hrest⟩ := slice_eq_append hlo hle hhi hwindow
      rw [List.length_append] at hlength
      have htokens := ih (by omega) hle' hhi hrest (by omega)
      have hpos := List.length_pos_iff.2 hlead.ne_nil
      refine .intro (Laid.cons (by simp only [Token.span]; omega) hle' rfl ?_ (by simp) ?_) ?_
      · rintro _ _ _ ⟨rfl, rfl, rfl⟩
        rw [String.toList_ofList, htext, hrest]
        exact ⟨rfl, hlead⟩
      · simpa [Token.kind, Token.span] using htokens.laid
      · intro children span hmem
        rcases List.mem_cons.1 hmem with heq | hmem
        · cases heq
        · exact htokens.children hmem
  | @group depth operand lo inner after children tokens hdepth hclose _ _ ihinner ihafter =>
      -- The window is the group and what follows it.
      have hwindow' : slice e lo hi = ('(' :: inner ++ [')']) ++ after := by
        rw [hwindow, List.append_assoc, List.singleton_append]
      obtain ⟨hle', hgroup, hafter⟩ := slice_eq_append hlo hle hhi hwindow'
      have hwidth : (('(' :: inner ++ [')']).length : Int) = inner.length + 2 := by simp; omega
      rw [hwidth] at hle' hgroup hafter
      have hinner := slice_interior hlo (by omega) (by omega) hgroup
      rw [List.length_append, List.length_cons, List.length_cons] at hlength
      have htokens := ihafter (by omega) hle' hhi hafter (by omega)
      have hchildren := ihinner (by omega) (by omega) (by omega) hinner (by omega)
      refine .intro (Laid.cons (by simp only [Token.span]; omega) hle' rfl (by simp) ?_ ?_) ?_
      · rintro _ _ ⟨rfl, rfl⟩
        rw [hgroup, hinner, hafter]
        exact ⟨hdepth, rfl, hclose⟩
      · simpa [Token.kind, Token.span] using htokens.laid
      · intro children' span hmem
        rcases List.mem_cons.1 hmem with heq | hmem
        · cases heq
          exact hchildren
        · exact htokens.children hmem

theorem reads_iff_tokenization {limit depth : Nat} {operand : Bool} {lo hi : Int}
    {e : List Char} {tokens : List Token} (hlo : 0 ≤ lo) (hle : lo ≤ hi) (hhi : hi ≤ e.length) :
    Reads limit depth operand lo (slice e lo hi) tokens ↔
      Tokenization limit e depth operand lo hi tokens :=
  ⟨fun h => h.tokenization hlo hle hhi rfl, fun h => h.reads hlo hle hhi⟩

/-- The lexer succeeds with just the tokens that, moved back by the offset, are laid over the
expression. -/
theorem tokenize_eq_ok_iff (limit : DepthLimit) (offset : Int) (expression : String)
    (tokens : List Token) :
    tokenize limit offset expression = .ok tokens ↔
      Tokenization limit.value expression.toList 0 true 0 expression.length
        (Token.shift (-offset) tokens) := by
  rw [tokenize, lexWindow_eq_ok_iff, ← String.length_toList,
    ← reads_iff_tokenization (by omega) (by omega) (by omega), slice_full]
  constructor
  · intro h
    have := h.shift (-offset)
    rwa [Int.add_right_neg] at this
  · intro h
    have := h.shift offset
    rwa [Int.zero_add, Token.shift_shift, Int.add_left_neg, Token.shift_zero] at this

end FormulaLexer
