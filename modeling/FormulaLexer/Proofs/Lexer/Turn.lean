import FormulaLexer.Lexer.Steps
import FormulaLexer.Proofs.Lexer.Isolation

/-!
One turn of a call of the lexer. Where the bounds of a call lie in the text, the end of the blanks
is found, and what the turn comes to lies between the bounds as well. Each turn is one round of
lexing in place.
-/

namespace FormulaLexer

open Text

/-! ### The end of the blanks -/

section

variable {s : List Char} {start stop : Nat}

theorem Text.skipBlanks_le (hle : start ≤ stop) : skipBlanks s start stop ≤ stop := by
  fun_induction skipBlanks s start stop with
  | case1 start h ih => exact ih h.1
  | case2 start _ => exact hle

theorem Text.skipBlanks_skipBlanks :
    skipBlanks s (skipBlanks s start stop) stop = skipBlanks s start stop := by
  fun_induction skipBlanks s start stop with
  | case1 start _ ih => exact ih
  | case2 start h => rw [skipBlanks, if_neg h]

/-- Blanks are skipped up to a character that is not blank. -/
theorem exists_slice_skipBlanks (hstop : stop ≤ s.length)
    (hlt : skipBlanks s start stop < stop) :
    ∃ c rest, slice s (skipBlanks s start stop) stop = c :: rest ∧ isBlank c = false := by
  fun_induction skipBlanks s start stop with
  | case1 start _ ih => exact ih hlt
  | case2 start h =>
      obtain ⟨c, hc, hslice⟩ := slice_cons (Int.natCast_nonneg start) (Int.ofNat_lt.2 hlt)
        (Int.ofNat_le.2 hstop)
      rw [Int.toNat_natCast] at hc
      refine ⟨c, _, hslice, ?_⟩
      simpa [hlt, hc] using h

theorem blanksEnd?_eq (hle : start ≤ stop) (hstop : stop ≤ s.length) :
    blanksEnd? s start stop = some ↑(skipBlanks s start stop) := by
  rw [blanksEnd?, Int.toNat_natCast, Int.toNat_natCast, Nat.min_eq_left (hle.trans hstop),
    Nat.min_eq_left hstop]
  exact if_pos hle

theorem lexInPlace_skipBlanks {limit depth : Nat} {offset : Int} {before : List Token} :
    lexInPlace limit s depth offset before (skipBlanks s start stop) stop =
      lexInPlace limit s depth offset before start stop := by
  rw [lexInPlace, skipBlanks_skipBlanks, ← lexInPlace]

end

/-! ### Calls in their bounds -/

namespace LexCall

/-- What is left for a call lies in a text of the given length. -/
structure InBounds (limit length : Nat) (call : LexCall) : Prop where
  depth_le : call.depth ≤ limit
  start_nonneg : 0 ≤ call.start
  start_le : call.start ≤ call.stop
  stop_le : call.stop ≤ length

/-- The result of a call and of all calls that it makes. -/
def result (limit : Nat) (s : List Char) (offset : Int) (call : LexCall) :
    Except LexError (List Token) :=
  lexInPlace limit s call.depth offset call.before call.start.toNat call.stop.toNat

/-- A call comes to a character that is not blank. -/
structure Meets (s : List Char) (call : LexCall) (here : Int) : Prop where
  start_le : call.start ≤ here
  lt_stop : here < call.stop
  not_blank : ∃ c ∈ s[here.toNat]?, isBlank c = false

/-- What a turn of a call may come to, and what it leaves of the result of the call. -/
inductive Takes (limit : Nat) (s : List Char) (offset : Int) (call : LexCall) : LexTurn → Prop
  | ended (hresult : call.result limit s offset = .ok call.before) :
      Takes limit s offset call .ended
  | failed {error here} (hmeets : call.Meets s here)
      (hresult : call.result limit s offset = .error error) :
      Takes limit s offset call (.failed error)
  | leaf {kind text span here behind} (hmeets : call.Meets s here) (hlt : here < behind)
      (hle : behind ≤ call.stop)
      (hresult : call.result limit s offset =
        (call.read (.leaf kind text span) behind).result limit s offset) :
      Takes limit s offset call (.leaf (.leaf kind text span) behind)
  | group {start stop} (hmeets : call.Meets s start) (hdepth : call.depth < limit)
      (hwidth : start + 2 ≤ stop) (hle : stop ≤ call.stop)
      (hresult : call.result limit s offset = (do
        let children ← (OpenGroup.inside ⟨call, start, stop⟩).result limit s offset
        (OpenGroup.close offset children ⟨call, start, stop⟩).result limit s offset)) :
      Takes limit s offset call (.group start stop)

/-- Behind the blanks, a call that ends at `stop` comes to `here` and goes on there in place. -/
structure Skips (limit : Nat) (s : List Char) (offset : Int) (call : LexCall)
    (here stop : Nat) : Prop where
  stop_eq : call.stop = stop
  stop_le : stop ≤ s.length
  start_le : call.start ≤ here
  here_le : here ≤ stop
  end_eq : blanksEnd? s call.start call.stop = some ↑here
  exists_cons : here < stop → ∃ c rest, slice s here stop = c :: rest ∧ isBlank c = false
  result_eq : call.result limit s offset =
    lexInPlace limit s call.depth offset call.before here stop

theorem InBounds.exists_skips {limit : Nat} {s : List Char} {call : LexCall}
    (h : call.InBounds limit s.length) (offset : Int) :
    ∃ here stop, call.Skips limit s offset here stop := by
  obtain ⟨-, hnonneg, hle, hstop⟩ := h
  obtain ⟨start, hstart_eq⟩ := Int.eq_ofNat_of_zero_le hnonneg
  obtain ⟨stop, hstop_eq⟩ := Int.eq_ofNat_of_zero_le (hnonneg.trans hle)
  rw [hstart_eq, hstop_eq] at hle
  rw [hstop_eq] at hstop
  have hle : start ≤ stop := Int.ofNat_le.1 hle
  have hstop : stop ≤ s.length := Int.ofNat_le.1 hstop
  refine ⟨skipBlanks s start stop, stop, hstop_eq, hstop, ?_, skipBlanks_le hle, ?_,
    exists_slice_skipBlanks hstop, ?_⟩
  · rw [hstart_eq]
    exact Int.ofNat_le.2 (le_skipBlanks s start stop)
  · rw [hstart_eq, hstop_eq, blanksEnd?_eq hle hstop]
  · rw [result, hstart_eq, hstop_eq, Int.toNat_natCast, Int.toNat_natCast, lexInPlace_skipBlanks]

end LexCall

/-- What stands between the parentheses of a group is read in place. -/
theorem OpenGroup.result_inside {limit here width : Nat} {s : List Char} {offset : Int}
    {group : OpenGroup} (hstart : group.start = here) (hstop : group.stop = here + ↑(width + 2)) :
    group.inside.result limit s offset =
      lexInPlace limit s (group.caller.depth + 1) offset [] (here + 1) (here + (width + 1)) := by
  have hfirst : (group.start + 1).toNat = here + 1 := by omega
  have hlast : (group.stop - 1).toNat = here + (width + 1) := by omega
  rw [inside, LexCall.result, hfirst, hlast]

namespace LexCall

namespace Skips

variable {limit here stop : Nat} {s : List Char} {offset : Int} {call : LexCall}

theorem meets {c : Char} {rest : List Char} (h : call.Skips limit s offset here stop)
    (hslice : slice s here stop = c :: rest) (hblank : isBlank c = false) :
    call.Meets s here := by
  obtain ⟨hlt, hc, -⟩ := of_slice_eq_cons hslice
  refine ⟨h.start_le, ?_, c, hc, hblank⟩
  rw [h.stop_eq]
  exact Int.ofNat_lt.2 hlt

theorem remaining_eq (h : call.Skips limit s offset here stop) :
    call.remaining s here = String.ofList (slice s here stop) := by
  rw [remaining, h.stop_eq, slice]

theorem turn_eq (h : call.Skips limit s offset here stop) (hlt : here < stop) :
    call.turn limit s offset = call.turnAt limit s offset here
      (Lexeme.first? (Token.expectsOperand true call.before) (slice s here stop)) := by
  rw [turn, h.end_eq]
  simp only [h.stop_eq, if_pos (Int.ofNat_lt.2 hlt), Int.toNat_natCast,
    getLast?_all_eq_expectsOperand, between?_eq]

/-- Behind a token the call goes on in place. -/
theorem result_read (h : call.Skips limit s offset here stop) (token : Token) (width : Nat) :
    (call.read token (here + width)).result limit s offset =
      lexInPlace limit s call.depth offset (call.before ++ [token]) (here + width) stop := by
  rw [read, result, h.stop_eq, ← Int.natCast_add, Int.toNat_natCast, Int.toNat_natCast]

theorem takes_ended (h : call.Skips limit s offset here stop) (hle : stop ≤ here) :
    call.Takes limit s offset (call.turn limit s offset) := by
  have hturn : call.turn limit s offset = .ended := by
    rw [turn, h.end_eq]
    simp only [h.stop_eq, if_neg (Int.not_lt.2 (Int.ofNat_le.2 hle))]
  rw [hturn]
  apply Takes.ended
  rw [h.result_eq, lexInPlace_of_le hle]

theorem takes_none {c : Char} {rest : List Char} (h : call.Skips limit s offset here stop)
    (hslice : slice s here stop = c :: rest) (hblank : isBlank c = false)
    (hnone : Lexeme.first? (Token.expectsOperand true call.before) (c :: rest) = none) :
    call.Takes limit s offset (call.turn limit s offset) := by
  obtain ⟨hlt, hc, -⟩ := of_slice_eq_cons hslice
  rw [h.turn_eq hlt, hslice, hnone]
  apply Takes.failed (h.meets hslice hblank)
  rw [h.result_eq, lexInPlace_none hslice hblank hnone, h.remaining_eq, hslice,
    Int.toNat_natCast, hc]
  simp only [Option.some.injEq]

theorem takes_leaf {kind : LeafKind} {text rest : List Char}
    (h : call.Skips limit s offset here stop) (hslice : slice s here stop = text ++ rest)
    (hlead : Leads (Token.expectsOperand true call.before) kind text rest) :
    call.Takes limit s offset (call.turn limit s offset) := by
  obtain ⟨c, t, htext, hc⟩ := hlead.spells.exists_cons
  have hcons : slice s here stop = c :: (t ++ rest) := by rw [hslice, htext, List.cons_append]
  have hpos := List.length_pos_iff.2 hlead.ne_nil
  obtain ⟨hbehind, -, -⟩ := of_slice_eq_append h.here_le h.stop_le hslice
  obtain ⟨hlt, -, -⟩ := of_slice_eq_cons hcons
  rw [h.turn_eq hlt, hslice, Lexeme.first?_leaf hlead]
  simp only [turnAt, LeafKind.leafKind?_shape]
  refine .leaf (h.meets hcons hc.not_blank) (by omega) ?_ ?_
  · rw [h.stop_eq]
    exact Int.ofNat_le.2 hbehind
  · rw [h.result_read, h.result_eq, lexInPlace_leaf hslice hlead,
      Int.add_right_comm here text.length]

/-- What stands between the parentheses is read in place by a call of its own. -/
theorem takes_group {inner after : List Char} (h : call.Skips limit s offset here stop)
    (hslice : slice s here stop = '(' :: inner ++ ')' :: after) (hclose : ')' ∉ after) :
    call.Takes limit s offset (call.turn limit s offset) := by
  have hcons : slice s here stop = '(' :: (inner ++ ')' :: after) := hslice
  have hmeets := h.meets hcons (by decide)
  have hwidth : ('(' :: inner ++ [')']).length = inner.length + 2 := by simp
  obtain ⟨hlt, -, -⟩ := of_slice_eq_cons hcons
  rw [h.turn_eq hlt, hslice, Lexeme.first?_group hclose]
  simp only [turnAt, Shape.leafKind?, hwidth]
  by_cases hdepth : limit ≤ call.depth
  · rw [if_pos hdepth]
    apply Takes.failed hmeets
    rw [h.result_eq, lexInPlace_tooDeep hdepth hcons (by simp), h.remaining_eq, hcons]
  · rw [if_neg hdepth]
    have hdepth : call.depth < limit := Nat.lt_of_not_le hdepth
    obtain ⟨hbehind, -, -⟩ := of_slice_eq_enclosed h.stop_le hslice
    let group : OpenGroup := ⟨call, here, here + ↑(inner.length + 2)⟩
    have hinside : group.inside.result limit s offset =
        lexInPlace limit s (call.depth + 1) offset [] (here + 1) (here + (inner.length + 1)) :=
      group.result_inside rfl rfl
    have hclosed (children : List Token) : (group.close offset children).result limit s offset =
        lexInPlace limit s call.depth offset
          (call.before ++ [.group children ⟨here + offset, here + offset + (inner.length + 2)⟩])
          (here + (inner.length + 2)) stop := by
      rw [OpenGroup.close, h.result_read, Int.add_right_comm here, Int.natCast_add]
      rfl
    refine .group hmeets hdepth (by omega) ?_ ?_
    · rw [h.stop_eq]
      exact Int.ofNat_le.2 hbehind
    · show _ = group.inside.result limit s offset >>= fun children =>
        (group.close offset children).result limit s offset
      simp only [hinside, hclosed]
      rw [h.result_eq, lexInPlace_group hdepth hslice hclose]

end Skips

/-- What a turn may come to in a call whose bounds lie in the text. -/
theorem InBounds.takes {limit : Nat} {s : List Char} {call : LexCall}
    (h : call.InBounds limit s.length) (offset : Int) :
    call.Takes limit s offset (call.turn limit s offset) := by
  obtain ⟨here, stop, hskips⟩ := h.exists_skips offset
  by_cases hend : stop ≤ here
  · exact hskips.takes_ended hend
  · obtain ⟨c, rest, hslice, hblank⟩ := hskips.exists_cons (Nat.lt_of_not_le hend)
    rcases window_cases (Token.expectsOperand true call.before) c rest with hc |
      ⟨kind, text, after, hs, hlead⟩ | ⟨inner, after, hs, hclose⟩ | ⟨rfl, hclose⟩ |
      ⟨-, -, hnone⟩
    · rw [hblank] at hc
      contradiction
    · rw [hs] at hslice
      exact hskips.takes_leaf hslice hlead
    · rw [hs] at hslice
      exact hskips.takes_group hslice hclose
    · exact hskips.takes_none hslice hblank (Lexeme.first?_unclosed hclose)
    · exact hskips.takes_none hslice hblank hnone

end LexCall

end FormulaLexer
