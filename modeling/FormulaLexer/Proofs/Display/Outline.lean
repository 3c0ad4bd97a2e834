import FormulaLexer.Display.Outline
import FormulaLexer.Proofs.Display.Report
import FormulaLexer.Proofs.Lexer.Derivation
import FormulaLexer.Proofs.Lexer.Acceptance
import FormulaLexer.Proofs.Text.Decimal
import FormulaLexer.Proofs.Token.Location

/-!
The lines of an outline. Each token has a line of its own, which shows what stands around it and
behind it, and everything that the token says of itself is read back from its line.
-/

namespace FormulaLexer

open Text

namespace Outline

/-! ### The line of a token -/

/-- The column below a group: a bar where the group has a later sibling. -/
def guide (group : Token.Place) : List Char :=
  if group.later.isEmpty then [' ', ' ', ' ', ' '] else ['│', ' ', ' ', ' ']

/-- The column in front of a token: a corner at the last of its siblings. -/
def mark (place : Token.Place) : List Char :=
  if place.later.isEmpty then ['└', '─', '─', ' '] else ['├', '─', '─', ' ']

/-- What a line says of its token: the kind, the text of a leaf, and the span. -/
def label : Token → List Char
  | .leaf kind text span => kind.name.toList ++ ' ' :: (text.toList ++ ' ' :: spanText span)
  | .group _ span => Kind.group.name.toList ++ ' ' :: spanText span

/-- The line of the token at a location. -/
def row (location : Token.Location) : List Char :=
  location.around.flatMap guide ++ (mark location.here ++ label location.here.token)

/-! ### The drawn lines -/

/-- What is drawn of a token behind the columns in front of it. -/
def plainLabel : Token → List Char
  | .leaf kind text span => (leafLabel kind text span).plain
  | .group _ span => (groupLabel span).plain

theorem branch_eq_mark (token : Token) (later : List Token) :
    branch later = mark ⟨token, later⟩ := by
  cases later <;> rfl

theorem stem_eq_guide (token : Token) (later : List Token) : stem later = guide ⟨token, later⟩ := by
  cases later <;> rfl

/-- By induction along the drawing, over all stems at once: what is drawn behind some stems is the
columns and the label of each token, in the order of the locations. -/
theorem linesBehind_eq (stems : List Char) (tokens : List Token) :
    linesBehind stems tokens = (Token.locations tokens).map fun location =>
      stems ++ (location.around.flatMap guide ++
        (mark location.here ++ plainLabel location.here.token)) := by
  fun_induction linesBehind stems tokens with
  | case1 => simp [Token.locations]
  | case2 stems kind text span rest ih =>
      rw [Token.locations, List.map_cons, ih, branch_eq_mark (.leaf kind text span)]
      simp [plainLabel]
  | case3 stems children span rest ihchildren ih =>
      rw [Token.locations, List.map_append, List.map_cons, List.map_map, ih, ihchildren,
        branch_eq_mark (.group children span), stem_eq_guide (.group children span)]
      simp [plainLabel, Token.Location.inside, Function.comp_def]

/-! ### Legible labels -/

/-- The text of a leaf is made of the characters that formulas have in leaves. -/
def Legible (token : Token) : Prop := ∀ text ∈ token.text?, ∀ c ∈ text.toList, isLeafChar c

theorem isPrintable_of_isLeafChar {c : Char} (h : isLeafChar c) : isPrintable c := by
  simp only [isLeafChar, Bool.or_eq_true] at h
  have hrange : 0x20 ≤ c.toNat ∧ c.toNat ≤ 0x7E := by grind
  exact isPrintable_of_ascii hrange.1 hrange.2

theorem isPrintable_of_mem_name (kind : Kind) {c : Char} (h : c ∈ kind.name.toList) :
    isPrintable c := by
  have hall : kind.name.toList.all isPrintable := by
    rcases kind with (_ | _ | _) | _ <;> decide
  exact List.all_eq_true.1 hall c h

theorem isPrintable_of_mem_spanText {span : Span} {c : Char} (h : c ∈ spanText span) :
    isPrintable c := by
  simp only [spanText, List.cons_append, List.mem_cons, List.mem_append, List.not_mem_nil,
    or_false] at h
  rcases h with rfl | (h | rfl | h) | rfl
  · exact isPrintable_of_ascii (by decide) (by decide)
  · exact isPrintable_of_mem_decimal h
  · exact isPrintable_of_ascii (by decide) (by decide)
  · exact isPrintable_of_mem_decimal h
  · exact isPrintable_of_ascii (by decide) (by decide)

theorem isPrintable_of_mem_label {token : Token} (hlegible : Legible token) {c : Char}
    (h : c ∈ label token) : isPrintable c := by
  have hspace : isPrintable ' ' := isPrintable_of_ascii (by decide) (by decide)
  cases token with
  | leaf kind text span =>
      simp only [label, List.mem_append, List.mem_cons] at h
      rcases h with h | rfl | h | rfl | h
      · exact isPrintable_of_mem_name (.leaf kind) h
      · exact hspace
      · exact isPrintable_of_isLeafChar (hlegible text rfl c h)
      · exact hspace
      · exact isPrintable_of_mem_spanText h
  | group children span =>
      simp only [label, List.mem_append, List.mem_cons] at h
      rcases h with h | rfl | h
      · exact isPrintable_of_mem_name .group h
      · exact hspace
      · exact isPrintable_of_mem_spanText h

/-- Nothing of a legible label is deleted. -/
theorem plainLabel_eq_label {token : Token} (hlegible : Legible token) :
    plainLabel token = label token := by
  have hshown : shown (label token) = label token := shown_eq_self fun c hc =>
    isDeleted_eq_false_of_isPrintable (isPrintable_of_mem_label hlegible hc)
  rw [← hshown]
  cases token with
  | leaf kind text span => simp [plainLabel, leafLabel, Styled.ofPieces, label, ← shown_append]
  | group children span => simp [plainLabel, groupLabel, Styled.ofPieces, label]

/-- The line of a token with a legible label is one line. -/
theorem lineFeed_not_mem_row {location : Token.Location}
    (hlegible : Legible location.here.token) : '\n' ∉ row location := by
  have hguide (group : Token.Place) : '\n' ∉ guide group := by
    rw [guide]
    split <;> decide
  have hmark : '\n' ∉ mark location.here := by
    rw [mark]
    split <;> decide
  have hlabel : '\n' ∉ label location.here.token := fun h =>
    ne_of_isPrintable (isPrintable_of_mem_label hlegible h) (by decide) rfl
  simp [row, hguide, hmark, hlabel]

theorem legible_of_mem_locations {limit depth : Nat} {operand : Bool} {position : Int}
    {window : List Char} {tokens : List Token}
    (h : Reads limit depth operand position window tokens) {location : Token.Location}
    (hlocation : location ∈ Token.locations tokens) : Legible location.here.token := by
  induction h generalizing location with
  | nil =>
      rw [Token.locations] at hlocation
      contradiction
  | blank _ _ ih => exact ih hlocation
  | leaf hlead _ ih =>
      rw [Token.locations, List.mem_cons] at hlocation
      rcases hlocation with rfl | hlocation
      · intro text htext c hc
        cases htext
        exact hlead.spells.isLeafChar c (by simpa using hc)
      · exact ih hlocation
  | group _ _ _ _ ihinner ihafter =>
      rw [Token.locations, List.cons_append, List.mem_cons, List.mem_append, List.mem_map]
        at hlocation
      rcases hlocation with rfl | ⟨inner, hinner, rfl⟩ | hlocation
      · intro text htext
        contradiction
      · have hlegible : Legible inner.here.token := ihinner hinner
        exact hlegible
      · exact ihafter hlocation

/-! ### Reading lines back -/

/-- Reads a span in brackets. -/
def readSpan? : List Char → Option Span
  | '[' :: s =>
    match splitOn ':' s with
    | [start, stop] => some ⟨ofDecimal start, ofDecimal stop.dropLast⟩
    | _ => none
  | _ => none

/-- Reads what a line says of a token that stands in `depth` groups. -/
def readLabel? (depth : Nat) (s : List Char) : Option Entry :=
  match splitOn ' ' s with
  | [name, span] => do
    return ⟨depth, ← Kind.ofName? (String.ofList name), none, ← readSpan? span⟩
  | [name, text, span] => do
    return ⟨depth, ← Kind.ofName? (String.ofList name), some (String.ofList text),
      ← readSpan? span⟩
  | _ => none

/-- Reads a line behind the columns of `depth` groups. -/
def readRow? (depth : Nat) : List Char → Option Entry
  | _ :: '─' :: '─' :: ' ' :: s => readLabel? depth s
  | _ :: _ :: _ :: _ :: s => readRow? (depth + 1) s
  | _ => none

theorem readSpan?_spanText (span : Span) : readSpan? (spanText span) = some span := by
  have hcolon (n : Int) : ':' ∉ decimal n := not_mem_decimal (by decide) (by decide) n
  have hstop : ':' ∉ decimal span.stop ++ [']'] := by simp [hcolon]
  have hsplit : splitOn ':' (decimal span.start ++ ':' :: (decimal span.stop ++ [']'])) =
      [decimal span.start, decimal span.stop ++ [']']] := by
    rw [splitOn_append (hcolon _), splitOn_of_not_mem hstop]
  simp [spanText, readSpan?, hsplit, ofDecimal_decimal]

theorem space_not_mem_name (kind : Kind) : ' ' ∉ kind.name.toList := by
  rcases kind with (_ | _ | _) | _ <;> decide

theorem space_not_mem_spanText (span : Span) : ' ' ∉ spanText span := by
  have hspace (n : Int) : ' ' ∉ decimal n := not_mem_decimal (by decide) (by decide) n
  simp [spanText, hspace]

theorem readLabel?_label (depth : Nat) {token : Token} (hlegible : Legible token) :
    readLabel? depth (label token) = some ⟨depth, token.kind, token.text?, token.span⟩ := by
  cases token with
  | leaf kind text span =>
      have htext : ' ' ∉ text.toList := fun h => absurd (hlegible text rfl _ h) (by decide)
      have hsplit : splitOn ' ' (label (.leaf kind text span)) =
          [(Kind.leaf kind).name.toList, text.toList, spanText span] := by
        rw [label, ← Kind.name, splitOn_append (space_not_mem_name (.leaf kind)),
          splitOn_append htext, splitOn_of_not_mem (space_not_mem_spanText span)]
      simp only [readLabel?, hsplit, String.ofList_toList, Kind.ofName?_name, readSpan?_spanText]
      rfl
  | group children span =>
      have hsplit : splitOn ' ' (label (.group children span)) =
          [Kind.group.name.toList, spanText span] := by
        rw [label, splitOn_append (space_not_mem_name .group),
          splitOn_of_not_mem (space_not_mem_spanText span)]
      simp only [readLabel?, hsplit, String.ofList_toList, Kind.ofName?_name, readSpan?_spanText]
      rfl

theorem readRow?_guides (depth : Nat) (groups : List Token.Place) (s : List Char) :
    readRow? depth (groups.flatMap guide ++ s) = readRow? (depth + groups.length) s := by
  induction groups generalizing depth with
  | nil => rfl
  | cons group groups ih =>
      have hguide (rest : List Char) : readRow? depth (guide group ++ rest) =
          readRow? (depth + 1) rest := by
        rw [guide]
        split <;> rfl
      rw [List.flatMap_cons, List.append_assoc, hguide, ih, List.length_cons, Nat.add_assoc,
        Nat.add_comm 1]

/-- What a token says of itself is read back from its line. -/
theorem readRow?_row {location : Token.Location} (hlegible : Legible location.here.token) :
    readRow? 0 (row location) = some (location.entry 0) := by
  have hmark (depth : Nat) (s : List Char) :
      readRow? depth (mark location.here ++ s) = readLabel? depth s := by
    rw [mark]
    split <;> rfl
  rw [row, readRow?_guides, hmark, readLabel?_label _ hlegible]
  rfl

/-! ### The whole outline -/

theorem mem_joinTabbed {c : Char} {column : Nat} {parts : List (List Char)}
    (h : c ∈ joinTabbed column parts) : c = ' ' ∨ ∃ part ∈ parts, c ∈ part := by
  fun_induction joinTabbed column parts with
  | case1 => contradiction
  | case2 column part => exact .inr ⟨part, List.mem_cons_self, h⟩
  | case3 column part parts _ _ _ ih =>
      simp only [List.mem_append, List.mem_cons, List.mem_replicate] at h
      rcases h with (h | h | ⟨-, h⟩) | h
      · exact .inr ⟨part, List.mem_cons_self, h⟩
      · exact .inl h
      · exact .inl h
      · exact (ih h).imp_right fun ⟨part, hpart, hc⟩ => ⟨part, List.mem_cons_of_mem _ hpart, hc⟩

/-- Where tabs are expanded, only spaces are put in. -/
theorem mem_expandTabs {c : Char} {line : List Char} (h : c ∈ expandTabs line) :
    c = ' ' ∨ c ∈ line :=
  (mem_joinTabbed h).imp_right fun ⟨_, hpart, hc⟩ => mem_of_mem_splitOn hc hpart

/-- Behind the lines of the title there is the line of each token that was read, and no line is
broken by what it shows. -/
theorem exists_draw_eq {limit depth : Nat} {operand : Bool} {position : Int}
    {window : List Char} {tokens : List Token}
    (h : Reads limit depth operand position window tokens) (title : String) :
    ∃ titleLines, draw title tokens = titleLines ++ (Token.locations tokens).map row ∧
      ∀ line ∈ draw title tokens, '\n' ∉ line := by
  have hrows : linesBehind [] tokens = (Token.locations tokens).map row := by
    rw [linesBehind_eq]
    refine List.map_congr_left fun location hlocation => ?_
    rw [List.nil_append, plainLabel_eq_label (legible_of_mem_locations h hlocation), row]
  refine ⟨(lines (rootLabel title).plain).map expandTabs, by rw [draw, hrows],
    fun line hline => ?_⟩
  rw [draw, hrows, List.mem_append, List.mem_map, List.mem_map] at hline
  rcases hline with ⟨titleLine, htitle, rfl⟩ | ⟨location, hlocation, rfl⟩
  · intro hfeed
    rcases mem_expandTabs hfeed with hspace | hfeed
    · exact absurd hspace (by decide)
    · exact not_mem_of_mem_splitOn htitle hfeed
  · exact lineFeed_not_mem_row (legible_of_mem_locations h hlocation)

/-- From the lines of tokens that were read, what each token says of itself is read back. -/
theorem map_readRow?_rows {limit depth : Nat} {operand : Bool} {position : Int}
    {window : List Char} {tokens : List Token}
    (h : Reads limit depth operand position window tokens) :
    ((Token.locations tokens).map row).map (readRow? 0) = (Token.entries 0 tokens).map some := by
  rw [← Token.map_entry_locations, List.map_map, List.map_map]
  exact List.map_congr_left fun location hlocation =>
    readRow?_row (legible_of_mem_locations h hlocation)

end Outline

end FormulaLexer
