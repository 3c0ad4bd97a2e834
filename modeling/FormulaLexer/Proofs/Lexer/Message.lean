import FormulaLexer.Lexer.Error
import FormulaLexer.Proofs.Text.Decimal
import FormulaLexer.Proofs.Text.Lines
import FormulaLexer.Proofs.Text.Unquoted

/-!
Messages of errors. A message stands on one line, and it tells everything of its error.
-/

namespace FormulaLexer

open Text

/-! ### Control characters -/

/-- The control characters, and the two that separate lines and paragraphs. -/
def Text.controlRanges : Ranges := [(0, 0x1F), (0x7F, 0x9F), (0x2028, 0x2029)]

theorem Text.isControl_eq_false_of_isPrintable {c : Char} (h : isPrintable c) :
    controlRanges.has c = false := by
  -- No range of the one table meets a range of the other.
  have hapart : printableRanges.all fun range => controlRanges.all fun control =>
      range.2 < control.1 || control.2 < range.1 := by decide +kernel
  obtain ⟨range, hrange, hlow, hhigh⟩ := (Ranges.has_iff printableRanges c).1 h
  rw [Bool.eq_false_iff, ne_eq, Ranges.has_iff]
  rintro ⟨control, hcontrol, hlow', hhigh'⟩
  have hmeet := List.all_eq_true.1 (List.all_eq_true.1 hapart range hrange) control hcontrol
  rw [Bool.or_eq_true, decide_eq_true_eq, decide_eq_true_eq] at hmeet
  omega

/-! ### The parts of a message -/

theorem Reason.name_injective : Function.Injective Reason.name := by
  intro reason reason' h
  have hread := congrArg Reason.ofName? h
  rwa [Reason.ofName?_name, Reason.ofName?_name, Option.some_inj] at hread

theorem Reason.space_not_mem_name (reason : Reason) : ' ' ∉ reason.name.toList := by
  cases reason <;> decide

theorem Reason.isPrintable_of_mem_name {reason : Reason} {c : Char}
    (h : c ∈ reason.name.toList) : isPrintable c := by
  have hall : ∀ reason : Reason, reason.name.toList.all isPrintable := by
    intro reason
    cases reason <;> decide
  exact List.all_eq_true.1 (hall reason) c h

namespace LexError

/-- The text between the reason and the position. -/
def positionMark : List Char := "at position ".toList

theorem toList_message (error : LexError) :
    error.message.toList = error.reason.name.toList ++ ' ' :: (positionMark ++
      (decimal error.position ++ ':' :: ' ' :: quoted error.remaining.toList)) := by
  have hmark : " at position ".toList = ' ' :: positionMark := rfl
  have hcolon : ": ".toList = [':', ' '] := rfl
  show (error.reason.name ++ " at position " ++ toString error.position ++ ": " ++
    String.ofList (quoted error.remaining.toList)).toList = _
  simp only [String.toList_append, String.toList_ofList, hmark, hcolon, decimal,
    List.append_assoc, List.cons_append, List.nil_append]

theorem message_injective : Function.Injective message := by
  intro error error' h
  have hlist := congrArg String.toList h
  rw [toList_message, toList_message] at hlist
  obtain ⟨hreason, hrest⟩ := append_cons_inj error.reason.space_not_mem_name
    error'.reason.space_not_mem_name hlist
  have hcolon (n : Int) : ':' ∉ decimal n := not_mem_decimal (by decide) (by decide) n
  obtain ⟨hposition, hquoted⟩ := append_cons_inj (hcolon _) (hcolon _)
    (List.append_cancel_left hrest)
  have hremaining := quoted_injective (List.tail_eq_of_cons_eq hquoted)
  obtain ⟨position, remaining, reason⟩ := error
  obtain ⟨position', remaining', reason'⟩ := error'
  rw [mk.injEq]
  exact ⟨decimal_injective hposition, String.toList_inj.1 hremaining,
    Reason.name_injective (String.toList_inj.1 hreason)⟩

theorem isPrintable_of_mem_message {error : LexError} {c : Char}
    (h : c ∈ error.message.toList) : isPrintable c := by
  have hmark : positionMark.all isPrintable := by decide
  rw [toList_message] at h
  simp only [List.mem_append, List.mem_cons] at h
  rcases h with h | rfl | h | h | rfl | rfl | h
  · exact Reason.isPrintable_of_mem_name h
  · exact isPrintable_of_ascii (by decide) (by decide)
  · exact List.all_eq_true.1 hmark c h
  · exact isPrintable_of_mem_decimal h
  · exact isPrintable_of_ascii (by decide) (by decide)
  · exact isPrintable_of_ascii (by decide) (by decide)
  · exact isPrintable_of_mem_quoted h

/-- Errors with the same message are the same, and a message holds printable characters only: it
has no control character, and nothing in it ends its line. -/
theorem message_eq_iff_and_printable (error error' : LexError) :
    (error.message = error'.message ↔ error = error') ∧
      ∀ c ∈ error.message.toList, isPrintable c ∧ controlRanges.has c = false := by
  refine ⟨message_injective.eq_iff, fun c hc => ?_⟩
  have hprintable := isPrintable_of_mem_message hc
  exact ⟨hprintable, isControl_eq_false_of_isPrintable hprintable⟩

/-- One text ends in a line feed, and the other in the two characters that the line feed is
written as. -/
theorem message_eq_iff_and_printable_lineFeed :
    let error : LexError := ⟨-7, "'\n", .unrecognizedToken⟩
    let error' : LexError := ⟨-7, "'\\n", .unrecognizedToken⟩
    error.message = "unrecognized_token at position -7: \"'\\n\"" ∧
      error'.message = "unrecognized_token at position -7: \"'\\\\n\"" ∧
      error.message ≠ error'.message ∧
      '\\' ∈ error.message.toList ∧ isPrintable '\\' ∧ controlRanges.has '\\' = false := by
  intro error error'
  obtain ⟨hiff, hprintable⟩ := message_eq_iff_and_printable error error'
  have hmessage : error.message = "unrecognized_token at position -7: \"'\\n\"" := by decide
  have hmem : '\\' ∈ error.message.toList := by
    rw [hmessage]
    decide
  exact ⟨hmessage, by decide, fun heq => absurd (hiff.1 heq) (by decide), hmem,
    hprintable _ hmem⟩

end LexError

end FormulaLexer
