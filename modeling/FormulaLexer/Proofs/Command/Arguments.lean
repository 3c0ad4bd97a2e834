import FormulaLexer.Command.Basic
import FormulaLexer.Proofs.Text.Numeral

/-!
Arguments that call a command. Whatever the expression and the options are, and whatever the
limit is, there are arguments that are read as the command with them.
-/

namespace FormulaLexer

/-! ### Reading options -/

namespace OptionTable

variable {α : Type} {table : OptionTable α} {mayFollow : Bool} {argument : String}
  {rest : List String} {arguments : Arguments α}

theorem readFrom_chosen {choices : List α}
    (hargument : table.readArgument argument = .ok (.chosen choices))
    (hrest : table.readFrom mayFollow none rest = .ok arguments) :
    table.readFrom mayFollow none (argument :: rest) =
      .ok ⟨choices ++ arguments.choices, arguments.operands⟩ := by
  rw [readFrom, hargument]
  simp [bind, Except.bind, hrest, pure, Except.pure]

theorem readFrom_awaiting {name value : String} {choice : String → α}
    (hargument : table.readArgument argument = .ok (.awaiting name choice))
    (hrest : table.readFrom mayFollow none rest = .ok arguments) :
    table.readFrom mayFollow none (argument :: value :: rest) =
      .ok ⟨choice value :: arguments.choices, arguments.operands⟩ := by
  rw [readFrom, hargument]
  simp [bind, Except.bind, readFrom, hrest, pure, Except.pure]

/-- What does not start with a dash is an operand. -/
theorem readArgument_of_head (h : ∀ c ∈ argument.toList.head?, c ≠ '-') :
    table.readArgument argument = .ok (.operand argument) := by
  rw [readArgument]
  cases hs : argument.toList with
  | nil => rfl
  | cons c rest =>
      rw [hs] at h
      have hc := h c rfl
      simp [hc]

/-- Where options do not follow operands, all is left from the first operand on. -/
theorem readFrom_operand {text : String}
    (hargument : table.readArgument argument = .ok (.operand text)) :
    table.readFrom false none (argument :: rest) = .ok ⟨[], text :: rest⟩ := by
  rw [readFrom, hargument]
  rfl

theorem readFrom_operand_of_mayFollow {text : String}
    (hargument : table.readArgument argument = .ok (.operand text))
    (hrest : table.readFrom true none rest = .ok arguments) :
    table.readFrom true none (argument :: rest) =
      .ok ⟨arguments.choices, text :: arguments.operands⟩ := by
  rw [readFrom, hargument]
  simp [bind, Except.bind, hrest, pure, Except.pure]

/-- Behind the mark for the end of the options there are only operands. -/
theorem readFrom_endOfOptions (operands : List String) :
    table.readFrom mayFollow none ("--" :: operands) = .ok ⟨[], operands⟩ := by
  have hmark : table.readArgument "--" = .ok .endOfOptions := rfl
  rw [readFrom, hmark]
  rfl

end OptionTable

namespace TokenizeChoice

/-- The arguments that make a choice. -/
def arguments : TokenizeChoice → List String
  | json => ["--json"]
  | maxDepth value => ["--max-depth", value]
  | verbose => ["--verbose"]
  | help => ["--help"]

/-- The arguments of choices are read as the choices. -/
theorem readFrom_arguments (choices : List TokenizeChoice) (operands : List String) :
    Command.tokenizeTable.readFrom true none (choices.flatMap arguments ++ "--" :: operands) =
      .ok ⟨choices, operands⟩ := by
  have hjson : Command.tokenizeTable.readArgument "--json" = .ok (.chosen [json]) := rfl
  have hverbose : Command.tokenizeTable.readArgument "--verbose" = .ok (.chosen [verbose]) := rfl
  have hhelp : Command.tokenizeTable.readArgument "--help" = .ok (.chosen [help]) := rfl
  induction choices with
  | nil => exact OptionTable.readFrom_endOfOptions operands
  | cons choice choices ih =>
      rw [List.flatMap_cons, List.append_assoc]
      cases choice with
      | json => exact OptionTable.readFrom_chosen hjson ih
      | maxDepth value => exact OptionTable.readFrom_awaiting rfl ih
      | verbose => exact OptionTable.readFrom_chosen hverbose ih
      | help => exact OptionTable.readFrom_chosen hhelp ih

end TokenizeChoice

namespace TokenizeOptions

def choices (options : TokenizeOptions) : List TokenizeChoice :=
  (if options.asJson then [.json] else []) ++
    (options.limit?.map fun limit => .maxDepth (toString limit.value)).toList ++
      if options.isVerbose then [.verbose] else []

variable (options : TokenizeOptions)

theorem json_mem_choices : .json ∈ options.choices ↔ options.asJson := by
  simp [choices]

theorem verbose_mem_choices : .verbose ∈ options.choices ↔ options.isVerbose := by
  simp [choices]

theorem help_not_mem_choices : .help ∉ options.choices := by
  simp [choices]

theorem lastMaxDepth?_choices : TokenizeChoice.lastMaxDepth? options.choices =
    options.limit?.map fun limit => toString limit.value := by
  obtain ⟨asJson, limit?, isVerbose⟩ := options
  cases asJson <;> cases limit? <;> cases isVerbose <;> rfl

end TokenizeOptions

namespace Command

/-! ### Reading commands -/

theorem integerOf_toString (limit : DepthLimit) :
    integerOf (toString limit.value) = .ok limit.value := by
  rw [integerOf, Text.Numeral.read_toString limit.length_toString_le]

/-- The decimal form of a limit is read as that limit. -/
theorem limitOf_toString (limit : DepthLimit) : limitOf (toString limit.value) = .ok limit := by
  rw [limitOf, integerOf_toString]
  simp [bind, Except.bind, pure, Except.pure]

/-- The arguments that call for the tokens of an expression. -/
def tokenizeArguments (expression : String) (options : TokenizeOptions) : List String :=
  "tokenize" :: options.choices.flatMap TokenizeChoice.arguments ++ ["--", expression]

theorem readTokenize_arguments (expression : String) (options : TokenizeOptions) :
    readTokenize (options.choices.flatMap TokenizeChoice.arguments ++ ["--", expression]) =
      .ok (.tokenize expression options) := by
  have hread := TokenizeChoice.readFrom_arguments options.choices [expression]
  obtain ⟨asJson, limit?, isVerbose⟩ := options
  simp only [readTokenize, OptionTable.read, hread, bind, Except.bind, pure, Except.pure,
    TokenizeOptions.help_not_mem_choices, if_false, TokenizeOptions.lastMaxDepth?_choices,
    theOperand, TokenizeOptions.json_mem_choices, TokenizeOptions.verbose_mem_choices,
    Bool.decide_eq_true]
  cases limit? with
  | none => rfl
  | some limit => simp only [Option.map_some, limitOf_toString, Functor.map, Except.map]

/-- Where no help is asked for, the command reads what the options leave. -/
theorem withHelp_of_read {mayFollow : Bool} {arguments operands : List String}
    {command : List String → Except UsageError Command}
    (h : helpTable.readFrom mayFollow none arguments = .ok ⟨[], operands⟩) :
    withHelp mayFollow arguments command = command operands := by
  simp [withHelp, OptionTable.read, h, bind, Except.bind]

theorem ofArguments_tokenizeArguments (expression : String) (options : TokenizeOptions) :
    ofArguments (tokenizeArguments expression options) = .ok (.tokenize expression options) := by
  have hname : helpTable.readArgument "tokenize" = .ok (.operand "tokenize") := rfl
  rw [ofArguments, tokenizeArguments, List.cons_append,
    withHelp_of_read (OptionTable.readFrom_operand hname)]
  exact readTokenize_arguments expression options

theorem readSetMaxDepth_limit (limit : DepthLimit) :
    readSetMaxDepth [toString limit.value] = .ok (.setMaxDepth limit.value) := by
  have hdash : ∀ c ∈ (toString limit.value).toList.head?, c ≠ '-' := fun c hc =>
    Text.ne_of_isDigit (Text.isDigit_of_mem_toString (List.mem_of_mem_head? hc)) (by decide)
  have hnil : helpTable.readFrom true none [] = .ok ⟨[], []⟩ := rfl
  have hread := OptionTable.readFrom_operand_of_mayFollow
    (OptionTable.readArgument_of_head hdash) hnil
  rw [readSetMaxDepth, withHelp_of_read hread]
  simp only [theOperand, integerOf_toString, bind, Except.bind, pure, Except.pure]

theorem ofArguments_setMaxDepth (limit : DepthLimit) :
    ofArguments ["config", "set-max-depth", toString limit.value] =
      .ok (.setMaxDepth limit.value) := by
  have hconfig : helpTable.readArgument "config" = .ok (.operand "config") := rfl
  have hname : helpTable.readArgument "set-max-depth" = .ok (.operand "set-max-depth") := rfl
  rw [ofArguments, withHelp_of_read (OptionTable.readFrom_operand hconfig)]
  simp only [readConfig]
  rw [withHelp_of_read (OptionTable.readFrom_operand hname)]
  exact readSetMaxDepth_limit limit

end Command

end FormulaLexer
