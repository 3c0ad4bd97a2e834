import FormulaLexer.Proofs.Command.Limit

/-!
Calls in any state of the store. Settings that cannot be read are to count as none, and a limit
that cannot be written is to be reported. Two states of the store get past both: a file that holds
no text, and a file in the place of the directory.
-/

namespace FormulaLexer

/-! ### Settings that count as none -/

/-- The settings have a value for the limit, and it is a limit. -/
def Settings.GivesLimit (settings : Settings) : Prop :=
  ∃ value n limit, settings.get? maxDepthKey = some value ∧
    Text.integer? value.toList = some n ∧ DepthLimit.ofInt? n = some limit

theorem Settings.maxDepth_of_not_givesLimit {settings : Settings} (h : ¬ settings.GivesLimit) :
    settings.maxDepth.1 = .standard := by
  rw [maxDepth]
  cases hvalue : settings.get? maxDepthKey with
  | none => rfl
  | some value =>
      show (limitOfValue value).1 = .standard
      rw [limitOfValue]
      cases hn : Text.integer? value.toList with
      | none => rfl
      | some n =>
          cases hlimit : DepthLimit.ofInt? n with
          | none => simp only [hlimit]
          | some limit => exact absurd ⟨value, n, limit, hvalue, hn, hlimit⟩ h

/-! ### What a call promises -/

/-- What a call of a command promises in a state of the store. -/
structure Withstands (arguments : List String) (command : Command) (store : Store) : Prop where
  /-- It ends, and its exit code is 0 or 1. -/
  ends : ∃ outcome, (runProgram arguments store).1 = .ok outcome ∧
    (outcome.exitCode = 0 ∨ outcome.exitCode = 1)
  /-- Where the settings that count give no limit, it shows what it shows without settings. -/
  unset : (∀ requested, command ≠ .setMaxDepth requested) → ¬ store.countedSettings.GivesLimit →
    ∃ outcome outcome', (runProgram arguments store).1 = .ok outcome ∧
      (runProgram arguments .missing).1 = .ok outcome' ∧
      outcome.exitCode = outcome'.exitCode ∧ outcome.stdout = outcome'.stdout
  /-- It puts a limit into the settings that count. -/
  set : ∀ requested limit, command = .setMaxDepth requested →
    DepthLimit.ofInt? requested = some limit → store.takesFile →
    ∃ outcome, outcome.exitCode = 0 ∧ runProgram arguments store = (.ok outcome, .directory (.file
      (store.countedSettings.set maxDepthKey (toString limit.value)).toText.toUTF8))
  /-- It reports a limit that is out of range or cannot be written, on a line of its own. -/
  refused : ∀ requested, command = .setMaxDepth requested →
    DepthLimit.ofInt? requested = none ∨ ¬ store.takesFile →
    ∃ error label message, store.setMaxDepth requested = .error error ∧
      error.message? = some message ∧ label ∈ ["Error: ", "Unexpected error: "] ∧
      runProgram arguments store = (.ok ⟨1, linesText [label ++ message], ""⟩, store)

/-- The errors that get past a command to its caller, and the states of the store they are from. -/
inductive Escapes : SettingsError → Store → Prop
  | notText {store : Store} (htext : ¬ store.HoldsText) : Escapes .notText store
  | blocked : Escapes (.notWritten .directoryBlocked) .blocked

namespace Command

/-- The states of the store in which a command keeps its promises: settings that it reads are text,
and where it sets a limit no file is in the place of the directory. -/
def Manages (store : Store) : Command → Prop
  | tokenize _ options => options.limit? = none → store.HoldsText
  | showSettings => store.HoldsText
  | setMaxDepth requested =>
      (DepthLimit.ofInt? requested).isSome → store.HoldsText ∧ store ≠ .blocked
  | help => True

/-- The command has one outcome, whatever the store, and does not change it. -/
def IgnoresStore (command : Command) : Prop :=
  ∃ outcome, (outcome.exitCode = 0 ∨ outcome.exitCode = 1) ∧
    ∀ store, command.run store = (.ok outcome, store)

/-- The command asks the store for the limit, and it fails if it gets none. What it shows depends on
the limit only. -/
structure AsksForLimit (command : Command) : Prop where
  shows : ∀ limit, ∃ exitCode stdout, (exitCode = 0 ∨ exitCode = 1) ∧
    ∀ store log, store.maxDepth = .ok (limit, log) →
      ∃ stderr, command.run store = (.ok ⟨exitCode, stdout, stderr⟩, store)
  fails : ∀ store error, store.maxDepth = .error error →
    command.run store = (.error error, store)

theorem ignoresStore_help : IgnoresStore help :=
  ⟨_, .inl rfl, fun _ => rfl⟩

theorem ignoresStore_tokenize (expression : String) (limit : DepthLimit) (asJson isVerbose : Bool) :
    IgnoresStore (tokenize expression ⟨asJson, some limit, isVerbose⟩) := by
  refine ⟨_, ?_, fun _ => rfl⟩
  show (if (FormulaLexer.tokenize limit 0 expression).isOk then (0 : UInt8) else 1) = 0 ∨ _ = 1
  split
  · exact .inl rfl
  · exact .inr rfl

theorem asksForLimit_showSettings : AsksForLimit showSettings where
  shows limit := by
    refine ⟨0, linesText (settingsTable limit), .inl rfl, fun store log h => ?_⟩
    refine ⟨logText false log, ?_⟩
    rw [run, runShowSettings, h]
    rfl
  fails store error h := by
    rw [run, runShowSettings, h]
    rfl

/-- A limit from the store is followed like one that an option gives. -/
theorem asksForLimit_tokenize (expression : String) (asJson isVerbose : Bool) :
    AsksForLimit (tokenize expression ⟨asJson, none, isVerbose⟩) where
  shows limit := by
    obtain ⟨outcome, hexit, hrun⟩ := ignoresStore_tokenize expression limit asJson isVerbose
    refine ⟨outcome.exitCode, outcome.stdout, hexit, fun store log h => ?_⟩
    have hlimited := hrun store
    simp only [run, runTokenize] at hlimited
    cases hlimited
    simp only [run, runTokenize, h]
    exact ⟨_, rfl⟩
  fails store error h := by
    simp only [run, runTokenize, h]
    rfl

end Command

/-! ### Promises kept and broken -/

section

variable {arguments : List String} {command : Command} {store : Store} {requested : Int}

theorem Command.IgnoresStore.withstands (h : Command.ofArguments arguments = .ok command)
    (hne : ∀ requested, command ≠ .setMaxDepth requested) (hignores : command.IgnoresStore) :
    Withstands arguments command store := by
  obtain ⟨outcome, hexit, hrun⟩ := hignores
  have hprogram (store : Store) : runProgram arguments store = (.ok outcome, store) := by
    rw [runProgram_of_ok h, hrun]
  exact {
    ends := ⟨outcome, by rw [hprogram], hexit⟩
    unset := fun _ _ => ⟨outcome, outcome, by rw [hprogram], by rw [hprogram], rfl, rfl⟩
    set := fun requested _ heq => absurd heq (hne requested)
    refused := fun requested heq => absurd heq (hne requested) }

theorem Command.AsksForLimit.withstands (h : Command.ofArguments arguments = .ok command)
    (hne : ∀ requested, command ≠ .setMaxDepth requested) (hasks : command.AsksForLimit)
    (htext : store.HoldsText) : Withstands arguments command store := by
  have hmaxDepth : store.maxDepth = .ok store.countedSettings.maxDepth := by
    rw [Store.maxDepth, htext.read_eq]
    rfl
  refine {
    ends := ?_
    unset := ?_
    set := fun requested _ heq => absurd heq (hne requested)
    refused := fun requested heq => absurd heq (hne requested) }
  · obtain ⟨exitCode, stdout, hexit, hrun⟩ := hasks.shows store.countedSettings.maxDepth.1
    obtain ⟨stderr, hrun⟩ := hrun store _ hmaxDepth
    exact ⟨_, by rw [runProgram_of_ok h, hrun], hexit⟩
  · intro _ hgives
    -- Both stores give the limit that counts where none is set.
    obtain ⟨exitCode, stdout, -, hrun⟩ := hasks.shows .standard
    have hstandard : store.maxDepth = .ok (.standard, store.countedSettings.maxDepth.2) := by
      rw [hmaxDepth, ← Settings.maxDepth_of_not_givesLimit hgives]
    obtain ⟨stderr, hstore⟩ := hrun store _ hstandard
    obtain ⟨stderr', hmissing⟩ := hrun .missing [] rfl
    refine ⟨⟨exitCode, stdout, stderr⟩, ⟨exitCode, stdout, stderr'⟩, ?_, ?_, rfl, rfl⟩
    · rw [runProgram_of_ok h, hstore]
    · rw [runProgram_of_ok h, hmissing]

theorem Command.AsksForLimit.run_eq (hasks : command.AsksForLimit) (htext : ¬ store.HoldsText) :
    command.run store = (.error .notText, store) := by
  apply hasks.fails
  rw [Store.maxDepth, Store.read_of_not_holdsText htext]
  rfl

/-- A limit that is out of range or cannot be written has an error line, unless a file is in the
place of the directory. -/
theorem Store.exists_errorLine
    (hblocked : (DepthLimit.ofInt? requested).isSome → store ≠ .blocked)
    (h : DepthLimit.ofInt? requested = none ∨ ¬ store.takesFile) :
    ∃ error label message, store.setMaxDepth requested = .error error ∧
      error.message? = some message ∧ label ∈ ["Error: ", "Unexpected error: "] ∧
      Command.setErrorLine? error = some (label ++ message) := by
  cases hlimit : DepthLimit.ofInt? requested with
  | none =>
      refine ⟨.limitOutOfRange requested, _, _, ?_, rfl, by simp, rfl⟩
      rw [setMaxDepth, hlimit]
  | some limit =>
      have htakes := h.resolve_left (by simp [hlimit])
      cases store with
      | missing => exact absurd rfl htakes
      | blocked => exact absurd rfl (hblocked (by simp [hlimit]))
      | directory file =>
          cases file with
          | missing => exact absurd rfl htakes
          | file bytes => exact absurd rfl htakes
          | directory =>
              refine ⟨.notWritten .fileIsDirectory, _, _, ?_, rfl, by simp, rfl⟩
              rw [setMaxDepth, hlimit]
              rfl

theorem Command.withstands_setMaxDepth
    (h : Command.ofArguments arguments = .ok (.setMaxDepth requested))
    (hmanages : (Command.setMaxDepth requested).Manages store) :
    Withstands arguments (.setMaxDepth requested) store := by
  have hset : ∀ limit, DepthLimit.ofInt? requested = some limit → store.takesFile →
      ∃ outcome, outcome.exitCode = 0 ∧ runProgram arguments store = (.ok outcome, .directory (.file
        (store.countedSettings.set maxDepthKey (toString limit.value)).toText.toUTF8)) := by
    intro limit hlimit htakes
    obtain ⟨htext, -⟩ := hmanages (by simp [hlimit])
    have hset := Store.setMaxDepth_eq_ok_iff.2 ⟨limit, _, hlimit, htext.read_eq, htakes, rfl⟩
    exact ⟨_, rfl, by rw [runProgram_of_ok h, Command.run, runSetMaxDepth_of_ok hset]⟩
  have hrefused : DepthLimit.ofInt? requested = none ∨ ¬ store.takesFile →
      ∃ error label message, store.setMaxDepth requested = .error error ∧
        error.message? = some message ∧ label ∈ ["Error: ", "Unexpected error: "] ∧
        runProgram arguments store = (.ok ⟨1, linesText [label ++ message], ""⟩, store) := by
    intro hrefused
    obtain ⟨error, label, message, herror, hmessage, hlabel, hline⟩ :=
      Store.exists_errorLine (fun hrange => (hmanages hrange).2) hrefused
    refine ⟨error, label, message, herror, hmessage, hlabel, ?_⟩
    rw [runProgram_of_ok h, Command.run, runSetMaxDepth_of_line herror hline]
  exact {
    ends := by
      by_cases hrange : DepthLimit.ofInt? requested = none ∨ ¬ store.takesFile
      · obtain ⟨_, _, _, -, -, -, hrun⟩ := hrefused hrange
        exact ⟨_, by rw [hrun], .inr rfl⟩
      · rw [not_or, not_not] at hrange
        obtain ⟨limit, hlimit⟩ := Option.ne_none_iff_exists'.1 hrange.1
        obtain ⟨outcome, hexit, hrun⟩ := hset limit hlimit hrange.2
        exact ⟨outcome, by rw [hrun], .inl hexit⟩
    unset := fun hne => absurd rfl (hne requested)
    set := by
      rintro _ limit ⟨⟩
      exact hset limit
    refused := by
      rintro _ ⟨⟩
      exact hrefused }

theorem Command.exists_escapes_setMaxDepth (h : ¬ (Command.setMaxDepth requested).Manages store) :
    ∃ error, Escapes error store ∧ runSetMaxDepth requested store = (.error error, store) := by
  rw [Manages, Classical.not_imp] at h
  obtain ⟨hrange, h⟩ := h
  obtain ⟨limit, hlimit⟩ := Option.isSome_iff_exists.1 hrange
  by_cases htext : store.HoldsText
  · obtain rfl : store = .blocked := by_contra fun hblocked => h ⟨htext, hblocked⟩
    refine ⟨_, .blocked, runSetMaxDepth_of_no_line ?_ rfl⟩
    rw [Store.setMaxDepth, hlimit]
    rfl
  · refine ⟨_, .notText htext, runSetMaxDepth_of_no_line ?_ rfl⟩
    rw [Store.setMaxDepth, hlimit]
    simp only [Store.read_of_not_holdsText htext]
    rfl

theorem withstands_of_manages (h : Command.ofArguments arguments = .ok command)
    (hmanages : command.Manages store) : Withstands arguments command store := by
  cases command with
  | tokenize expression options =>
      obtain ⟨asJson, limit?, isVerbose⟩ := options
      cases limit? with
      | none =>
          have hasks := Command.asksForLimit_tokenize expression asJson isVerbose
          exact hasks.withstands h (by simp) (hmanages rfl)
      | some limit =>
          have hignores := Command.ignoresStore_tokenize expression limit asJson isVerbose
          exact hignores.withstands h (by simp)
  | showSettings => exact Command.asksForLimit_showSettings.withstands h (by simp) hmanages
  | setMaxDepth requested => exact Command.withstands_setMaxDepth h hmanages
  | help => exact Command.ignoresStore_help.withstands h (by simp)

theorem Command.exists_escapes (h : ¬ command.Manages store) :
    ∃ error, Escapes error store ∧ command.run store = (.error error, store) := by
  cases command with
  | tokenize expression options =>
      obtain ⟨asJson, limit?, isVerbose⟩ := options
      cases limit? with
      | none =>
          have htext : ¬ store.HoldsText := fun htext => h fun _ => htext
          have hasks := asksForLimit_tokenize expression asJson isVerbose
          exact ⟨_, .notText htext, hasks.run_eq htext⟩
      | some limit => exact absurd (fun hlimit => absurd hlimit (by simp)) h
  | showSettings => exact ⟨_, .notText h, asksForLimit_showSettings.run_eq h⟩
  | setMaxDepth requested => exact exists_escapes_setMaxDepth h
  | help => exact absurd trivial h

end

/-- In a state of the store that a command manages, a call of it keeps all promises. In any other
state an error gets past the command: the settings are no text, or a file is in the place of the
directory. -/
theorem withstands_iff_manages {arguments : List String} {command : Command}
    (h : Command.ofArguments arguments = .ok command) (store : Store) :
    (Withstands arguments command store ↔ command.Manages store) ∧
      (¬ command.Manages store →
        ∃ error, Escapes error store ∧ runProgram arguments store = (.error error, store)) := by
  rw [runProgram_of_ok h]
  refine ⟨⟨fun hwithstands => ?_, withstands_of_manages h⟩, Command.exists_escapes⟩
  by_contra hmanages
  obtain ⟨error, -, hrun⟩ := Command.exists_escapes hmanages
  obtain ⟨outcome, houtcome, -⟩ := hwithstands.ends
  rw [runProgram_of_ok h, hrun] at houtcome
  contradiction

/-- A directory is in the place of the file, and the limit that cannot be written is reported. -/
theorem withstands_iff_manages_directory :
    Command.ofArguments ["config", "set-max-depth", "7"] = .ok (.setMaxDepth 7) ∧
      Withstands ["config", "set-max-depth", "7"] (.setMaxDepth 7) (.directory .directory) := by
  have h : Command.ofArguments ["config", "set-max-depth", "7"] = .ok (.setMaxDepth 7) := by rfl
  have htext : (Store.directory .directory).HoldsText := by
    intro bytes hbytes
    contradiction
  refine ⟨h, (withstands_iff_manages h (.directory .directory)).1.2 fun _ => ⟨htext, ?_⟩⟩
  simp

/-- The byte of the file is no text, and the error gets past the command that shows settings. -/
theorem not_withstands_notText :
    Command.ofArguments ["config", "show"] = .ok .showSettings ∧
      ¬ Withstands ["config", "show"] .showSettings (.directory (.file ⟨#[0xff]⟩)) := by
  refine ⟨by rfl, fun h => ?_⟩
  have hrun : (runProgram ["config", "show"] (.directory (.file ⟨#[0xff]⟩))).1 =
      .error .notText := by rfl
  obtain ⟨outcome, houtcome, -⟩ := h.ends
  rw [hrun] at houtcome
  contradiction

end FormulaLexer
