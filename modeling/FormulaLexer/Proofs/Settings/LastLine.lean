import FormulaLexer.Lexer.Basic
import FormulaLexer.Proofs.Settings.MaxDepth
import FormulaLexer.Proofs.Text.Integer
import FormulaLexer.Proofs.Text.LineBreaks
import Mathlib.Data.List.Induction

/-!
The line that decides on the limit: the last one that starts with the name of the setting. Nothing
else in the file counts.
-/

namespace FormulaLexer

/-! ### Lines for the limit -/

namespace Settings

open Text

/-- The line gives the limit, once the blanks around it are dropped. -/
def IsLimitLine (line : List Char) : Prop := "CELLEX_MAX_DEPTH=".toList <+: trim line

/-- What stands behind the equals sign on the last line for the limit, if there is such a line. -/
inductive LastValue : List (List Char) → Option (List Char) → Prop
  | none {ls : List (List Char)} (hnone : ∀ line ∈ ls, ¬ IsLimitLine line) : LastValue ls none
  | some {before after : List (List Char)} {line value : List Char}
      (hline : trim line = "CELLEX_MAX_DEPTH=".toList ++ value)
      (hafter : ∀ line ∈ after, ¬ IsLimitLine line) :
      LastValue (before ++ line :: after) (some value)

section

variable {settings : Settings} {ls : List (List Char)} {line value : List Char}

theorem exists_lastValue (ls : List (List Char)) : ∃ value?, LastValue ls value? := by
  induction ls using List.reverseRecOn with
  | nil => exact ⟨none, .none (List.forall_mem_nil _)⟩
  | append_singleton ls line ih =>
      by_cases h : IsLimitLine line
      · obtain ⟨value, hvalue⟩ := h
        exact ⟨some value, .some hvalue.symm (List.forall_mem_nil _)⟩
      · obtain ⟨value?, hvalue⟩ := ih
        cases hvalue with
        | none hnone =>
            refine ⟨none, .none fun line' hmem => ?_⟩
            rcases List.mem_append.1 hmem with hmem | hmem
            · exact hnone line' hmem
            · rwa [List.mem_singleton.1 hmem]
        | some hline hafter =>
            rw [List.append_assoc, List.cons_append]
            refine ⟨_, .some hline fun line' hmem => ?_⟩
            rcases List.mem_append.1 hmem with hmem | hmem
            · exact hafter line' hmem
            · rwa [List.mem_singleton.1 hmem]

theorem ofLine?_of_limitLine (h : trim line = "CELLEX_MAX_DEPTH=".toList ++ value) :
    ofLine? (trim line) = some (maxDepthKey, String.ofList value) := by
  have hkey : '=' ∉ maxDepthKey.toList := by decide
  have hmark : "CELLEX_MAX_DEPTH=".toList = maxDepthKey.toList ++ ['='] := by decide
  rw [h, hmark, ← ofLine?_toLine hkey, toLine, String.toList_ofList, List.append_assoc,
    List.singleton_append]

theorem isLimitLine_of_ofLine? {entry : String × String} (h : ofLine? (trim line) = some entry)
    (hkey : entry.1 = maxDepthKey) : IsLimitLine line := by
  obtain ⟨hline, -⟩ := ofLine?_eq_some h
  rw [IsLimitLine, ← hline, toLine, hkey]
  exact ⟨entry.2.toList, rfl⟩

/-- Entries with other keys do not change the value of a key. -/
theorem get?_foldl_set_of_ne {key : String} {entries : List (String × String)}
    (h : ∀ entry ∈ entries, entry.1 ≠ key) :
    (entries.foldl (fun settings entry => settings.set entry.1 entry.2) settings).get? key =
      settings.get? key := by
  induction entries generalizing settings with
  | nil => rfl
  | cons entry entries ih =>
      obtain ⟨hentry, hentries⟩ := List.forall_mem_cons.1 h
      rw [List.foldl_cons, ih hentries, get?_set_of_ne hentry.symm]

theorem ne_of_mem_entries (h : ∀ line ∈ ls, ¬ IsLimitLine line) :
    ∀ entry ∈ ls.filterMap fun line => ofLine? (trim line), entry.1 ≠ maxDepthKey := by
  intro entry hentry hkey
  obtain ⟨line, hline, hof⟩ := List.mem_filterMap.1 hentry
  exact h line hline (isLimitLine_of_ofLine? hof hkey)

/-- The last line for the limit gives the setting its value. -/
theorem get?_ofLines {value? : Option (List Char)} (h : LastValue ls value?) :
    (ofLines ls).get? maxDepthKey = value?.map String.ofList := by
  cases h with
  | none hnone =>
      rw [ofLines, get?_foldl_set_of_ne (ne_of_mem_entries hnone)]
      rfl
  | some hline hafter =>
      rw [ofLines, List.filterMap_append, List.filterMap_cons, ofLine?_of_limitLine hline,
        List.foldl_append, List.foldl_cons, get?_foldl_set_of_ne (ne_of_mem_entries hafter),
        get?_set_same]
      rfl

/-! ### Values -/

/-- The value of the setting decides, and no other setting. -/
theorem maxDepth_eq_of_get? {settings' : Settings}
    (h : settings.get? maxDepthKey = settings'.get? maxDepthKey) :
    settings.maxDepth = settings'.maxDepth := by
  rw [maxDepth, maxDepth, h]

end

/-- What a value of the setting comes to: the limit, and what is logged. -/
inductive Decides : Option (List Char) → DepthLimit → List LogRecord → Prop
  | unset {limit : DepthLimit} (hlimit : limit.value = 100) : Decides none limit []
  | inRange {value : List Char} {limit : DepthLimit} {n : Int} (hvalue : WritesInteger value n)
      (hlimit : limit.value = n) : Decides (some value) limit []
  | ignored {value : List Char} {limit : DepthLimit} {warning : LogRecord}
      (hvalue : ∀ n, WritesInteger value n → ¬ (1 ≤ n ∧ n ≤ 500)) (hlimit : limit.value = 100)
      (hwarning : warning.level = .warning) : Decides (some value) limit [warning]

theorem decides_limitOfValue (value : List Char) :
    Decides (some value) (limitOfValue (String.ofList value)).1
      (limitOfValue (String.ofList value)).2 := by
  rw [limitOfValue, String.toList_ofList]
  cases hvalue : integer? value with
  | none =>
      exact .ignored (fun n hn => by simp [integer?_eq_some_iff.2 hn] at hvalue) rfl rfl
  | some n =>
      have hwrites := integer?_eq_some_iff.1 hvalue
      cases hlimit : DepthLimit.ofInt? n with
      | none =>
          simp only [hlimit]
          refine .ignored (fun n' hn' => ?_) rfl rfl
          rw [integer?_eq_some_iff.2 hn'] at hvalue
          cases hvalue
          exact DepthLimit.not_range_of_ofInt? hlimit
      | some limit =>
          simp only [hlimit]
          exact .inRange hwrites (DepthLimit.range_of_ofInt? hlimit).2

theorem decides_maxDepth {settings : Settings} {value? : Option (List Char)}
    (h : settings.get? maxDepthKey = value?.map String.ofList) :
    Decides value? settings.maxDepth.1 settings.maxDepth.2 := by
  rw [maxDepth, h]
  cases value? with
  | none => exact .unset rfl
  | some value => exact decides_limitOfValue value

end Settings

/-! ### Stores -/

namespace Store

open Settings Text

/-- The text that settings are read from: that of the file, and none where there is no file. -/
inductive HasText : Store → String → Prop
  | missing : HasText .missing ""
  | blocked : HasText .blocked ""
  | noFile : HasText (.directory .missing) ""
  | isDirectory : HasText (.directory .directory) ""
  | file (text : String) : HasText (.directory (.file text.toUTF8)) text

/-- What stands behind the equals sign on the last line for the limit, if the text has one. -/
inductive LimitValue (store : Store) (value? : Option (List Char)) : Prop
  | mk {text : String} {ls : List (List Char)} (hstore : store.HasText text)
      (hlines : HasLines text.toList ls) (hvalue : LastValue ls value?)

section

variable {store : Store} {text : String} {value? : Option (List Char)}

theorem HasText.read_eq (h : store.HasText text) : store.read = .ok (Settings.ofText text) := by
  cases h with
  | missing => rfl
  | blocked => rfl
  | noFile => rfl
  | isDirectory => rfl
  | file => exact read_file_toUTF8 text

theorem HoldsText.exists_hasText (h : store.HoldsText) : ∃ text, store.HasText text := by
  rcases store with _ | _ | _ | _ | bytes
  · exact ⟨_, .missing⟩
  · exact ⟨_, .blocked⟩
  · exact ⟨_, .noFile⟩
  · exact ⟨_, .isDirectory⟩
  · exact ⟨_, .file (String.fromUTF8 bytes (h bytes rfl))⟩

theorem HoldsText.exists_limitValue (h : store.HoldsText) : ∃ value?, store.LimitValue value? := by
  obtain ⟨text, htext⟩ := h.exists_hasText
  obtain ⟨value?, hvalue⟩ := exists_lastValue (lines (unifyBreaks text.toList))
  exact ⟨value?, htext, hasLines_iff.2 rfl, hvalue⟩

theorem LimitValue.maxDepth_eq (h : store.LimitValue value?) : ∃ settings : Settings,
    settings.get? maxDepthKey = value?.map String.ofList ∧
      store.maxDepth = .ok settings.maxDepth := by
  obtain ⟨hstore, hlines, hvalue⟩ := h
  refine ⟨_, ?_, congrArg (Except.map Settings.maxDepth) hstore.read_eq⟩
  rw [Settings.ofText, hasLines_iff.1 hlines, get?_ofLines hvalue]

end

/-- The limit of a store is in range, and the last line for the limit decides on it and on what is
logged. Whatever else stands in a store, the same value on the last such line gives the same, and
the lexer refuses none of these limits. -/
theorem maxDepth_lastLine {store : Store} (h : store.HoldsText) :
    (∃ value?, store.LimitValue value?) ∧
    ∀ value?, store.LimitValue value? → ∃ limit log, store.maxDepth = .ok (limit, log) ∧
      (1 ≤ limit.value ∧ limit.value ≤ 500) ∧ Decides value? limit log ∧
      (∀ store' : Store, store'.LimitValue value? → store'.maxDepth = .ok (limit, log)) ∧
      ∀ offset expression requested,
        tokenizeWithin limit.value offset expression ≠ .error (.limitOutOfRange requested) := by
  refine ⟨h.exists_limitValue, fun value? hvalue => ?_⟩
  obtain ⟨settings, hget, hmaxDepth⟩ := hvalue.maxDepth_eq
  refine ⟨settings.maxDepth.1, settings.maxDepth.2, hmaxDepth,
    ⟨settings.maxDepth.1.one_le_value, settings.maxDepth.1.value_le_highest⟩,
    decides_maxDepth hget, fun store' hvalue' => ?_, fun offset expression requested => ?_⟩
  · obtain ⟨settings', hget', hmaxDepth'⟩ := hvalue'.maxDepth_eq
    rw [hmaxDepth', maxDepth_eq_of_get? (hget'.trans hget.symm)]
  · rw [tokenizeWithin, DepthLimit.ofInt?_value]
    cases hresult : tokenize settings.maxDepth.1 offset expression <;>
      simp [hresult, Except.mapError]

/-- Line breaks of all kinds, a separator that is no line break, keys with a similar spelling, and a
value in two scripts. -/
theorem maxDepth_lastLine_twoScripts :
    let text := "CELLEX_MAX_DEPTH=7\r\nCELLEX_MAX_DEPTH =8\r\u2028CELLEX_MAX_DEPTH= +1_٢\u00a0" ++
      "\nCELLEX_MAX_DEPTHS=9\u0085CELLEX_MAX_DEPTH=10"
    let store := directory (.file text.toUTF8)
    store.HoldsText ∧ (∃ value?, store.LimitValue value?) ∧
    (∀ value?, store.LimitValue value? → ∃ limit log, store.maxDepth = .ok (limit, log) ∧
      (1 ≤ limit.value ∧ limit.value ≤ 500) ∧ Decides value? limit log ∧
      (∀ store' : Store, store'.LimitValue value? → store'.maxDepth = .ok (limit, log)) ∧
      ∀ offset expression requested,
        tokenizeWithin limit.value offset expression ≠ .error (.limitOutOfRange requested)) ∧
    store.maxDepth = .ok ({ value := 12 }, []) := by
  intro text store
  have hstore : store.HoldsText := by
    rintro _ ⟨⟩
    exact text.isValidUTF8
  have hmaxDepth : store.maxDepth = .ok ({ value := 12 }, []) := by
    rw [maxDepth, read_file_toUTF8]
    decide +kernel
  exact ⟨hstore, (maxDepth_lastLine hstore).1, (maxDepth_lastLine hstore).2, hmaxDepth⟩

end Store

end FormulaLexer
