import FormulaLexer.Proofs.Settings.Reread
import FormulaLexer.Proofs.Text.Decimal
import FormulaLexer.Settings.MaxDepth

/-!
The limit in the settings of a store. Setting it changes one entry of the settings, and a limit
that was set is the limit of the store from then on.
-/

namespace FormulaLexer

/-! ### The entry of the limit -/

namespace Settings

/-- A limit in the settings is their limit, with no warning. -/
theorem limitOfValue_toString (limit : DepthLimit) :
    limitOfValue (toString limit.value) = (limit, []) := by
  rw [limitOfValue, Text.integer?_toString limit.length_toString_le]
  simp

theorem legible_limit (limit : DepthLimit) : Legible (maxDepthKey, toString limit.value) := by
  have hkey : '=' ∉ maxDepthKey.toList := by decide
  have hvisible : (maxDepthKey.toList ++ ['=']).all (!Text.isBlank ·) := by decide
  refine legible_of_visible hkey fun c hc => ?_
  rw [toLine, List.append_cons] at hc
  rcases List.mem_append.1 hc with hc | hc
  · simpa using List.all_eq_true.1 hvisible c hc
  · exact Text.isBlank_eq_false_of_isDigit (Text.isDigit_of_mem_toString hc)

end Settings

namespace Store

/-! ### Reading and writing -/

/-- Neither path leads to something that stands in the way of the file. -/
def takesFile : Store → Bool
  | blocked | directory .directory => false
  | _ => true

/-- The settings can be read and changed: there may be a file, and it holds UTF-8 text if there
is one. -/
structure Usable (store : Store) : Prop where
  takesFile : store.takesFile
  valid : ∀ bytes ∈ store.bytes?, bytes.IsValidUTF8

/-- The file of the settings holds UTF-8 text, if there is one. -/
def HoldsText (store : Store) : Prop := ∀ bytes ∈ store.bytes?, bytes.IsValidUTF8

/-- The settings that count: none where they cannot be read. -/
def countedSettings (store : Store) : Settings :=
  match store.read with
  | .ok settings => settings
  | .error _ => []

section

variable {store store' : Store} {settings : Settings} {requested : Int}

theorem HoldsText.read_eq (h : store.HoldsText) : store.read = .ok store.countedSettings := by
  rw [countedSettings, read]
  cases hbytes : store.bytes? with
  | none => rfl
  | some bytes =>
      have hvalid := h bytes hbytes
      simp [String.fromUTF8?, hvalid]

theorem read_of_not_holdsText (h : ¬ store.HoldsText) : store.read = .error .notText := by
  simp only [HoldsText, not_forall] at h
  obtain ⟨bytes, hbytes, hinvalid⟩ := h
  rw [read, hbytes]
  simp [String.fromUTF8?, hinvalid]

theorem Usable.exists_read (h : store.Usable) : ∃ settings, store.read = .ok settings :=
  ⟨_, HoldsText.read_eq h.valid⟩

theorem inOrder_of_read (h : store.read = .ok settings) : settings.InOrder := by
  rw [read] at h
  split at h
  · cases h
    exact Settings.inOrder_nil
  · split at h
    · contradiction
    · cases h
      exact Settings.inOrder_ofText _

theorem read_file_toUTF8 (text : String) :
    (directory (.file text.toUTF8)).read = .ok (Settings.ofText text) := by
  have htext : String.fromUTF8? text.toUTF8 = some text := by
    rw [String.fromUTF8?, String.toUTF8_eq_toByteArray, dif_pos text.isValidUTF8]
    rfl
  rw [read, bytes?]
  simp only [htext]

/-- Settings in order are read back from the file that they are written to. -/
theorem read_file_toText (h : settings.InOrder) :
    (directory (.file settings.toText.toUTF8)).read = .ok settings := by
  rw [read_file_toUTF8, h.ofText_toText]

theorem write_eq_ok_iff : store.write settings = .ok store' ↔
    store.takesFile ∧ store' = directory (.file settings.toText.toUTF8) := by
  cases store with
  | missing => simp [write, writeBytes, takesFile, Except.mapError, eq_comm]
  | blocked => simp [write, writeBytes, takesFile, Except.mapError]
  | directory file =>
      cases file <;> simp [write, writeBytes, takesFile, Except.mapError, eq_comm]

/-! ### Setting the limit -/

/-- A limit is set by writing the settings of the store with the new entry. -/
theorem setMaxDepth_eq_ok_iff : store.setMaxDepth requested = .ok store' ↔
    ∃ limit settings, DepthLimit.ofInt? requested = some limit ∧ store.read = .ok settings ∧
      store.takesFile ∧ store' = directory (.file
        (settings.set maxDepthKey (toString limit.value)).toText.toUTF8) := by
  rw [setMaxDepth]
  cases hlimit : DepthLimit.ofInt? requested with
  | none => simp
  | some limit =>
      cases hread : store.read with
      | error error => simp [bind, Except.bind]
      | ok settings => simp [bind, Except.bind, write_eq_ok_iff]

/-- A limit that was set is the limit of the store, with no warning. -/
theorem maxDepth_of_setMaxDepth {limit : DepthLimit}
    (h : store.setMaxDepth limit.value = .ok store') : store'.maxDepth = .ok (limit, []) := by
  obtain ⟨limit', settings, hlimit, hread, -, rfl⟩ := setMaxDepth_eq_ok_iff.1 h
  rw [DepthLimit.ofInt?_value] at hlimit
  cases hlimit
  have horder := (inOrder_of_read hread).set (Settings.legible_limit limit)
  rw [maxDepth, read_file_toText horder, Except.map, Settings.maxDepth, Settings.get?_set_same]
  exact congrArg _ (Settings.limitOfValue_toString limit)

/-- A limit hides the limits that were set before it. -/
theorem setMaxDepth_absorbs {store'' : Store} {requested' : Int}
    (h : store.setMaxDepth requested = .ok store')
    (h' : store'.setMaxDepth requested' = .ok store'') :
    store.setMaxDepth requested' = .ok store'' := by
  obtain ⟨limit, settings, -, hread, hfile, rfl⟩ := setMaxDepth_eq_ok_iff.1 h
  obtain ⟨limit', settings', hlimit', hread', -, rfl⟩ := setMaxDepth_eq_ok_iff.1 h'
  have horder := (inOrder_of_read hread).set (Settings.legible_limit limit)
  rw [read_file_toText horder] at hread'
  cases hread'
  refine setMaxDepth_eq_ok_iff.2 ⟨limit', settings, hlimit', hread, hfile, ?_⟩
  rw [Settings.set_set]

end

/-- The bytes of a file with one line for each key, ended by a line feed. -/
structure LinePerKey (settings : Settings) (bytes : ByteArray) : Prop where
  nodup : settings.keys.Nodup
  oneLine : ∀ line ∈ settings.map Settings.toLine, '\n' ∉ line ∧ '\r' ∉ line
  bytes_eq : bytes = (String.ofList (Text.unlines (settings.map Settings.toLine))).toUTF8

/-- Setting a limit changes one entry of the settings, whatever text the file holds, and leaves
a file with one line for each key. The limit is the limit of the store then. -/
theorem setMaxDepth_changedAt {store : Store} (hstore : store.Usable) (limit : DepthLimit) :
    ∃ settings settings' bytes, store.read = .ok settings ∧
      store.setMaxDepth limit.value = .ok (directory (.file bytes)) ∧
      (directory (.file bytes)).read = .ok settings' ∧
      settings.ChangedAt maxDepthKey (toString limit.value) settings' ∧
      LinePerKey settings' bytes ∧
      (directory (.file bytes)).maxDepth = .ok (limit, []) := by
  obtain ⟨settings, hread⟩ := hstore.exists_read
  have horder := (inOrder_of_read hread).set (Settings.legible_limit limit)
  have hset := setMaxDepth_eq_ok_iff.2
    ⟨limit, settings, DepthLimit.ofInt?_value limit, hread, hstore.takesFile, rfl⟩
  exact ⟨settings, _, _, hread, hset, read_file_toText horder, Settings.changedAt_set,
    ⟨horder.nodup, horder.oneLine, rfl⟩, maxDepth_of_setMaxDepth hset⟩

/-- Line breaks of all kinds, a key that appears twice, a line without an equals sign, an entry
without a key, and separators that are no line breaks. -/
theorem setMaxDepth_changedAt_mixed :
    let store := directory (.file
      "a =1\r\nCELLEX_MAX_DEPTH= x\r\u2028b\u0085=y = z\u001c\n\nalone\n a =2\r==\n".toUTF8)
    store.Usable ∧ ∃ settings settings' bytes, store.read = .ok settings ∧
      store.setMaxDepth 12 = .ok (directory (.file bytes)) ∧
      (directory (.file bytes)).read = .ok settings' ∧
      settings.ChangedAt maxDepthKey "12" settings' ∧
      LinePerKey settings' bytes ∧
      (directory (.file bytes)).maxDepth = .ok ({ value := 12 }, []) := by
  have hstore (text : String) : (directory (.file text.toUTF8)).Usable :=
    ⟨rfl, by rintro _ ⟨⟩; exact text.isValidUTF8⟩
  exact ⟨hstore _, setMaxDepth_changedAt (hstore _) { value := 12 }⟩

end Store

end FormulaLexer
