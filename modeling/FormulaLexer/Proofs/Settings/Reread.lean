import FormulaLexer.Proofs.Text.Lines
import FormulaLexer.Settings.Basic
import Mathlib.Data.List.Nodup
import Mathlib.Data.List.TakeWhile

/-!
Settings written and read again. Settings that come from a text are in order: no key appears
twice, and each line gives its own key and value back. Such settings are what their text gives,
and they stay in order when the value of a key is set.
-/

namespace FormulaLexer.Settings

open Text

def keys (settings : Settings) : List String := settings.map Prod.fst

/-! ### Setting a value -/

/-- The value of one key is set: the key keeps its place, or stands at the end if it is new, and
all other keys keep their places and their values. -/
structure ChangedAt (key value : String) (settings settings' : Settings) : Prop where
  keys_eq : settings'.keys = if key ∈ settings.keys then settings.keys else settings.keys ++ [key]
  get?_same : settings'.get? key = some value
  get?_other : ∀ other, other ≠ key → settings'.get? other = settings.get? other

section

variable {settings : Settings} {key value : String}

theorem keys_set : (settings.set key value).keys =
    if key ∈ settings.keys then settings.keys else settings.keys ++ [key] := by
  induction settings with
  | nil => rfl
  | cons entry rest ih =>
      obtain ⟨other, old⟩ := entry
      by_cases h : other = key
      · simp [set, keys, h]
      · simp only [keys] at ih ⊢
        by_cases hkey : key ∈ rest.map Prod.fst
        · simp [set, h, ih, hkey]
        · simp [set, h, ih, hkey, Ne.symm h]

theorem changedAt_set : settings.ChangedAt key value (settings.set key value) where
  keys_eq := keys_set
  get?_same := get?_set_same key value settings
  get?_other := fun _ hother => get?_set_of_ne hother value settings

theorem nodup_keys_set (h : settings.keys.Nodup) : (settings.set key value).keys.Nodup := by
  rw [keys_set]
  split
  · exact h
  · next hkey =>
      refine List.nodup_append.2 ⟨h, List.nodup_singleton key, ?_⟩
      rintro other hother _ hsingle rfl
      rw [List.mem_singleton.1 hsingle] at hother
      exact hkey hother

/-- A new entry stands at the end. -/
theorem set_of_not_mem (h : key ∉ settings.keys) :
    settings.set key value = settings ++ [(key, value)] := by
  induction settings with
  | nil => rfl
  | cons entry rest ih =>
      obtain ⟨other, old⟩ := entry
      rw [keys, List.map_cons, List.mem_cons, not_or] at h
      rw [set, if_neg (Ne.symm h.1), ih h.2, List.cons_append]

theorem mem_set {entry : String × String} (h : entry ∈ settings.set key value) :
    entry = (key, value) ∨ entry ∈ settings := by
  induction settings with
  | nil => exact .inl (List.mem_singleton.1 h)
  | cons first rest ih =>
      obtain ⟨other, old⟩ := first
      rw [set] at h
      split at h
      · exact (List.mem_cons.1 h).imp_right (List.mem_cons_of_mem _)
      · rcases List.mem_cons.1 h with rfl | h
        · exact .inr List.mem_cons_self
        · exact (ih h).imp_right (List.mem_cons_of_mem _)

/-- The later of two values for a key counts. -/
theorem set_set (value' : String) :
    (settings.set key value).set key value' = settings.set key value' := by
  induction settings with
  | nil => simp [set]
  | cons entry rest ih =>
      obtain ⟨other, old⟩ := entry
      by_cases h : other = key <;> simp [set, h, ih]

end

/-! ### Lines -/

/-- The line of an entry gives the entry back: the first equals sign stands behind the key,
nothing would be trimmed, and there is no line break. -/
structure Legible (entry : String × String) : Prop where
  key : '=' ∉ entry.1.toList
  trimmed : trim (toLine entry) = toLine entry
  oneLine : '\n' ∉ toLine entry ∧ '\r' ∉ toLine entry

/-- The entry of a line is written as that line. -/
theorem ofLine?_eq_some {line : List Char} {entry : String × String}
    (h : ofLine? line = some entry) : toLine entry = line ∧ '=' ∉ entry.1.toList := by
  rw [ofLine?] at h
  cases hdrop : line.dropWhile (· != '=') with
  | nil =>
      rw [hdrop] at h
      contradiction
  | cons c value =>
      rw [hdrop] at h
      cases h
      -- What stops the key is the equals sign.
      have hc := List.head?_dropWhile_not (· != '=') line
      rw [hdrop] at hc
      obtain rfl : c = '=' := by simpa using hc
      refine ⟨?_, ?_⟩
      · rw [toLine, String.toList_ofList, String.toList_ofList, ← hdrop,
          List.takeWhile_append_dropWhile]
      · rw [String.toList_ofList]
        intro hmem
        simpa using List.mem_takeWhile_imp hmem

theorem ofLine?_toLine {entry : String × String} (h : '=' ∉ entry.1.toList) :
    ofLine? (toLine entry) = some entry := by
  have hkey : ∀ c ∈ entry.1.toList, (c != '=') = true := by
    intro c hc
    rw [bne_iff_ne]
    rintro rfl
    exact h hc
  rw [ofLine?, toLine, List.dropWhile_append_of_pos hkey, List.takeWhile_append_of_pos hkey]
  simp

theorem legible_of_ofLine? {line : List Char} {entry : String × String}
    (hline : '\n' ∉ line ∧ '\r' ∉ line) (h : ofLine? (trim line) = some entry) :
    Legible entry := by
  obtain ⟨heq, hkey⟩ := ofLine?_eq_some h
  refine ⟨hkey, ?_, ?_⟩
  · rw [heq]
    exact trimWhere_eq_self head_trimWhere getLast_trimWhere
  · rw [heq]
    exact ⟨mt mem_of_mem_trimWhere hline.1, mt mem_of_mem_trimWhere hline.2⟩

theorem legible_of_visible {entry : String × String} (hkey : '=' ∉ entry.1.toList)
    (hvisible : ∀ c ∈ toLine entry, isBlank c = false) : Legible entry := by
  have hfeed : isBlank '\n' := by decide
  have hreturn : isBlank '\r' := by decide
  refine ⟨hkey, trimWhere_eq_self ?_ ?_, fun hmem => ?_, fun hmem => ?_⟩
  · exact fun c hc => hvisible c (List.mem_of_mem_head? hc)
  · exact fun c hc => hvisible c (List.mem_of_getLast? hc)
  · rw [hvisible _ hmem] at hfeed
    contradiction
  · rw [hvisible _ hmem] at hreturn
    contradiction

/-! ### Settings in order -/

/-- No key appears twice, and the line of each entry gives the entry back. -/
structure InOrder (settings : Settings) : Prop where
  nodup : settings.keys.Nodup
  legible : ∀ entry ∈ settings, Legible entry

theorem inOrder_nil : InOrder [] := ⟨List.nodup_nil, List.forall_mem_nil _⟩

namespace InOrder

variable {settings : Settings}

theorem set (h : settings.InOrder) {key value : String} (hentry : Legible (key, value)) :
    (settings.set key value).InOrder where
  nodup := nodup_keys_set h.nodup
  legible := by
    intro entry hmem
    rcases mem_set hmem with rfl | hmem
    · exact hentry
    · exact h.legible entry hmem

/-- Setting entries one after the other keeps settings in order. -/
theorem foldl_set (h : settings.InOrder) {entries : List (String × String)}
    (hentries : ∀ entry ∈ entries, Legible entry) :
    (entries.foldl (fun settings entry => settings.set entry.1 entry.2) settings).InOrder := by
  induction entries generalizing settings with
  | nil => exact h
  | cons entry entries ih =>
      obtain ⟨hentry, hentries⟩ := List.forall_mem_cons.1 hentries
      exact ih (h.set hentry) hentries

end InOrder

/-- The settings of a text are in order. -/
theorem inOrder_ofText (text : String) : (ofText text).InOrder := by
  rw [ofText, ofLines]
  refine inOrder_nil.foldl_set fun entry hmem => ?_
  obtain ⟨line, hline, hentry⟩ := List.mem_filterMap.1 hmem
  refine legible_of_ofLine? ⟨not_mem_of_mem_splitOn hline, fun hreturn => ?_⟩ hentry
  exact not_mem_unifyBreaks _ (mem_of_mem_splitOn hreturn hline)

/-- New entries are set one after the other at the end. -/
theorem foldl_set_eq_append {settings : Settings} {entries : List (String × String)}
    (h : (settings ++ entries).keys.Nodup) :
    entries.foldl (fun settings entry => settings.set entry.1 entry.2) settings =
      settings ++ entries := by
  induction entries generalizing settings with
  | nil => simp
  | cons entry entries ih =>
      have hnew : entry.1 ∉ settings.keys := by
        rw [keys, List.map_append, List.map_cons] at h
        exact fun hmem => (List.nodup_append.1 h).2.2 _ hmem _ List.mem_cons_self rfl
      rw [List.foldl_cons, set_of_not_mem hnew, ih (by simpa using h), List.append_assoc,
        List.singleton_append]

namespace InOrder

variable {settings : Settings}

theorem oneLine (h : settings.InOrder) :
    ∀ line ∈ settings.map toLine, '\n' ∉ line ∧ '\r' ∉ line :=
  List.forall_mem_map.2 fun entry hmem => (h.legible entry hmem).oneLine

/-- Settings in order are what their text gives. -/
theorem ofText_toText (h : settings.InOrder) : ofText settings.toText = settings := by
  have hreturn : '\r' ∉ unlines (settings.map toLine) := by
    intro hmem
    obtain ⟨line, hline, hmem⟩ := List.mem_flatMap.1 hmem
    rcases List.mem_append.1 hmem with hmem | hmem
    · exact (h.oneLine line hline).2 hmem
    · simp at hmem
  have hentries : settings.filterMap (fun entry => ofLine? (trim (toLine entry))) = settings := by
    calc settings.filterMap (fun entry => ofLine? (trim (toLine entry)))
        = settings.filterMap some := List.filterMap_congr fun entry hmem => by
          have hlegible := h.legible entry hmem
          rw [hlegible.trimmed, ofLine?_toLine hlegible.key]
      _ = settings := List.filterMap_some
  rw [ofText, toText, String.toList_ofList, unifyBreaks_eq_self hreturn,
    lines_unlines fun line hline => (h.oneLine line hline).1, ofLines, List.filterMap_append,
    List.filterMap_map]
  -- The empty line behind the last line feed gives no entry.
  have hlast : [([] : List Char)].filterMap (fun line => ofLine? (trim line)) = [] := rfl
  rw [hlast, List.append_nil, Function.comp_def, hentries]
  exact foldl_set_eq_append h.nodup

end InOrder

end FormulaLexer.Settings
