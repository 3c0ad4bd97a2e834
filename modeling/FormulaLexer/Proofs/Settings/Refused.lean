import FormulaLexer.Proofs.Settings.MaxDepth
import FormulaLexer.Settings.Steps

/-!
Limits that are not set. There are four reasons, and where one of them holds nothing is changed:
the store is left as it was, the directory that would be made included.
-/

namespace FormulaLexer.Store

/-- Why a limit is not set. The reasons are in the order in which they are looked for, and each
holds only where none in front of it does. -/
inductive Refused (requested : Int) (store : Store) : SettingsError → Prop
  | outOfRange (hrange : ¬ (1 ≤ requested ∧ requested ≤ 500)) :
      Refused requested store (.limitOutOfRange requested)
  | directoryBlocked (hrange : 1 ≤ requested ∧ requested ≤ 500) (hstore : store = .blocked) :
      Refused requested store (.notWritten .directoryBlocked)
  | fileIsDirectory (hrange : 1 ≤ requested ∧ requested ≤ 500)
      (hstore : store = .directory .directory) :
      Refused requested store (.notWritten .fileIsDirectory)
  | notText (hrange : 1 ≤ requested ∧ requested ≤ 500) {bytes : ByteArray}
      (hstore : store = .directory (.file bytes)) (hbytes : ¬ bytes.IsValidUTF8) :
      Refused requested store .notText

section

variable {store store' : Store} {settings : Settings} {requested : Int} {error : SettingsError}

theorem not_holdsText_iff : ¬ store.HoldsText ↔
    ∃ bytes, store = .directory (.file bytes) ∧ ¬ bytes.IsValidUTF8 := by
  rw [HoldsText, not_forall]
  rcases store with _ | _ | _ | _ | bytes <;> simp [bytes?]

/-! ### The steps -/

theorem read_eq_error_iff : store.read = .error error ↔ error = .notText ∧ ¬ store.HoldsText := by
  by_cases htext : store.HoldsText
  · simp [htext.read_eq, htext]
  · simp [read_of_not_holdsText htext, htext, eq_comm]

theorem write_eq_error_iff : store.write settings = .error error ↔
    store = .blocked ∧ error = .notWritten .directoryBlocked ∨
      store = .directory .directory ∧ error = .notWritten .fileIsDirectory := by
  rcases store with _ | _ | _ | _ | bytes <;>
    simp [write, writeBytes, Except.mapError, eq_comm]

/-- A limit is refused for one of the reasons, and for no other. -/
theorem setMaxDepth_eq_error_iff :
    store.setMaxDepth requested = .error error ↔ Refused requested store error := by
  rw [setMaxDepth]
  cases hlimit : DepthLimit.ofInt? requested with
  | none =>
      have hrange := DepthLimit.not_range_of_ofInt? hlimit
      constructor
      · rintro ⟨⟩
        exact .outOfRange hrange
      · rintro (_ | ⟨hin, -⟩ | ⟨hin, -⟩ | ⟨hin, -, -⟩)
        · rfl
        all_goals exact absurd hin hrange
  | some limit =>
      obtain ⟨hrange, -⟩ := DepthLimit.range_of_ofInt? hlimit
      cases hread : store.read with
      | error error' =>
          obtain ⟨rfl, htext⟩ := read_eq_error_iff.1 hread
          obtain ⟨bytes, rfl, hbytes⟩ := not_holdsText_iff.1 htext
          constructor
          · rintro ⟨⟩
            exact .notText hrange rfl hbytes
          · rintro (hout | ⟨-, hstore⟩ | ⟨-, hstore⟩ | ⟨-, -, -⟩)
            · exact absurd hrange hout
            · cases hstore
            · cases hstore
            · rfl
      | ok settings =>
          have htext : store.HoldsText := by
            by_contra htext
            rw [read_of_not_holdsText htext] at hread
            contradiction
          show store.write _ = .error error ↔ _
          rw [write_eq_error_iff]
          constructor
          · rintro (⟨hstore, rfl⟩ | ⟨hstore, rfl⟩)
            · exact .directoryBlocked hrange hstore
            · exact .fileIsDirectory hrange hstore
          · rintro (hout | ⟨-, hstore⟩ | ⟨-, hstore⟩ | ⟨-, hstore, hbytes⟩)
            · exact absurd hrange hout
            · exact .inl ⟨hstore, rfl⟩
            · exact .inr ⟨hstore, rfl⟩
            · exact absurd htext (not_holdsText_iff.2 ⟨_, hstore, hbytes⟩)

end

end FormulaLexer.Store
