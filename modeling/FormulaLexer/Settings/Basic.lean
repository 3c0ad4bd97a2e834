import FormulaLexer.Text.Blank
import FormulaLexer.Text.Lines

/-!
Settings: keys with values, in the order in which the keys first appear. Their text has a
line for each key, with an equals sign before the value.
-/

namespace FormulaLexer

/-- Keys with their values. -/
abbrev Settings := List (String × String)

namespace Settings

def get? (key : String) (settings : Settings) : Option String := settings.lookup key

/-- Gives a key a value, in the place of the key if it has one and at the end otherwise. -/
def set (key value : String) : Settings → Settings
  | [] => [(key, value)]
  | (other, old) :: rest =>
      if other = key then (key, value) :: rest else (other, old) :: set key value rest

/-- The key and the value on a line without blanks around it. The first equals sign ends
the key. -/
def ofLine? (line : List Char) : Option (String × String) :=
  match line.dropWhile (· != '=') with
  | [] => none
  | _ :: value => some (String.ofList (line.takeWhile (· != '=')), String.ofList value)

def ofLines (lines : List (List Char)) : Settings :=
  (lines.filterMap fun line => ofLine? (Text.trim line)).foldl
    (fun settings entry => settings.set entry.1 entry.2) []

/-- The settings that a text gives. Lines without an equals sign are ignored. -/
def ofText (text : String) : Settings := ofLines (Text.lines (Text.unifyBreaks text.toList))

def toLine (entry : String × String) : List Char := entry.1.toList ++ '=' :: entry.2.toList

def toText (settings : Settings) : String := String.ofList (Text.unlines (settings.map toLine))

@[simp] theorem get?_set_same (key value : String) (settings : Settings) :
    (settings.set key value).get? key = some value := by
  induction settings with
  | nil => simp [set, get?]
  | cons entry rest ih =>
      obtain ⟨other, old⟩ := entry
      by_cases h : other = key
      · simp [set, get?, h]
      · have hbeq : (key == other) = false := by simp [Ne.symm h]
        simpa [set, get?, h, List.lookup_cons, hbeq] using ih

theorem get?_set_of_ne {key key' : String} (h : key' ≠ key) (value : String)
    (settings : Settings) : (settings.set key value).get? key' = settings.get? key' := by
  induction settings with
  | nil => simp [set, get?, h]
  | cons entry rest ih =>
      obtain ⟨other, old⟩ := entry
      by_cases hother : other = key
      · have hbeq : (key' == key) = false := by simp [h]
        simp [set, get?, hother, List.lookup_cons, hbeq]
      · simp only [set, hother, if_false, get?, List.lookup_cons] at ih ⊢
        split
        · rfl
        · exact ih

end Settings

end FormulaLexer
