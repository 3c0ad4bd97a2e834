import FormulaLexer.Validation.Issue

/-!
The issues that checks find, and the places that their paths lead to.
-/

namespace FormulaLexer

/-! ### Paths -/

/-- Where a step leads from a value. A step into the reading as a kind leads to no other value. -/
def Json.after? : Json → Step → Option Json
  | .obj fields, .field name => field? fields name
  | .arr items, .item index => items[index]?
  | _, _ => none

/-- The value that a path leads to, where it leads to one. -/
def Json.at? (value : Json) (path : List Step) : Option Json := path.foldlM Json.after? value

@[simp] theorem Json.at?_nil (value : Json) : value.at? [] = some value := rfl

@[simp] theorem Json.at?_cons (value : Json) (step : Step) (path : List Step) :
    value.at? (step :: path) = (value.after? step).bind (·.at? path) := rfl

theorem Json.at?_append (value : Json) (path path' : List Step) :
    value.at? (path ++ path') = (value.at? path).bind (·.at? path') :=
  List.foldlM_append

def Step.isKind : Step → Bool
  | kind _ => true
  | field _ | item _ => false

/-- The steps of a path that lead to another value. -/
def untagged (path : List Step) : List Step := path.filter (!·.isKind)

@[simp] theorem untagged_nil : untagged [] = [] := rfl

@[simp] theorem untagged_kind (kind : Kind) (path : List Step) :
    untagged (.kind kind :: path) = untagged path := rfl

@[simp] theorem untagged_field (name : String) (path : List Step) :
    untagged (.field name :: path) = .field name :: untagged path := rfl

@[simp] theorem untagged_item (index : Nat) (path : List Step) :
    untagged (.item index :: path) = .item index :: untagged path := rfl

@[simp] theorem untagged_append (path path' : List Step) :
    untagged (path ++ path') = untagged path ++ untagged path' :=
  List.filter_append path path'

/-- An issue of the place that a step leads to, seen from where the step starts. -/
def Issue.under (step : Step) (issue : Issue) : Issue := { issue with path := step :: issue.path }

namespace Checked

variable {α β : Type}

/-! ### Issues -/

/-- The issues that a check found. -/
def issues : Checked α → List Issue
  | .ok _ => []
  | .error issues => issues

@[simp] theorem issues_ok (a : α) : issues (.ok a : Checked α) = [] := rfl

@[simp] theorem issues_fault (f : Fault) : issues (fault f : Checked α) = [⟨f, []⟩] := rfl

@[simp] theorem ok_ne_fault (a : α) (f : Fault) : (.ok a : Checked α) ≠ fault f := nofun

@[simp] theorem fault_inj {f f' : Fault} : (fault f : Checked α) = fault f' ↔ f = f' := by
  simp [fault]

@[simp] theorem issues_map (f : α → β) (checked : Checked α) :
    issues (checked.map f) = issues checked := by
  cases checked <;> rfl

@[simp] theorem issues_under (step : Step) (checked : Checked α) :
    issues (under step checked) = (issues checked).map (Issue.under step) := by
  cases checked <;> rfl

@[simp] theorem issues_both (a : Checked α) (b : Checked β) :
    issues (both a b) = issues a ++ issues b := by
  cases a <;> cases b <;> simp [both, issues]

/-! ### Checks that tell why they fail -/

/-- A check without issues gives a value. -/
def Telling (checked : Checked α) : Prop := issues checked = [] → ∃ a, checked = .ok a

theorem telling_ok (a : α) : Telling (.ok a : Checked α) := fun _ => ⟨a, rfl⟩

theorem telling_fault (f : Fault) : Telling (fault f : Checked α) := fun h => by
  rw [issues_fault] at h
  contradiction

theorem Telling.map {checked : Checked α} (h : Telling checked) (f : α → β) :
    Telling (checked.map f) := by
  intro hissues
  rw [issues_map] at hissues
  obtain ⟨a, rfl⟩ := h hissues
  exact ⟨f a, rfl⟩

theorem Telling.under {checked : Checked α} (h : Telling checked) (step : Step) :
    Telling (under step checked) := by
  intro hissues
  rw [issues_under, List.map_eq_nil_iff] at hissues
  obtain ⟨a, rfl⟩ := h hissues
  exact ⟨a, rfl⟩

theorem Telling.both {a : Checked α} {b : Checked β} (ha : Telling a) (hb : Telling b) :
    Telling (both a b) := by
  intro hissues
  rw [issues_both, List.append_eq_nil_iff] at hissues
  obtain ⟨a, rfl⟩ := ha hissues.1
  obtain ⟨b, rfl⟩ := hb hissues.2
  exact ⟨(a, b), rfl⟩

/-! ### Checks of one value -/

/-- A check that finds at most one fault, and finds it where it looks. -/
def Simple (checked : Checked α) : Prop := (∃ a, checked = .ok a) ∨ ∃ f, checked = fault f

theorem Simple.telling {checked : Checked α} (h : Simple checked) : Telling checked := by
  rcases h with ⟨a, rfl⟩ | ⟨f, rfl⟩
  · exact telling_ok a
  · exact telling_fault f

theorem simple_text (value : Json) : Simple (text value) := by
  cases value with
  | str s => exact .inl ⟨s, rfl⟩
  | _ => exact .inr ⟨.notText, rfl⟩

theorem simple_integerOfDecimal (mantissa exponent : Int) :
    Simple (integerOfDecimal mantissa exponent) := by
  rw [integerOfDecimal]
  split
  · exact .inr ⟨_, rfl⟩
  · split
    · exact .inr ⟨_, rfl⟩
    · split
      · exact .inl ⟨_, rfl⟩
      · exact .inr ⟨_, rfl⟩

theorem simple_integer (value : Json) : Simple (integer value) := by
  cases value with
  | int n => exact .inl ⟨n, rfl⟩
  | bool b => exact .inl ⟨_, rfl⟩
  | decimal mantissa exponent => exact simple_integerOfDecimal mantissa exponent
  | str s =>
      rw [integer]
      split
      · exact .inl ⟨_, rfl⟩
      · exact .inr ⟨_, rfl⟩
  | _ => exact .inr ⟨.notInteger, rfl⟩

/-! ### Checks of a field -/

section

variable {name : String} {check : Json → Checked α} {fields : List (String × Json)}

theorem telling_required (hcheck : ∀ value, Simple (check value)) :
    Telling (required name check fields) := by
  refine Telling.under ?_ _
  split
  · exact telling_fault .missing
  · exact (hcheck _).telling

/-- A field that has to be there is not, or its value has a fault. -/
theorem mem_issues_required_iff (hcheck : ∀ value, Simple (check value)) {issue : Issue} :
    issue ∈ issues (required name check fields) ↔ issue.path = [.field name] ∧
      (Json.field? fields name = none ∧ issue.fault = .missing ∨
        ∃ value, Json.field? fields name = some value ∧ check value = fault issue.fault) := by
  obtain ⟨f, path⟩ := issue
  rw [required, issues_under]
  cases hfield : Json.field? fields name with
  | none => simp [Issue.under, and_comm]
  | some value =>
      rcases hcheck value with ⟨a, hvalue⟩ | ⟨f', hvalue⟩
      · simp [hvalue]
      · simp [hvalue, Issue.under, eq_comm, and_comm]

/-- Of a field there is one issue at most. -/
theorem paths_issues_required (hcheck : ∀ value, Simple (check value)) :
    ((issues (required name check fields)).map Issue.path).Sublist [[.field name]] := by
  rw [required, issues_under]
  cases Json.field? fields name with
  | none => exact .refl _
  | some value =>
      rcases hcheck value with ⟨a, hvalue⟩ | ⟨f, hvalue⟩
      · simp [hvalue]
      · simp [hvalue, Issue.under]

end

end Checked

end FormulaLexer
