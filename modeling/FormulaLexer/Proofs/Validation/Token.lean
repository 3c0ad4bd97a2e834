import FormulaLexer.Proofs.Validation.Issue
import FormulaLexer.Validation.Token

/-!
The issues of a token. A token and the tokens in its groups have faults of their own, and all of
them are found, each once, with the path to where it is.
-/

namespace FormulaLexer

/-! ### Faults -/

/-- The fields that a token of a kind has to have. -/
def Kind.requiredFields : Kind → List String
  | .leaf _ => ["start", "end", "text"]
  | .group => ["start", "end"]

namespace Checked

open Json

/-- What is wrong with a value that is given for a token: it is no object, or its kind is not
known. -/
inductive TokenFault : Json → Fault → Prop
  | notObject {value} (h : ∀ fields, value ≠ .obj fields) : TokenFault value .tokenNotObject
  | kindMissing {fields} (h : field? fields "kind" = none) : TokenFault (.obj fields) .kindMissing
  | kindUnknown {fields word} (h : field? fields "kind" = some word)
      (hword : ∀ kind : Kind, word ≠ .str kind.name) : TokenFault (.obj fields) .kindUnknown

/-- What is wrong with a value that is given for a field of a token. -/
inductive ValueFault (kind : Kind) (name : String) (value : Json) : Fault → Prop
  | bound {f} (hname : name = "start" ∨ name = "end") (h : integer value = fault f) :
      ValueFault kind name value f
  | text (hkind : kind ≠ .group) (hname : name = "text") (h : ∀ s, value ≠ .str s) :
      ValueFault kind name value .notText
  | children (hkind : kind = .group) (hname : name = "children")
      (h : ∀ items, value ≠ .arr items) : ValueFault kind name value .notList

/-- What is wrong with a field of a token of a kind. -/
inductive FieldFault (kind : Kind) (fields : List (String × Json)) (name : String) : Fault → Prop
  | missing (hname : name ∈ kind.requiredFields) (h : field? fields name = none) :
      FieldFault kind fields name .missing
  | value {value f} (h : field? fields name = some value) (hvalue : ValueFault kind name value f) :
      FieldFault kind fields name f

/-- A fault of a token itself, with the steps to it: a fault of the token as a whole, or of one of
its fields. -/
inductive OwnFault : Json → List Step → Fault → Prop
  | whole {value f} (h : TokenFault value f) : OwnFault value [] f
  | field {fields kind name f} (hkind : field? fields "kind" = some (.str kind.name))
      (h : FieldFault kind fields name f) : OwnFault (.obj fields) [.kind kind, .field name] f

/-- The tokens in a token, with the paths to them: the token itself, and the tokens in each item of
the children of a group. -/
inductive Node : Json → List Step → Json → Prop
  | root {value} : Node value [] value
  | child {fields items index item path value}
      (hkind : field? fields "kind" = some (.str Kind.group.name))
      (hchildren : field? fields "children" = some (.arr items))
      (hitem : items[index]? = some item) (h : Node item path value) :
      Node (.obj fields) (.kind .group :: .field "children" :: .item index :: path) value

/-- A path leads to what has a fault. The last step to a missing field is its name, and the steps
before it lead to the object without it. -/
inductive PointsAt (root : Json) : List Step → Fault → Prop
  | whole {path value f} (h : root.at? path = some value) (hvalue : TokenFault value f) :
      PointsAt root path f
  | missing {path fields name} (h : root.at? path = some (.obj fields))
      (hfield : field? fields name = none) : PointsAt root (path ++ [.field name]) .missing
  | value {path kind name value f} (h : root.at? (path ++ [.field name]) = some value)
      (hvalue : ValueFault kind name value f) : PointsAt root (path ++ [.field name]) f

/-! ### One token -/

theorem kind?_eq_some_iff {word : Json} {kind : Kind} :
    kind? word = some kind ↔ word = .str kind.name := by
  cases word with
  | str s =>
      rw [kind?, Json.str.injEq]
      exact ⟨fun h => (Kind.name_of_ofName? h).symm, fun h => by rw [h, Kind.ofName?_name]⟩
  | _ => simp [kind?]

theorem token_cases (value : Json) : (∃ f, TokenFault value f) ∨
    ∃ fields kind, value = .obj fields ∧ field? fields "kind" = some (.str (Kind.name kind)) := by
  cases value with
  | obj fields =>
      cases hword : field? fields "kind" with
      | none => exact .inl ⟨_, .kindMissing hword⟩
      | some word =>
          cases hkind : kind? word with
          | none =>
              refine .inl ⟨_, .kindUnknown hword fun kind h => ?_⟩
              rw [kind?_eq_some_iff.2 h] at hkind
              contradiction
          | some kind =>
              rw [kind?_eq_some_iff] at hkind
              rw [hkind] at hword
              exact .inr ⟨fields, kind, rfl, hword⟩
  | _ => exact .inl ⟨_, .notObject nofun⟩

theorem TokenFault.token_eq {value : Json} {f : Fault} (h : TokenFault value f) :
    token value = fault f := by
  cases h with
  | notObject h =>
      rw [token.eq_def]
      split
      · next fields => exact absurd rfl (h fields)
      · rfl
  | kindMissing h => rw [token, h]
  | @kindUnknown fields word h hword =>
      have hkind : kind? word = none := Option.eq_none_iff_forall_ne_some.2 fun kind hkind =>
        hword kind (kind?_eq_some_iff.1 hkind)
      rw [token, h]
      simp only [hkind]

theorem token_leaf {fields : List (String × Json)} {kind : LeafKind}
    (hkind : field? fields "kind" = some (.str (Kind.leaf kind).name)) :
    token (.obj fields) = under (.kind (.leaf kind)) (leaf kind fields) := by
  rw [token, hkind]
  simp only [kind?_eq_some_iff.2 rfl]

/-- The check of the children of a group, which need not be there. -/
def children (fields : List (String × Json)) : Checked (List Token) :=
  match field? fields "children" with
  | none => .ok []
  | some (.arr items) => under (.field "children") (tokensFrom 0 items)
  | some _ => under (.field "children") (fault .notList)

theorem token_group {fields : List (String × Json)}
    (hkind : field? fields "kind" = some (.str Kind.group.name)) :
    token (.obj fields) = under (.kind .group) ((both (span fields) (children fields)).map
      fun (span, children) => .group children span) := by
  rw [token, hkind]
  simp only [kind?_eq_some_iff.2 rfl]
  rw [children]
  split
  · next h => simp only [h]
  · next items h => simp only [h]
  · next value hvalue h => simp only [h]

/-! ### The issues of one token -/

/-- The values that are given for the children of a token. -/
def childItems : Kind → List (String × Json) → List Json
  | .leaf _, _ => []
  | .group, fields =>
    match field? fields "children" with
    | some (.arr items) => items
    | _ => []

theorem getElem?_childItems_iff {kind : Kind} {fields : List (String × Json)} {index : Nat}
    {item : Json} : (childItems kind fields)[index]? = some item ↔ kind = .group ∧
      ∃ items, field? fields "children" = some (.arr items) ∧ items[index]? = some item := by
  cases kind with
  | leaf kind => simp [childItems]
  | group =>
      rw [childItems]
      split
      · next items h => simp [h]
      · next h =>
          refine ⟨fun hitem => by simp at hitem, ?_⟩
          rintro ⟨-, items, hitems, -⟩
          exact absurd hitems (h items)

/-- The issues of the children of a group that are not a list. -/
def listIssues (fields : List (String × Json)) : List Issue :=
  match field? fields "children" with
  | none | some (.arr _) => []
  | some _ => [⟨.notList, [.field "children"]⟩]

/-- The issues of the fields of a token. -/
def fieldIssues (kind : Kind) (fields : List (String × Json)) : List Issue :=
  issues (span fields) ++ match kind with
    | .leaf _ => issues (required "text" text fields)
    | .group => listIssues fields

theorem issues_children (fields : List (String × Json)) :
    issues (children fields) = listIssues fields ++
      (issues (tokensFrom 0 (childItems .group fields))).map (Issue.under (.field "children")) := by
  have hnone : tokensFrom 0 [] = .ok [] := by rw [tokensFrom]
  rw [children, listIssues, childItems]
  cases field? fields "children" with
  | none => simp [hnone]
  | some value => cases value <;> simp [hnone, Issue.under]

/-- The issues of the fields of a token come before those of its children. -/
theorem issues_token {kind : Kind} {fields : List (String × Json)}
    (hkind : field? fields "kind" = some (.str kind.name)) :
    issues (token (.obj fields)) = (fieldIssues kind fields ++
      (issues (tokensFrom 0 (childItems kind fields))).map (Issue.under (.field "children"))).map
        (Issue.under (.kind kind)) := by
  cases kind with
  | leaf kind =>
      have hnone : tokensFrom 0 [] = .ok [] := by rw [tokensFrom]
      rw [token_leaf hkind, issues_under, leaf, issues_map, issues_both]
      simp [fieldIssues, childItems, hnone]
  | group =>
      rw [token_group hkind, issues_under, issues_map, issues_both, issues_children, fieldIssues,
        List.append_assoc]

theorem mem_issues_tokensFrom_iff {index : Nat} {items : List Json} {issue : Issue} :
    issue ∈ issues (tokensFrom index items) ↔ ∃ offset item inner, items[offset]? = some item ∧
      inner ∈ issues (token item) ∧ issue = inner.under (.item (index + offset)) := by
  induction items generalizing index with
  | nil =>
      rw [tokensFrom]
      simp
  | cons item items ih =>
      rw [tokensFrom, issues_map, issues_both, issues_under, List.mem_append, List.mem_map, ih]
      constructor
      · rintro (⟨inner, hinner, rfl⟩ | ⟨offset, item', inner, hitem, hinner, rfl⟩)
        · exact ⟨0, item, inner, rfl, hinner, rfl⟩
        · exact ⟨offset + 1, item', inner, hitem, hinner, by rw [Nat.add_right_comm]; rfl⟩
      · rintro ⟨offset, item', inner, hitem, hinner, rfl⟩
        cases offset with
        | zero =>
            cases hitem
            exact .inl ⟨inner, hinner, rfl⟩
        | succ offset =>
            exact .inr ⟨offset, item', inner, hitem, hinner, by rw [Nat.add_right_comm]; rfl⟩

/-! ### The faults of one token -/

theorem valueFault_bound_iff {kind : Kind} {name : String} {value : Json} {f : Fault}
    (hname : name = "start" ∨ name = "end") :
    ValueFault kind name value f ↔ integer value = fault f := by
  refine ⟨?_, .bound hname⟩
  rintro (⟨-, h⟩ | ⟨-, rfl⟩ | ⟨-, rfl⟩)
  · exact h
  · simp at hname
  · simp at hname

theorem valueFault_text_iff {kind : LeafKind} {value : Json} {f : Fault} :
    ValueFault (.leaf kind) "text" value f ↔ text value = fault f := by
  constructor
  · rintro (⟨hname, -⟩ | ⟨-, -, h⟩ | ⟨hkind, -⟩)
    · simp at hname
    · cases value with
      | str s => exact absurd rfl (h s)
      | _ => rfl
    · contradiction
  · intro h
    cases value with
    | str s => exact absurd h (ok_ne_fault s f)
    | _ =>
        cases h
        exact .text Kind.noConfusion rfl nofun

theorem valueFault_children_iff {value : Json} {f : Fault} :
    ValueFault .group "children" value f ↔ (∀ items, value ≠ .arr items) ∧ f = .notList := by
  constructor
  · rintro (⟨hname, -⟩ | ⟨hkind, -⟩ | ⟨-, -, h⟩)
    · simp at hname
    · contradiction
    · exact ⟨h, rfl⟩
  · rintro ⟨h, rfl⟩
    exact .children rfl rfl h

/-- The fields of a token with a fault are its own. -/
theorem FieldFault.name_cases {kind : Kind} {fields : List (String × Json)} {name : String}
    {f : Fault} (h : FieldFault kind fields name f) : (name = "start" ∨ name = "end") ∨
      kind ≠ .group ∧ name = "text" ∨ kind = .group ∧ name = "children" := by
  rcases h with ⟨hname, -⟩ | ⟨-, ⟨hname, -⟩ | ⟨hkind, hname, -⟩ | ⟨hkind, hname, -⟩⟩
  · cases kind with
    | leaf kind => simpa [Kind.requiredFields, or_assoc] using hname
    | group => exact .inl (by simpa [Kind.requiredFields] using hname)
  · exact .inl hname
  · exact .inr (.inl ⟨hkind, hname⟩)
  · exact .inr (.inr ⟨hkind, hname⟩)

/-- The faults of a required field are the issues of its check. -/
theorem mem_issues_required_iff_fieldFault {α : Type} {kind : Kind} {name : String}
    {check : Json → Checked α} {fields : List (String × Json)} {issue : Issue}
    (hname : name ∈ kind.requiredFields) (hcheck : ∀ value, Simple (check value))
    (hvalue : ∀ {value f}, ValueFault kind name value f ↔ check value = fault f) :
    issue ∈ issues (required name check fields) ↔
      issue.path = [.field name] ∧ FieldFault kind fields name issue.fault := by
  obtain ⟨f, path⟩ := issue
  rw [mem_issues_required_iff hcheck]
  refine and_congr_right fun _ => ⟨?_, ?_⟩
  · rintro (⟨hnone, rfl⟩ | ⟨value, h, hfault⟩)
    · exact .missing hname hnone
    · exact .value h (hvalue.2 hfault)
  · rintro (⟨-, hnone⟩ | ⟨h, hfault⟩)
    · exact .inl ⟨hnone, rfl⟩
    · exact .inr ⟨_, h, hvalue.1 hfault⟩

theorem mem_issues_span_iff (kind : Kind) {fields : List (String × Json)} {issue : Issue} :
    issue ∈ issues (span fields) ↔ ∃ name, (name = "start" ∨ name = "end") ∧
      issue.path = [.field name] ∧ FieldFault kind fields name issue.fault := by
  have hstart : "start" ∈ kind.requiredFields := by cases kind <;> simp [Kind.requiredFields]
  have hend : "end" ∈ kind.requiredFields := by cases kind <;> simp [Kind.requiredFields]
  rw [span, issues_map, issues_both, List.mem_append,
    mem_issues_required_iff_fieldFault hstart simple_integer (valueFault_bound_iff (.inl rfl)),
    mem_issues_required_iff_fieldFault hend simple_integer (valueFault_bound_iff (.inr rfl))]
  simp only [or_and_right, exists_or, exists_eq_left]

theorem mem_listIssues_iff {fields : List (String × Json)} {issue : Issue} :
    issue ∈ listIssues fields ↔
      issue.path = [.field "children"] ∧ FieldFault .group fields "children" issue.fault := by
  have hfault {f : Fault} : FieldFault .group fields "children" f ↔ ∃ value,
      field? fields "children" = some value ∧ (∀ items, value ≠ .arr items) ∧ f = .notList := by
    constructor
    · rintro (⟨hname, -⟩ | ⟨h, hvalue⟩)
      · simp [Kind.requiredFields] at hname
      · exact ⟨_, h, valueFault_children_iff.1 hvalue⟩
    · rintro ⟨value, h, hvalue⟩
      exact .value h (valueFault_children_iff.2 hvalue)
  obtain ⟨f, path⟩ := issue
  rw [hfault, listIssues]
  cases field? fields "children" with
  | none => simp
  | some value => cases value <;> simp [and_comm]

theorem mem_fieldIssues_iff {kind : Kind} {fields : List (String × Json)} {issue : Issue} :
    issue ∈ fieldIssues kind fields ↔
      ∃ name, issue.path = [.field name] ∧ FieldFault kind fields name issue.fault := by
  cases kind with
  | leaf kind =>
      have htext : "text" ∈ (Kind.leaf kind).requiredFields := by simp [Kind.requiredFields]
      rw [fieldIssues, List.mem_append, mem_issues_span_iff (.leaf kind),
        mem_issues_required_iff_fieldFault htext simple_text valueFault_text_iff]
      constructor
      · rintro (⟨name, -, h⟩ | h)
        · exact ⟨name, h⟩
        · exact ⟨"text", h⟩
      · rintro ⟨name, hpath, h⟩
        rcases h.name_cases with hname | ⟨-, rfl⟩ | ⟨hkind, -⟩
        · exact .inl ⟨name, hname, hpath, h⟩
        · exact .inr ⟨hpath, h⟩
        · contradiction
  | group =>
      rw [fieldIssues, List.mem_append, mem_issues_span_iff .group, mem_listIssues_iff]
      constructor
      · rintro (⟨name, -, h⟩ | h)
        · exact ⟨name, h⟩
        · exact ⟨"children", h⟩
      · rintro ⟨name, hpath, h⟩
        rcases h.name_cases with hname | ⟨hkind, -⟩ | ⟨-, rfl⟩
        · exact .inl ⟨name, hname, hpath, h⟩
        · contradiction
        · exact .inr ⟨hpath, h⟩

end Checked

end FormulaLexer
