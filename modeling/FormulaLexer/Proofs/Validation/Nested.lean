import FormulaLexer.Proofs.Validation.Token
import Mathlib

/-!
Tokens in tokens, as JSON values. What is written of a tree of tokens is checked to be that tree,
and of any other value all faults are reported, at every depth.
-/

namespace FormulaLexer

open Json

namespace Checked

/-! ### Induction over tokens in tokens -/

/-- The check of a token looks at the token and at the items of its children. -/
@[elab_as_elim]
theorem token_induction {motive : Json → Prop}
    (whole : ∀ {value f}, TokenFault value f → motive value)
    (fields : ∀ {kind : Kind} {fields}, field? fields "kind" = some (.str kind.name) →
      (∀ item ∈ childItems kind fields, motive item) → motive (.obj fields))
    (value : Json) : motive value := by
  -- By induction on the size: an item is smaller than the object that it is in.
  induction hn : sizeOf value using Nat.strongRecOn generalizing value with
  | ind n ih =>
  subst hn
  rcases token_cases value with ⟨f, h⟩ | ⟨pairs, kind, rfl, hkind⟩
  · exact whole h
  · refine fields hkind fun item hitem => ih (sizeOf item) ?_ item rfl
    obtain ⟨index, hindex⟩ := List.mem_iff_getElem?.1 hitem
    obtain ⟨-, items, hitems, hindex⟩ := getElem?_childItems_iff.1 hindex
    have hlist := sizeOf_lt_of_field? hitems
    have hmem := List.sizeOf_lt_of_mem (List.mem_of_getElem? hindex)
    simp only [Json.arr.sizeOf_spec, Json.obj.sizeOf_spec] at hlist ⊢
    omega

theorem telling_tokensFrom {items : List Json} (h : ∀ item ∈ items, Telling (token item))
    (index : Nat) : Telling (tokensFrom index items) := by
  induction items generalizing index with
  | nil =>
      rw [tokensFrom]
      exact telling_ok []
  | cons item items ih =>
      rw [List.forall_mem_cons] at h
      rw [tokensFrom]
      exact ((h.1.under _).both (ih h.2 (index + 1))).map _

theorem telling_span (fields : List (String × Json)) : Telling (span fields) :=
  ((telling_required simple_integer).both (telling_required simple_integer)).map _

theorem telling_children {fields : List (String × Json)}
    (h : ∀ item ∈ childItems .group fields, Telling (token item)) :
    Telling (children fields) := by
  rw [childItems] at h
  rw [children]
  cases hfield : field? fields "children" with
  | none => exact telling_ok []
  | some value =>
      rw [hfield] at h
      cases value with
      | arr items => exact (telling_tokensFrom h 0).under _
      | _ => exact (telling_fault .notList).under _

/-- A value that is no token has an issue. -/
theorem telling_token (value : Json) : Telling (token value) := by
  induction value using token_induction with
  | whole h =>
      rw [h.token_eq]
      exact telling_fault _
  | @fields kind fields hkind ih =>
      cases kind with
      | leaf kind =>
          rw [token_leaf hkind]
          exact (((telling_span fields).both (telling_required simple_text)).map _).under _
      | group =>
          rw [token_group hkind]
          exact (((telling_span fields).both (telling_children ih)).map _).under _

/-! ### All faults are reported -/

theorem OwnFault.mem_issues {value : Json} {steps : List Step} {f : Fault}
    (h : OwnFault value steps f) : ⟨f, steps⟩ ∈ issues (token value) := by
  cases h with
  | whole h =>
      rw [h.token_eq]
      exact List.mem_singleton_self _
  | @field fields kind name f hkind h =>
      have hmem : (⟨f, [.field name]⟩ : Issue) ∈ fieldIssues kind fields :=
        mem_fieldIssues_iff.2 ⟨name, rfl, h⟩
      rw [issues_token hkind]
      exact List.mem_map_of_mem (List.mem_append_left _ hmem)

theorem Node.mem_issues {root value : Json} {path steps : List Step} {f : Fault}
    (hnode : Node root path value) (h : OwnFault value steps f) :
    ⟨f, path ++ steps⟩ ∈ issues (token root) := by
  induction hnode with
  | root => exact h.mem_issues
  | @child fields items index item path value hkind hchildren hitem _ ih =>
      have hmem : (⟨f, .item index :: (path ++ steps)⟩ : Issue) ∈
          issues (tokensFrom 0 (childItems .group fields)) :=
        mem_issues_tokensFrom_iff.2 ⟨index, item, ⟨f, path ++ steps⟩,
          getElem?_childItems_iff.2 ⟨rfl, items, hchildren, hitem⟩, ih h, by rw [Nat.zero_add]; rfl⟩
      rw [issues_token hkind]
      exact List.mem_map_of_mem (List.mem_append_right _ (List.mem_map_of_mem hmem))

/-- What is reported is a fault of one of the tokens in the value. -/
theorem exists_node_of_mem_issues {root : Json} {issue : Issue}
    (h : issue ∈ issues (token root)) : ∃ path value steps, Node root path value ∧
      OwnFault value steps issue.fault ∧ issue.path = path ++ steps := by
  induction root using token_induction generalizing issue with
  | whole hfault =>
      rw [hfault.token_eq, issues_fault, List.mem_singleton] at h
      rw [h]
      exact ⟨[], _, [], .root, .whole hfault, rfl⟩
  | fields hkind ih =>
      rw [issues_token hkind, List.mem_map] at h
      obtain ⟨issue, hissue, rfl⟩ := h
      rcases List.mem_append.1 hissue with hown | hnested
      · obtain ⟨name, hpath, hfault⟩ := mem_fieldIssues_iff.1 hown
        exact ⟨[], _, _, .root, .field hkind hfault, congrArg _ hpath⟩
      · obtain ⟨issue, hitems, rfl⟩ := List.mem_map.1 hnested
        obtain ⟨index, item, inner, hitem, hinner, rfl⟩ := mem_issues_tokensFrom_iff.1 hitems
        obtain ⟨path, value, steps, hnode, hfault, hpath⟩ :=
          ih item (List.mem_of_getElem? hitem) hinner
        obtain ⟨rfl, items, hchildren, hindex⟩ := getElem?_childItems_iff.1 hitem
        refine ⟨_, value, steps, .child hkind hchildren hindex hnode, hfault, ?_⟩
        simp [Issue.under, hpath]

/-! ### Where paths lead -/

theorem Node.at?_untagged {root value : Json} {path : List Step} (h : Node root path value) :
    root.at? (untagged path) = some value := by
  induction h with
  | root => rfl
  | child hkind hchildren hitem _ ih => simpa [Json.after?, hchildren, hitem] using ih

theorem OwnFault.pointsAt {root value : Json} {path steps : List Step} {f : Fault}
    (h : OwnFault value steps f) (hpath : root.at? path = some value) :
    PointsAt root (path ++ untagged steps) f := by
  cases h with
  | whole h =>
      rw [untagged_nil, List.append_nil]
      exact .whole hpath h
  | field hkind h =>
      cases h with
      | missing hname h => exact .missing hpath h
      | value h hvalue =>
          refine .value ?_ hvalue
          rw [Json.at?_append, hpath]
          simpa [Json.after?] using h

/-! ### No place is reported twice -/

/-- Where issues are, without the steps into kinds. -/
def places (found : List Issue) : List (List Step) := found.map fun issue => untagged issue.path

theorem places_append (found found' : List Issue) :
    places (found ++ found') = places found ++ places found' :=
  List.map_append

theorem places_under (step : Step) (found : List Issue) :
    places (found.map (Issue.under step)) = (places found).map (untagged [step] ++ ·) := by
  simp only [places, List.map_map, Function.comp_def, Issue.under, ← untagged_append,
    List.singleton_append]

theorem places_issues_required {α : Type} (name : String) {check : Json → Checked α}
    (hcheck : ∀ value, Simple (check value)) (fields : List (String × Json)) :
    (places (issues (required name check fields))).Sublist [[.field name]] := by
  have hpaths : ((issues (required name check fields)).map Issue.path).Sublist [[.field name]] :=
    paths_issues_required hcheck
  have hplaces := hpaths.map untagged
  rwa [List.map_map] at hplaces

theorem places_listIssues (fields : List (String × Json)) :
    (places (listIssues fields)).Sublist [[.field "children"]] := by
  rw [listIssues]
  split
  · exact List.nil_sublist _
  · exact List.nil_sublist _
  · exact List.Sublist.refl _

/-- Each field of a token is reported once at most. -/
theorem places_fieldIssues (kind : Kind) (fields : List (String × Json)) : ∃ last,
    (places (fieldIssues kind fields)).Sublist
      [[.field "start"], [.field "end"], [.field last]] ∧ last ≠ "start" ∧ last ≠ "end" := by
  have hspan : (places (issues (span fields))).Sublist [[.field "start"], [.field "end"]] := by
    rw [span, issues_map, issues_both, places_append]
    exact (places_issues_required "start" simple_integer fields).append
      (places_issues_required "end" simple_integer fields)
  cases kind with
  | leaf kind =>
      rw [fieldIssues, places_append]
      exact ⟨"text", hspan.append (places_issues_required "text" simple_text fields),
        by decide, by decide⟩
  | group =>
      rw [fieldIssues, places_append]
      exact ⟨"children", hspan.append (places_listIssues fields), by decide, by decide⟩

theorem nodup_places_tokensFrom {items : List Json} (index : Nat)
    (h : ∀ item ∈ items, (places (issues (token item))).Nodup) :
    (places (issues (tokensFrom index items))).Nodup := by
  induction items generalizing index with
  | nil =>
      rw [tokensFrom]
      exact List.nodup_nil
  | cons item items ih =>
      rw [List.forall_mem_cons] at h
      rw [tokensFrom, issues_map, issues_both, issues_under, places_append, places_under]
      refine (h.1.map (List.append_right_injective _)).append (ih (index + 1) h.2) ?_
      -- The items behind have larger indices.
      intro place hfirst hrest
      obtain ⟨inner, -, rfl⟩ := List.mem_map.1 hfirst
      obtain ⟨issue, hissue, hplace⟩ := List.mem_map.1 hrest
      obtain ⟨offset, item', inner', -, -, rfl⟩ := mem_issues_tokensFrom_iff.1 hissue
      simp [Issue.under] at hplace
      omega

/-- No two issues of a token are at one place. -/
theorem nodup_places_token (value : Json) : (places (issues (token value))).Nodup := by
  induction value using token_induction with
  | whole h =>
      rw [h.token_eq, issues_fault]
      exact List.nodup_singleton _
  | @fields kind fields hkind ih =>
      rw [issues_token hkind, places_under, places_append, places_under]
      obtain ⟨last, hlast, hstart, hend⟩ := places_fieldIssues kind fields
      have hfields : (places (fieldIssues kind fields)).Nodup := by
        refine hlast.nodup ?_
        simp [hstart.symm, hend.symm]
      have hchildren := (nodup_places_tokensFrom 0 ih).map
        (List.append_right_injective (untagged [.field "children"]))
      refine (hfields.append hchildren ?_).map (List.append_right_injective _)
      -- The place of a field is one step, and a place in the children is behind an item.
      intro place hown hnested
      obtain ⟨inner, hinner, rfl⟩ := List.mem_map.1 hnested
      obtain ⟨issue, hissue, rfl⟩ := List.mem_map.1 hinner
      obtain ⟨offset, item, inner, -, -, rfl⟩ := mem_issues_tokensFrom_iff.1 hissue
      have hmem := hlast.subset hown
      simp [Issue.under] at hmem

end Checked

/-! ### Tokens written with their spans -/

namespace Token

mutual

/-- A token as a value, with its span. -/
def spannedTree : Token → Json
  | leaf kind text span =>
      .obj [("kind", .str kind.name), ("text", .str text), ("start", .int span.start),
        ("end", .int span.stop)]
  | group children span =>
      .obj [("kind", .str Kind.group.name), ("start", .int span.start), ("end", .int span.stop),
        ("children", .arr (spannedTrees children))]

def spannedTrees : List Token → List Json
  | [] => []
  | token :: rest => spannedTree token :: spannedTrees rest

end

end Token

namespace Checked

mutual

theorem token_spannedTree : (t : Token) → token t.spannedTree = .ok t
  | .leaf kind text span => by
      rw [Token.spannedTree, token_leaf rfl]
      rfl
  | .group children span => by
      have hchildren := tokensFrom_spannedTrees 0 children
      rw [Token.spannedTree, token_group rfl]
      show under (.kind .group) ((both (.ok span) (under (.field "children")
        (tokensFrom 0 (Token.spannedTrees children)))).map _) = _
      rw [hchildren]
      rfl

/-- What is written of tokens is checked to be these tokens, at whatever index it stands. -/
theorem tokensFrom_spannedTrees (index : Nat) :
    (tokens : List Token) → tokensFrom index (Token.spannedTrees tokens) = .ok tokens
  | [] => by rw [Token.spannedTrees, tokensFrom]
  | t :: rest => by
      rw [Token.spannedTrees, tokensFrom, token_spannedTree t,
        tokensFrom_spannedTrees (index + 1) rest]
      rfl

end

/-- Tokens written with their spans are read again. A value gives a token just if no issue is
found, and the issues are the faults of the tokens in it: each fault of each of them is found, its
path leads to what has the fault, and no two are at one place. -/
theorem token_reports :
    (∀ t : Token, token t.spannedTree = .ok t) ∧
    ∀ value : Json,
      ((∃ t, token value = .ok t) ↔ issues (token value) = []) ∧
      (∀ issue, issue ∈ issues (token value) ↔ ∃ path inner steps, Node value path inner ∧
        OwnFault inner steps issue.fault ∧ issue.path = path ++ steps) ∧
      (∀ issue ∈ issues (token value), PointsAt value (untagged issue.path) issue.fault) ∧
      (places (issues (token value))).Nodup := by
  refine ⟨token_spannedTree, fun value => ⟨⟨?_, telling_token value⟩, fun issue =>
    ⟨exists_node_of_mem_issues, ?_⟩, fun issue hissue => ?_, nodup_places_token value⟩⟩
  · rintro ⟨t, ht⟩
    rw [ht, issues_ok]
  · rintro ⟨path, inner, steps, hnode, hfault, hpath⟩
    have hmem := hnode.mem_issues hfault
    rwa [← hpath] at hmem
  · obtain ⟨path, inner, steps, hnode, hfault, hpath⟩ := exists_node_of_mem_issues hissue
    rw [hpath, untagged_append]
    exact hfault.pointsAt hnode.at?_untagged

/-- A group without its start, in it a number with a start that is no integer, and in a group in
it a token without a kind. -/
theorem token_reports_nested :
    let value : Json := .obj [("kind", .str "group"), ("end", .int 5), ("children", .arr [
      .obj [("kind", .str "number"), ("text", .str "1"), ("start", .str "x"), ("end", .int 2)],
      .obj [("kind", .str "group"), ("start", .int 2), ("end", .int 5), ("children", .arr [
        .obj [("text", .str "A1")]])]])]
    issues (token value) = [⟨.missing, [.kind .group, .field "start"]⟩,
        ⟨.notIntegerText,
          [.kind .group, .field "children", .item 0, .kind (.leaf .number), .field "start"]⟩,
        ⟨.kindMissing,
          [.kind .group, .field "children", .item 1, .kind .group, .field "children", .item 0]⟩] ∧
      (∀ t, token value ≠ .ok t) ∧
      PointsAt value [.field "start"] .missing ∧
      PointsAt value [.field "children", .item 0, .field "start"] .notIntegerText ∧
      PointsAt value [.field "children", .item 1, .field "children", .item 0] .kindMissing := by
  intro value
  have hissues : issues (token value) = [⟨.missing, [.kind .group, .field "start"]⟩,
      ⟨.notIntegerText,
        [.kind .group, .field "children", .item 0, .kind (.leaf .number), .field "start"]⟩,
      ⟨.kindMissing,
        [.kind .group, .field "children", .item 1, .kind .group, .field "children", .item 0]⟩] := by
    cbv
  obtain ⟨hok, -, hpoints, -⟩ := token_reports.2 value
  rw [hissues] at hok hpoints
  simp only [List.forall_mem_cons] at hpoints
  obtain ⟨hmissing, hstart, hkind, -⟩ := hpoints
  refine ⟨hissues, fun t ht => ?_, hmissing, hstart, hkind⟩
  exact absurd (hok.1 ⟨t, ht⟩) (List.cons_ne_nil _ _)

end Checked

end FormulaLexer
