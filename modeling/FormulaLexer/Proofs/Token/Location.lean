import FormulaLexer.Token.Basic

/-!
Where the tokens of a tree stand: the groups around a token, and the siblings behind it and behind
each of those groups.
-/

namespace FormulaLexer.Token

/-- A token in a list of siblings, with the siblings behind it. -/
structure Place where
  token : Token
  later : List Token

/-- A token in a tree: its place, and the places of the groups around it, from the outermost
in. -/
structure Location where
  around : List Place
  here : Place

namespace Location

/-- A location among the children of a group, seen from where the group stands. -/
def inside (group : Place) (location : Location) : Location :=
  { location with around := group :: location.around }

/-- What the token at a location says of itself, where the tree stands in `depth` groups. -/
def entry (depth : Nat) (location : Location) : Entry :=
  ⟨depth + location.around.length, location.here.token.kind, location.here.token.text?,
    location.here.token.span⟩

theorem entry_inside (depth : Nat) (group : Place) (location : Location) :
    entry depth (location.inside group) = entry (depth + 1) location := by
  simp only [entry, inside, List.length_cons, Entry.mk.injEq, and_self, and_true]
  omega

end Location

/-- The location is one of the tree: each place is one of its list of siblings, and all of them but
the first stand among the children of the group before. -/
inductive Stands : List Token → Location → Prop
  | here {tokens place} (h : place.token :: place.later <:+ tokens) : Stands tokens ⟨[], place⟩
  | inside {tokens children span later location}
      (hgroup : .group children span :: later <:+ tokens) (h : Stands children location) :
      Stands tokens (location.inside ⟨.group children span, later⟩)

/-- The locations of a tree, each group before its children. -/
def locations : List Token → List Location
  | [] => []
  | leaf kind text span :: rest => ⟨[], ⟨leaf kind text span, rest⟩⟩ :: locations rest
  | group children span :: rest =>
      ⟨[], ⟨group children span, rest⟩⟩ ::
        (locations children).map (Location.inside ⟨group children span, rest⟩) ++ locations rest

theorem Stands.of_suffix {tokens tokens' : List Token} {location : Location}
    (h : Stands tokens location) (hsuffix : tokens <:+ tokens') : Stands tokens' location := by
  cases h with
  | here hplace => exact .here (hplace.trans hsuffix)
  | inside hgroup h => exact .inside (hgroup.trans hsuffix) h

theorem stands_of_mem_locations {tokens : List Token} {location : Location}
    (h : location ∈ locations tokens) : Stands tokens location := by
  fun_induction locations tokens generalizing location with
  | case1 => contradiction
  | case2 kind text span rest ih =>
      rcases List.mem_cons.1 h with rfl | h
      · exact .here (List.suffix_refl _)
      · exact (ih h).of_suffix (List.suffix_cons _ _)
  | case3 children span rest ihchildren ih =>
      rcases List.mem_append.1 h with h | h
      · rcases List.mem_cons.1 h with rfl | h
        · exact .here (List.suffix_refl _)
        · obtain ⟨inner, hinner, rfl⟩ := List.mem_map.1 h
          exact .inside (List.suffix_refl _) (ihchildren hinner)
      · exact (ih h).of_suffix (List.suffix_cons _ _)

theorem mem_locations_of_suffix {tokens tokens' : List Token} {location : Location}
    (h : tokens <:+ tokens') (hlocation : location ∈ locations tokens) :
    location ∈ locations tokens' := by
  obtain ⟨before, rfl⟩ := h
  induction before with
  | nil => exact hlocation
  | cons token before ih =>
      rw [List.cons_append]
      cases token with
      | leaf kind text span =>
          rw [locations]
          exact List.mem_cons_of_mem _ ih
      | group children span =>
          rw [locations]
          exact List.mem_append_right _ ih

/-- The locations that are listed are those of the tree. -/
theorem mem_locations_iff {tokens : List Token} {location : Location} :
    location ∈ locations tokens ↔ Stands tokens location := by
  refine ⟨stands_of_mem_locations, fun h => ?_⟩
  induction h with
  | @here tokens place h =>
      apply mem_locations_of_suffix h
      obtain ⟨token, later⟩ := place
      cases token with
      | leaf kind text span =>
          rw [locations]
          exact List.mem_cons_self
      | group children span =>
          rw [locations]
          exact List.mem_append_left _ List.mem_cons_self
  | inside hgroup _ ih =>
      apply mem_locations_of_suffix hgroup
      rw [locations]
      exact List.mem_append_left _ (List.mem_cons_of_mem _ (List.mem_map_of_mem ih))

/-- The locations stand in the order of the entries. -/
theorem map_entry_locations (depth : Nat) (tokens : List Token) :
    (locations tokens).map (Location.entry depth) = entries depth tokens := by
  fun_induction entries depth tokens with
  | case1 depth => rw [locations, List.map_nil]
  | case2 depth kind text span rest ih =>
      rw [locations, List.map_cons, ih]
      rfl
  | case3 depth children span rest ihchildren ih =>
      have hchildren : ((locations children).map
          (Location.inside ⟨group children span, rest⟩)).map (Location.entry depth) =
            entries (depth + 1) children := by
        rw [← ihchildren, List.map_map]
        exact List.map_congr_left fun location _ => Location.entry_inside depth _ location
      rw [locations, List.map_append, List.map_cons, hchildren, ih]
      rfl

end FormulaLexer.Token
