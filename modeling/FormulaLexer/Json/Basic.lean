/-!
Values of the JSON data format.
-/

namespace FormulaLexer

/-- A value. The fields of an object are in the order in which they are written. -/
inductive Json where
  | null
  | bool (value : Bool)
  /-- A number that is written without a point and an exponent. -/
  | int (value : Int)
  /-- The number `mantissa` times ten to the `exponent`. -/
  | decimal (mantissa : Int) (exponent : Int)
  | str (value : String)
  | arr (items : List Json)
  | obj (fields : List (String × Json))
  deriving Repr, Inhabited

namespace Json

/-- The value of a field of an object. Of two fields with the same name the later one counts. -/
def field? (fields : List (String × Json)) (name : String) : Option Json :=
  fields.reverse.lookup name

theorem mem_of_lookup {fields : List (String × Json)} {name : String} {value : Json}
    (h : fields.lookup name = some value) : (name, value) ∈ fields := by
  induction fields with
  | nil => simp at h
  | cons head rest ih =>
      obtain ⟨key, first⟩ := head
      simp only [List.lookup_cons] at h
      split at h
      · next heq =>
          cases h
          simp_all
      · simp [ih h]

theorem mem_of_field? {fields : List (String × Json)} {name : String} {value : Json}
    (h : field? fields name = some value) : (name, value) ∈ fields :=
  List.mem_reverse.1 (mem_of_lookup h)

theorem sizeOf_lt_of_field? {fields : List (String × Json)} {name : String} {value : Json}
    (h : field? fields name = some value) : sizeOf value < sizeOf fields := by
  have hmem := List.sizeOf_lt_of_mem (mem_of_field? h)
  simp only [Prod.mk.sizeOf_spec] at hmem
  omega

end Json

end FormulaLexer
