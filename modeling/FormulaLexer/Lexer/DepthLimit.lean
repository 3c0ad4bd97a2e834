/-!
How deep groups may stand in each other.
-/

namespace FormulaLexer

/-- The highest limit on the depth of groups. -/
def DepthLimit.highest : Nat := 500

/-- The number of groups that may stand in each other. -/
structure DepthLimit where
  value : Nat
  one_le_value : 1 ≤ value := by decide
  value_le_highest : value ≤ DepthLimit.highest := by decide
  deriving DecidableEq, Repr

namespace DepthLimit

def standard : DepthLimit := { value := 100 }

/-- The limit with a given value, if it is in range. -/
def ofInt? (n : Int) : Option DepthLimit :=
  if h : 1 ≤ n ∧ n ≤ highest then
    some { value := n.toNat, one_le_value := by omega, value_le_highest := by omega }
  else none

@[simp] theorem ofInt?_value (limit : DepthLimit) : ofInt? limit.value = some limit := by
  have h₁ := limit.one_le_value
  have h₂ := limit.value_le_highest
  have h : (1 : Int) ≤ limit.value ∧ (limit.value : Int) ≤ highest := by omega
  simp [ofInt?, h]

theorem ofInt?_eq_none_iff (n : Int) : ofInt? n = none ↔ n < 1 ∨ highest < n := by
  unfold ofInt?
  split <;> simp <;> omega

theorem range_of_ofInt? {n : Int} {limit : DepthLimit} (h : ofInt? n = some limit) :
    (1 ≤ n ∧ n ≤ 500) ∧ limit.value = n := by
  rw [ofInt?] at h
  split at h
  · next hrange =>
      cases h
      exact ⟨hrange, Int.toNat_of_nonneg (by omega)⟩
  · contradiction

theorem not_range_of_ofInt? {n : Int} (h : ofInt? n = none) : ¬ (1 ≤ n ∧ n ≤ 500) := by
  have hout := (ofInt?_eq_none_iff n).1 h
  simp only [highest] at hout
  omega

end DepthLimit

end FormulaLexer
