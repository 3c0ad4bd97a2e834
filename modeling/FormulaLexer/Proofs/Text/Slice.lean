import FormulaLexer.Text.Blank

/-!
Slices of a text, between two positions.
-/

namespace FormulaLexer.Text

/-- The characters of a text from one position up to another. -/
def slice (s : List Char) (start stop : Int) : List Char :=
  (s.take stop.toNat).drop start.toNat

theorem slice_full (s : List Char) : slice s 0 s.length = s := by
  simp [slice]

theorem take_middle (before xs after : List Char) :
    (before ++ xs ++ after).take before.length = before := by
  rw [List.append_assoc, List.take_left]

theorem slice_middle (before xs after : List Char) :
    slice (before ++ xs ++ after) before.length (before ++ xs).length = xs := by
  rw [slice, Int.toNat_natCast, Int.toNat_natCast, List.take_left, List.drop_left]

theorem slice_of_le {s : List Char} {start stop : Int} (h : stop ≤ start) :
    slice s start stop = [] := by
  rw [slice, List.drop_eq_nil_iff, List.length_take]
  omega

theorem length_slice {s : List Char} {start stop : Int} (hstart : 0 ≤ start)
    (hle : start ≤ stop) (hstop : stop ≤ s.length) :
    ((slice s start stop).length : Int) = stop - start := by
  rw [slice, List.length_drop, List.length_take]
  omega

theorem slice_append_slice {s : List Char} {start middle stop : Int} (h₁ : start ≤ middle)
    (h₂ : middle ≤ stop) : slice s start middle ++ slice s middle stop = slice s start stop := by
  have hmiddle : s.take middle.toNat = (s.take stop.toNat).take middle.toNat := by
    rw [List.take_take, Nat.min_eq_left (by omega)]
  rw [slice, hmiddle, slice, slice]
  have hdrop : (s.take stop.toNat).drop middle.toNat =
      ((s.take stop.toNat).drop start.toNat).drop (middle.toNat - start.toNat) := by
    rw [List.drop_drop, Nat.add_sub_cancel' (by omega)]
  rw [hdrop, List.drop_take, List.take_append_drop]

theorem slice_cons {s : List Char} {start stop : Int} (hstart : 0 ≤ start) (hlt : start < stop)
    (hstop : stop ≤ s.length) :
    ∃ c, s[start.toNat]? = some c ∧ slice s start stop = c :: slice s (start + 1) stop := by
  have hlength : start.toNat < (s.take stop.toNat).length := by
    rw [List.length_take]
    omega
  refine ⟨(s.take stop.toNat)[start.toNat], ?_, ?_⟩
  · rw [List.getElem_take, List.getElem?_eq_getElem]
  · rw [slice, List.drop_eq_getElem_cons hlength, slice]
    congr 2
    omega

/-- Where a slice is made of two parts, each part is a slice of its own. -/
theorem slice_eq_append {s xs ys : List Char} {start stop : Int} (hstart : 0 ≤ start)
    (hle : start ≤ stop) (hstop : stop ≤ s.length) (h : slice s start stop = xs ++ ys) :
    start + xs.length ≤ stop ∧ slice s start (start + xs.length) = xs ∧
      slice s (start + xs.length) stop = ys := by
  have hlength := length_slice hstart hle hstop
  rw [h, List.length_append] at hlength
  have hmiddle : start + xs.length ≤ stop := by omega
  have happend : slice s start (start + xs.length) ++ slice s (start + xs.length) stop =
      xs ++ ys := by rw [slice_append_slice (by omega) hmiddle, h]
  have hfront : ((slice s start (start + xs.length)).length : Int) = xs.length := by
    rw [length_slice hstart (by omega) (by omega)]
    omega
  exact ⟨hmiddle, List.append_inj happend (by omega)⟩

/-- What stands between the first and the last character of a slice. -/
theorem slice_interior {s inner : List Char} {first last : Char} {start stop : Int}
    (hstart : 0 ≤ start) (hle : start ≤ stop) (hstop : stop ≤ s.length)
    (h : slice s start stop = first :: inner ++ [last]) :
    slice s (start + 1) (stop - 1) = inner := by
  have hlength := length_slice hstart hle hstop
  rw [h, List.length_append, List.length_cons] at hlength
  obtain ⟨-, hfront, -⟩ := slice_eq_append hstart hle hstop h
  have hend : start + ((first :: inner).length : Int) = stop - 1 := by
    simp only [List.length_cons, List.length_nil] at hlength ⊢
    omega
  rw [hend] at hfront
  rw [← List.singleton_append] at hfront
  exact (slice_eq_append hstart (by omega) (by omega) hfront).2.2

/-! ### Slices between natural positions -/

section

variable {s : List Char} {start stop : Nat}

theorem getElem?_slice {j : Nat} (h : start + j < stop) :
    (slice s start stop)[j]? = s[start + j]? := by
  rw [slice, Int.toNat_natCast, Int.toNat_natCast, List.getElem?_drop, List.getElem?_take_of_lt h]

theorem of_slice_eq_cons {c : Char} {rest : List Char} (h : slice s start stop = c :: rest) :
    start < stop ∧ s[start]? = some c ∧ slice s (start + 1 : Nat) stop = rest := by
  simp only [slice, Int.toNat_natCast] at h ⊢
  have hhead : ((s.take stop).drop start)[0]? = some c := by
    rw [h]
    rfl
  rw [List.getElem?_drop, Nat.add_zero] at hhead
  have hlt := (List.getElem?_eq_some_iff.1 hhead).1
  rw [List.length_take] at hlt
  rw [List.getElem?_take_of_lt (by omega)] at hhead
  refine ⟨by omega, hhead, ?_⟩
  rw [← List.tail_drop, h, List.tail_cons]

theorem of_slice_eq_append {xs ys : List Char} (hle : start ≤ stop) (hstop : stop ≤ s.length)
    (h : slice s start stop = xs ++ ys) :
    start + xs.length ≤ stop ∧ slice s start (start + xs.length : Nat) = xs ∧
      slice s (start + xs.length : Nat) stop = ys := by
  obtain ⟨hmiddle, hfront, hback⟩ :=
    slice_eq_append (Int.natCast_nonneg start) (Int.ofNat_le.2 hle) (Int.ofNat_le.2 hstop) h
  exact ⟨by omega, hfront, hback⟩

/-- The part between two characters of a slice, and the part behind the second one. -/
theorem of_slice_eq_enclosed {first last : Char} {inner after : List Char}
    (hstop : stop ≤ s.length) (h : slice s start stop = first :: inner ++ last :: after) :
    start + (inner.length + 2) ≤ stop ∧
      slice s (start + 1 : Nat) (start + (inner.length + 1) : Nat) = inner ∧
      slice s (start + (inner.length + 2) : Nat) stop = after := by
  obtain ⟨hlt, -, hrest⟩ := of_slice_eq_cons h
  obtain ⟨hmiddle, hinner, hback⟩ := of_slice_eq_append hlt hstop hrest
  have hlast : start + 1 + inner.length = start + (inner.length + 1) := by omega
  rw [hlast] at hmiddle hinner hback
  obtain ⟨hlt', -, hafter⟩ := of_slice_eq_cons hback
  exact ⟨hlt', hinner, hafter⟩

end

end FormulaLexer.Text
