namespace RetainerTable.Text

/-- A closed range of code points, first and last. -/
abbrev CodeRange := Nat × Nat

/-- Some range of the table holds the character's code point. -/
def inRanges (table : List CodeRange) (c : Char) : Bool :=
  table.any fun range => decide (range.1 ≤ c.toNat ∧ c.toNat ≤ range.2)

theorem inRanges_iff {table : List CodeRange} {c : Char} :
    inRanges table c = true ↔ ∃ range ∈ table, range.1 ≤ c.toNat ∧ c.toNat ≤ range.2 := by
  simp [inRanges]

/-- Every range of one table lies apart from every range of the other. -/
def Apart (first second : List CodeRange) : Bool :=
  first.all fun a => second.all fun b => decide (a.2 < b.1 ∨ b.2 < a.1)

/-- Tables that lie apart share no character. -/
theorem not_inRanges_of_apart {first second : List CodeRange} (happart : Apart first second = true)
    {c : Char} (hfirst : inRanges first c = true) : inRanges second c = false := by
  obtain ⟨a, ha, hlo, hhi⟩ := inRanges_iff.mp hfirst
  rw [← Bool.not_eq_true, inRanges_iff]
  rintro ⟨b, hb, hlo', hhi'⟩
  have happart := of_decide_eq_true (List.all_eq_true.mp (List.all_eq_true.mp happart a ha) b hb)
  omega

end RetainerTable.Text
