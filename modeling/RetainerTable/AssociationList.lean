namespace RetainerTable.AssociationList

variable {κ α : Type} [BEq κ] [LawfulBEq κ] [DecidableEq κ]

theorem lookup_cons_eq (query : κ) (row : κ × α) (rows : List (κ × α)) :
    (row :: rows).lookup query = if query = row.1 then some row.2 else rows.lookup query := by
  rw [List.lookup_cons]
  by_cases h : query = row.1
  · simp [h]
  · simp [h, beq_eq_false_iff_ne.mpr h]

omit [DecidableEq κ] in
theorem mem_of_lookup {query : κ} {answer : α} {rows : List (κ × α)}
    (hlookup : rows.lookup query = some answer) : (query, answer) ∈ rows := by
  obtain ⟨before, after, rfl, -⟩ := List.lookup_eq_some_iff.mp hlookup
  simp

/-- Dropping the rows of one key leaves the answers for all others. -/
theorem lookup_filter_ne {key query : κ} (hne : query ≠ key) :
    (rows : List (κ × α)) → (rows.filter (·.1 ≠ key)).lookup query = rows.lookup query
  | [] => rfl
  | row :: rows => by
    have ih := lookup_filter_ne hne rows
    by_cases hrow : row.1 = key
    · have hquery : query ≠ row.1 := hrow ▸ hne
      rw [List.filter_cons_of_neg (by simp [hrow]), ih, lookup_cons_eq, if_neg hquery]
    · rw [List.filter_cons_of_pos (by simp [hrow]), lookup_cons_eq, lookup_cons_eq, ih]

end RetainerTable.AssociationList
