import RetainerTable.AssociationList

/-!
Finite maps from names, listed in ascending order of the names.

The order is that of code points, which is also the order of the names' UTF-8 bytes. It is part of
the type, so a map has one representation: two maps that answer every look-up alike are equal
(`NameMap.ext_get?`).
-/

namespace RetainerTable

/-- A map from names, its rows in strictly ascending order. -/
structure NameMap (α : Type) where
  toList : List (String × α)
  ascending : toList.Pairwise fun a b => a.1 < b.1

namespace NameMap

open AssociationList (lookup_cons_eq)

variable {α : Type}

/-- The map with no rows. -/
def empty : NameMap α := ⟨[], .nil⟩

instance : EmptyCollection (NameMap α) := ⟨empty⟩

instance : Inhabited (NameMap α) := ⟨empty⟩

/-- The number of rows. -/
def size (m : NameMap α) : Nat := m.toList.length

def isEmpty (m : NameMap α) : Bool := m.toList.isEmpty

/-- The names, in ascending order. -/
def names (m : NameMap α) : List String := m.toList.map (·.1)

/-- What the map gives a name. -/
def get? (m : NameMap α) (name : String) : Option α := m.toList.lookup name

def contains (m : NameMap α) (name : String) : Bool := (m.get? name).isSome

/-- Puts a row where its name belongs; a row of that name is replaced. -/
def insertRow (name : String) (value : α) : List (String × α) → List (String × α)
  | [] => [(name, value)]
  | row :: rows =>
    if name < row.1 then (name, value) :: row :: rows
    else if name = row.1 then (name, value) :: rows
    else row :: insertRow name value rows

private theorem mem_insertRow {name : String} {value : α} {row : String × α} :
    {rows : List (String × α)} → row ∈ insertRow name value rows →
      row = (name, value) ∨ row ∈ rows
  | [], h => by simpa [insertRow] using h
  | first :: rows, h => by
    unfold insertRow at h
    split at h
    · simpa using h
    · split at h
      · rcases List.mem_cons.mp h with h | h
        · exact .inl h
        · exact .inr (List.mem_cons_of_mem _ h)
      · rcases List.mem_cons.mp h with h | h
        · exact .inr (h ▸ List.mem_cons_self ..)
        · exact (mem_insertRow h).imp id (List.mem_cons_of_mem _)

theorem lt_of_not_lt_of_ne {a b : String} (hlt : ¬a < b) (hne : a ≠ b) : b < a := by
  rcases Decidable.em (b < a) with h | h
  · exact h
  · exact absurd (String.le_antisymm (String.not_lt.mp h) (String.not_lt.mp hlt)) hne

private theorem pairwise_insertRow (name : String) (value : α) : {rows : List (String × α)} →
    rows.Pairwise (fun a b => a.1 < b.1) →
      (insertRow name value rows).Pairwise fun a b => a.1 < b.1
  | [], _ => by simp [insertRow]
  | first :: rows, h => by
    obtain ⟨hfirst, hrows⟩ := List.pairwise_cons.mp h
    unfold insertRow
    split
    next hlt =>
      refine List.pairwise_cons.mpr ⟨fun row hrow => ?_, h⟩
      rcases List.mem_cons.mp hrow with rfl | hrow
      · exact hlt
      · exact String.lt_trans hlt (hfirst row hrow)
    next hlt =>
      split
      next heq => exact List.pairwise_cons.mpr ⟨fun row hrow => heq ▸ hfirst row hrow, hrows⟩
      next hne =>
        refine List.pairwise_cons.mpr ⟨fun row hrow => ?_, pairwise_insertRow name value hrows⟩
        rcases mem_insertRow hrow with rfl | hrow
        · exact lt_of_not_lt_of_ne hlt hne
        · exact hfirst row hrow

/-- The map with the name bound to the value, whatever it was bound to. -/
def insert (m : NameMap α) (name : String) (value : α) : NameMap α :=
  ⟨insertRow name value m.toList, pairwise_insertRow name value m.ascending⟩

/-- The map of a list of rows; of rows with one name the last counts. -/
def ofList (rows : List (String × α)) : NameMap α :=
  rows.foldl (fun m row => m.insert row.1 row.2) empty

private theorem lookup_insertRow (name : String) (value : α) (query : String) :
    (rows : List (String × α)) → (insertRow name value rows).lookup query =
      if query = name then some value else rows.lookup query
  | [] => by rw [insertRow, lookup_cons_eq]
  | first :: rows => by
    unfold insertRow
    split
    · rw [lookup_cons_eq]
    · split
      next heq =>
        simp only [lookup_cons_eq, ← heq]
        split <;> rfl
      next hne =>
        simp only [lookup_cons_eq, lookup_insertRow name value query rows]
        by_cases h : query = name
        · simp [h, hne]
        · simp [h]

@[simp] theorem get?_empty (name : String) : (empty : NameMap α).get? name = none := rfl

/-- An insertion changes the answer for its own name only. -/
theorem get?_insert (m : NameMap α) (name : String) (value : α) (query : String) :
    (m.insert name value).get? query = if query = name then some value else m.get? query :=
  lookup_insertRow name value query m.toList

/-- The rows are the answers. -/
theorem mem_toList_iff {m : NameMap α} {name : String} {value : α} :
    (name, value) ∈ m.toList ↔ m.get? name = some value := by
  obtain ⟨rows, hasc⟩ := m
  simp only [get?]
  induction rows with
  | nil => simp
  | cons first rows ih =>
    obtain ⟨hfirst, hrows⟩ := List.pairwise_cons.mp hasc
    rw [List.mem_cons, ih hrows, lookup_cons_eq]
    by_cases h : name = first.1
    · subst h
      have habsent : rows.lookup first.1 ≠ some value := fun hfound =>
        String.lt_irrefl _ (hfirst (first.1, value) ((ih hrows).mpr hfound))
      simp [habsent, Prod.ext_iff, eq_comm]
    · simp [h, Prod.ext_iff]

@[ext] theorem ext {m₁ m₂ : NameMap α} (h : m₁.toList = m₂.toList) : m₁ = m₂ := by
  cases m₁; cases m₂; cases h; rfl

/-- Ascending lists with the same members are the same list. -/
theorem eq_of_ascending : {rows₁ rows₂ : List (String × α)} →
    rows₁.Pairwise (fun a b => a.1 < b.1) → rows₂.Pairwise (fun a b => a.1 < b.1) →
    (∀ row, row ∈ rows₁ ↔ row ∈ rows₂) → rows₁ = rows₂
  | [], [], _, _, _ => rfl
  | [], row :: _, _, _, h => absurd ((h row).mpr (List.mem_cons_self ..)) (List.not_mem_nil)
  | row :: _, [], _, _, h => absurd ((h row).mp (List.mem_cons_self ..)) (List.not_mem_nil)
  | a :: rows₁, b :: rows₂, h₁, h₂, h => by
    obtain ⟨ha, hrows₁⟩ := List.pairwise_cons.mp h₁
    obtain ⟨hb, hrows₂⟩ := List.pairwise_cons.mp h₂
    have hab : a = b := by
      rcases List.mem_cons.mp ((h a).mp (List.mem_cons_self ..)) with hab | hin
      · exact hab
      · rcases List.mem_cons.mp ((h b).mpr (List.mem_cons_self ..)) with hba | hin'
        · exact hba.symm
        · exact absurd (String.lt_trans (hb a hin) (ha b hin')) (String.lt_irrefl _)
    subst hab
    congr 1
    refine eq_of_ascending hrows₁ hrows₂ fun row => ⟨fun hrow => ?_, fun hrow => ?_⟩
    · rcases List.mem_cons.mp ((h row).mp (List.mem_cons_of_mem _ hrow)) with rfl | hin
      · exact absurd (ha _ hrow) (String.lt_irrefl _)
      · exact hin
    · rcases List.mem_cons.mp ((h row).mpr (List.mem_cons_of_mem _ hrow)) with rfl | hin
      · exact absurd (hb _ hrow) (String.lt_irrefl _)
      · exact hin

/-- Maps that answer every look-up alike are equal. -/
theorem ext_get? {m₁ m₂ : NameMap α} (h : ∀ name, m₁.get? name = m₂.get? name) : m₁ = m₂ := by
  refine ext (eq_of_ascending m₁.ascending m₂.ascending fun ⟨name, value⟩ => ?_)
  rw [mem_toList_iff, mem_toList_iff, h]

end NameMap

end RetainerTable
