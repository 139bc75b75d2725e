import Mathlib.Data.List.Basic
import RetainerTable.Proofs.NameMap
import RetainerTable.Table.Basic

namespace RetainerTable.Table

variable {associations : Associations} {derived : NameMap Inherited} {table : Table} {row : Row}

private theorem get?_combine (associations : Associations) (derived : NameMap Inherited) (name : String) :
    (combine associations derived).get? name =
      ((derived.get? name).map fun inherited =>
        (inherited.retainer, Origin.derived inherited.ancestor)).or
      ((associations.get? name).map fun retainer => (retainer, Origin.explicit)) := by
  have hown := NameMap.get?_foldl_insertRows (fun retainer => (retainer, Origin.explicit)) name
    associations.toList associations.nodup_names .empty
  rw [combine, NameMap.get?_foldl_insertRows
    (fun inherited : Inherited => (inherited.retainer, Origin.derived inherited.ancestor)) name
    derived.toList derived.nodup_names, NameMap.ofList, List.foldl_map, hown, NameMap.get?_empty,
    Option.or_none]
  rfl

/-- The rows of a map are its answers. -/
theorem mem_rows_ofMap {m : NameMap (Source.Path × Origin)} :
    row ∈ (ofMap m).rows ↔ m.get? row.typeName = some (row.retainer, row.origin) := by
  rw [← NameMap.mem_toList_iff]
  simp only [ofMap, List.mem_toArray, List.mem_map]
  constructor
  · rintro ⟨⟨name, retainer, origin⟩, hmem, rfl⟩
    exact hmem
  · intro hmem
    exact ⟨_, hmem, rfl⟩

/-- No name is in both maps. -/
def Disjoint (associations : Associations) (derived : NameMap Inherited) : Prop :=
  ∀ name inherited, derived.get? name = some inherited → associations.get? name = none

theorem overlap?_eq_none_iff : overlap? associations derived = none ↔
    Disjoint associations derived := by
  simp only [overlap?, List.findSome?_eq_none_iff, Option.map_eq_none_iff, Disjoint, Prod.forall,
    NameMap.mem_toList_iff]

/-- Maps without a common name are merged. -/
theorem merge_of_disjoint (hdisjoint : Disjoint associations derived) :
    merge associations derived = .ok (ofMap (combine associations derived)) := by
  rw [merge, overlap?_eq_none_iff.mpr hdisjoint]

theorem disjoint_of_merge (hmerge : merge associations derived = .ok table) :
    Disjoint associations derived ∧ table = ofMap (combine associations derived) := by
  unfold merge at hmerge
  split at hmerge
  next => cases hmerge
  next hnone =>
    cases hmerge
    exact ⟨overlap?_eq_none_iff.mp hnone, rfl⟩

/-- A merged table holds a row for each association and one for each derived retainer. -/
theorem mem_rows_of_merge (hmerge : merge associations derived = .ok table) :
    row ∈ table.rows ↔
      associations.get? row.typeName = some row.retainer ∧ row.origin = .explicit ∨
      ∃ inherited, derived.get? row.typeName = some inherited ∧
        row.retainer = inherited.retainer ∧ row.origin = .derived inherited.ancestor := by
  obtain ⟨hdisjoint, rfl⟩ := disjoint_of_merge hmerge
  rw [mem_rows_ofMap, get?_combine]
  cases hderived : derived.get? row.typeName with
  | none =>
    cases hown : associations.get? row.typeName with
    | none => simp
    | some retainer => simp [eq_comm]
  | some inherited => simp [hdisjoint _ _ hderived, eq_comm]

/-- Tables with the same rows are the same table. -/
theorem eq_of_mem_rows_iff {table₁ table₂ : Table}
    (hrows : ∀ row, row ∈ table₁.rows ↔ row ∈ table₂.rows) : table₁ = table₂ := by
  have hasc : ∀ table : Table, (table.rows.toList.map fun row => (row.typeName, row)).Pairwise
      fun a b => a.1 < b.1 := by
    intro table
    rw [List.pairwise_map]
    exact table.ascending
  have hlists := NameMap.eq_of_ascending (hasc table₁) (hasc table₂) fun ⟨name, row⟩ => by
    simp [hrows]
  have hinjective : Function.Injective fun row : Row => (row.typeName, row) :=
    fun row₁ row₂ heq => (Prod.mk.inj heq).2
  have heq := List.map_injective_iff.mpr hinjective hlists
  cases table₁
  cases table₂
  simpa using heq

theorem nodup_rows (table : Table) : table.rows.toList.Nodup := by
  refine table.ascending.imp fun {a b} hlt heq => ?_
  rw [heq] at hlt
  exact String.lt_irrefl _ hlt

/-- A table with one row more than another, for a type that the other has no row for. -/
theorem perm_cons_of_mem_rows_iff {table₁ table₂ : Table} {added : Row}
    (hfresh : ∀ row ∈ table₁.rows, row.typeName ≠ added.typeName)
    (hrows : ∀ row, row ∈ table₂.rows ↔ row = added ∨ row ∈ table₁.rows) :
    table₂.rows.toList.Perm (added :: table₁.rows.toList) := by
  have hnotMem : added ∉ table₁.rows.toList := by
    intro hmem
    exact hfresh added (Array.mem_toList_iff.mp hmem) rfl
  have hnodup := List.nodup_cons.mpr ⟨hnotMem, table₁.nodup_rows⟩
  rw [List.perm_ext_iff_of_nodup table₂.nodup_rows hnodup]
  intro row
  rw [List.mem_cons, Array.mem_toList_iff, Array.mem_toList_iff, hrows]

theorem mem_rows_iff : row ∈ table.rows ↔ table.row? row.typeName = some row := by
  rw [row?_eq_some_iff, and_iff_left rfl]

/-- The same, told from what the tables answer. -/
theorem perm_cons_of_row? {table₁ table₂ : Table} {added : Row}
    (hfresh : ∀ row ∈ table₁.rows, row.typeName ≠ added.typeName)
    (hadded : table₂.row? added.typeName = some added)
    (hkept : ∀ name, name ≠ added.typeName → table₂.row? name = table₁.row? name) :
    table₂.rows.toList.Perm (added :: table₁.rows.toList) := by
  refine perm_cons_of_mem_rows_iff hfresh fun row => ?_
  by_cases hname : row.typeName = added.typeName
  · have hold : row ∉ table₁.rows := fun hrow => hfresh row hrow hname
    rw [mem_rows_iff, hname, hadded, or_iff_left hold, Option.some_inj, eq_comm]
  · have hne : row ≠ added := by
      rintro rfl
      exact hname rfl
    rw [mem_rows_iff, hkept _ hname, ← mem_rows_iff, or_iff_right hne]

end RetainerTable.Table
