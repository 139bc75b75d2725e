import Mathlib.Data.List.Nodup
import RetainerTable.Proofs.Table.Merge
import RetainerTable.Proofs.Text.ByteOrder

/-!
What merging two maps comes to, whether or not they share a name.

Maps that share a name are refused for the least that they share (`overlap?_eq_some_iff`). Other maps
make a table that holds the entries of both once each (`perm_rowsOf`), and since their names differ
there is one way to put them in order, whatever sorts them (`eq_rows_of_sorted`). `merge_outcome` says
both, in the order of the names' bytes.
-/

namespace RetainerTable.Table

open RetainerTable.Text

variable {associations : Associations} {derived : NameMap Inherited} {table : Table} {name : String}

/-- Both maps give the name something. -/
def Shared (associations : Associations) (derived : NameMap Inherited) (name : String) : Prop :=
  ∃ own inherited, associations.get? name = some own ∧ derived.get? name = some inherited

private theorem disjoint_iff_not_shared :
    Disjoint associations derived ↔ ¬∃ name, Shared associations derived name := by
  constructor
  · rintro hdisjoint ⟨name, own, inherited, hown, hinherited⟩
    rw [hdisjoint name inherited hinherited] at hown
    cases hown
  · intro hnone name inherited hinherited
    refine Option.eq_none_iff_forall_ne_some.mpr fun own hown => ?_
    exact hnone ⟨name, own, inherited, hown, hinherited⟩

/-- The scan stops at the least name that is shared. -/
theorem overlap?_eq_some_iff {own retainer : Source.Path} :
    overlap? associations derived = some (name, own, retainer) ↔
      ∃ inherited, associations.get? name = some own ∧ derived.get? name = some inherited ∧
        inherited.retainer = retainer ∧ ∀ other, Shared associations derived other → ¬other < name := by
  rw [overlap?, List.findSome?_eq_some_iff]
  constructor
  · rintro ⟨before, ⟨name', inherited⟩, behind, hsplit, hfound, hbefore⟩
    obtain ⟨own', hown, heq⟩ := Option.map_eq_some_iff.mp hfound
    obtain ⟨rfl, rfl, rfl⟩ : name' = name ∧ own' = own ∧ inherited.retainer = retainer := by
      simpa using heq
    have hin : (name', inherited) ∈ derived.toList := by simp [hsplit]
    refine ⟨inherited, hown, NameMap.mem_toList_iff.mp hin, rfl, ?_⟩
    rintro other ⟨_, inherited', hother, hinherited'⟩ hlt
    have hasc := derived.ascending
    rw [hsplit, List.pairwise_append, List.pairwise_cons] at hasc
    have hmem := NameMap.mem_toList_iff.mpr hinherited'
    rw [hsplit, List.mem_append, List.mem_cons] at hmem
    -- An entry with a lesser name stands in front, where nothing is shared.
    rcases hmem with hmem | heq | hmem
    · have hnone := hbefore _ hmem
      simp [hother] at hnone
    · obtain ⟨rfl, -⟩ := Prod.mk.inj heq
      exact String.lt_irrefl _ hlt
    · exact String.lt_asymm hlt (hasc.2.1.1 _ hmem)
  · rintro ⟨inherited, hown, hinherited, rfl, hleast⟩
    obtain ⟨before, behind, hsplit⟩ := List.append_of_mem (NameMap.mem_toList_iff.mpr hinherited)
    refine ⟨before, (name, inherited), behind, hsplit, by simp [hown], ?_⟩
    rintro ⟨other, inherited'⟩ hmem
    have hin : (other, inherited') ∈ derived.toList := by simp [hsplit, hmem]
    have hasc := derived.ascending
    rw [hsplit, List.pairwise_append] at hasc
    have hlt : other < name := hasc.2.2 _ hmem _ (List.mem_cons_self ..)
    rw [Option.map_eq_none_iff]
    refine Option.eq_none_iff_forall_ne_some.mpr fun own' hother => ?_
    exact hleast other ⟨own', inherited', hother, NameMap.mem_toList_iff.mp hin⟩ hlt

private theorem merge_eq_error_iff {error : Error} : merge associations derived = .error error ↔
    ∃ name own retainer, overlap? associations derived = some (name, own, retainer) ∧
      error = .mergeConflict name own retainer := by
  unfold merge
  cases overlap? associations derived with
  | none => simp
  | some found => simp [Prod.ext_iff, eq_comm]

private theorem exists_merge_error_iff : (∃ error, merge associations derived = .error error) ↔
    ∃ name, Shared associations derived name := by
  rw [← not_iff_not, ← disjoint_iff_not_shared, ← overlap?_eq_none_iff]
  simp only [merge_eq_error_iff]
  cases overlap? associations derived with
  | none => simp
  | some found => simpa using ⟨found.1, found.2.1, found.2.2, rfl⟩

/-- The row of an associated type. -/
def ownRow (name : String) (retainer : Source.Path) : Row :=
  ⟨name, retainer, .explicit⟩

/-- The row of a type that inherits. -/
def inheritedRow (name : String) (inherited : Inherited) : Row :=
  ⟨name, inherited.retainer, .derived inherited.ancestor⟩

/-- A row for each entry of the maps, one map behind the other. -/
def rowsOf (associations : Associations) (derived : NameMap Inherited) : List Row :=
  associations.toList.map (fun entry => ownRow entry.1 entry.2) ++
    derived.toList.map fun entry => inheritedRow entry.1 entry.2

private theorem mem_rowsOf_iff {row : Row} : row ∈ rowsOf associations derived ↔
    associations.get? row.typeName = some row.retainer ∧ row.origin = .explicit ∨
      ∃ inherited, derived.get? row.typeName = some inherited ∧
        row.retainer = inherited.retainer ∧ row.origin = .derived inherited.ancestor := by
  obtain ⟨name, retainer, origin⟩ := row
  simp only [rowsOf, List.mem_append, List.mem_map, Prod.exists, NameMap.mem_toList_iff, ownRow,
    inheritedRow, Row.mk.injEq]
  constructor
  · rintro (⟨_, _, hget, rfl, rfl, rfl⟩ | ⟨_, inherited, hget, rfl, rfl, rfl⟩)
    · exact .inl ⟨hget, rfl⟩
    · exact .inr ⟨inherited, hget, rfl, rfl⟩
  · rintro (⟨hget, rfl⟩ | ⟨inherited, hget, rfl, rfl⟩)
    · exact .inl ⟨name, retainer, hget, rfl, rfl, rfl⟩
    · exact .inr ⟨name, inherited, hget, rfl, rfl, rfl⟩

private theorem map_typeName_rowsOf : (rowsOf associations derived).map Row.typeName =
    associations.names ++ derived.names := by
  simp [rowsOf, NameMap.names, ownRow, inheritedRow, Function.comp_def]

private theorem nodup_rowsOf (hdisjoint : Disjoint associations derived) :
    (rowsOf associations derived).Nodup := by
  have hnames : (associations.names ++ derived.names).Nodup := by
    refine List.nodup_append.mpr ⟨associations.nodup_names, derived.nodup_names, ?_⟩
    rintro name hown other hinherited rfl
    obtain ⟨own, hown⟩ := NameMap.mem_names_iff.mp hown
    obtain ⟨inherited, hinherited⟩ := NameMap.mem_names_iff.mp hinherited
    exact disjoint_iff_not_shared.mp hdisjoint ⟨name, own, inherited, hown, hinherited⟩
  rw [← map_typeName_rowsOf] at hnames
  exact List.Nodup.of_map _ hnames

/-- The table holds the entries of both maps, each once. -/
theorem perm_rowsOf (hmerge : merge associations derived = .ok table) :
    table.rows.toList.Perm (rowsOf associations derived) := by
  have hnodup := nodup_rowsOf (disjoint_of_merge hmerge).1
  rw [List.perm_ext_iff_of_nodup table.nodup_rows hnodup]
  intro row
  rw [Array.mem_toList_iff, mem_rows_of_merge hmerge, mem_rowsOf_iff]

private theorem eq_of_typeName_eq {first second : Row} (hfirst : first ∈ table.rows)
    (hsecond : second ∈ table.rows) (hname : first.typeName = second.typeName) :
    first = second := by
  have hfound := mem_rows_iff.mp hfirst
  rw [hname, mem_rows_iff.mp hsecond] at hfound
  exact (Option.some.inj hfound).symm

/-- The rows of a table can be put in order in one way only. -/
theorem eq_rows_of_sorted {rows : List Row} (hperm : rows.Perm table.rows.toList)
    (hsorted : rows.Pairwise fun a b => ¬b.typeName < a.typeName) : rows = table.rows.toList := by
  have hasc : table.rows.toList.Pairwise fun a b => ¬b.typeName < a.typeName :=
    table.ascending.imp fun hlt => String.lt_asymm hlt
  refine List.Perm.eq_of_pairwise (fun a b ha hb hab hba => ?_) hsorted hasc hperm
  have hname := String.le_antisymm (String.not_lt.mp hab) (String.not_lt.mp hba)
  exact eq_of_typeName_eq (Array.mem_toList_iff.mp (hperm.mem_iff.mp ha))
    (Array.mem_toList_iff.mp hb) hname

private theorem row?_of_merge (hmerge : merge associations derived = .ok table) (name : String) :
    table.row? name = ((associations.get? name).map (ownRow name)).or
      ((derived.get? name).map (inheritedRow name)) := by
  have hdisjoint := (disjoint_of_merge hmerge).1
  refine Option.ext fun row => ?_
  rw [row?_eq_some_iff, mem_rows_of_merge hmerge]
  constructor
  · rintro ⟨⟨hget, horigin⟩ | ⟨inherited, hget, hretainer, horigin⟩, rfl⟩
    · simp [hget, ownRow, ← horigin]
    · simp [hget, hdisjoint _ _ hget, inheritedRow, ← hretainer, ← horigin]
  · intro hrow
    rcases Option.or_eq_some_iff.mp hrow with hrow | ⟨-, hrow⟩
    · obtain ⟨retainer, hget, rfl⟩ := Option.map_eq_some_iff.mp hrow
      exact ⟨.inl ⟨hget, rfl⟩, rfl⟩
    · obtain ⟨inherited, hget, rfl⟩ := Option.map_eq_some_iff.mp hrow
      exact ⟨.inr ⟨inherited, hget, rfl, rfl⟩, rfl⟩

private theorem size_of_merge (hmerge : merge associations derived = .ok table) :
    table.size = associations.size + derived.size := by
  have hlength := (perm_rowsOf hmerge).length_eq
  simpa [rowsOf, size, NameMap.size] using hlength

private theorem explicitCount_of_merge (hmerge : merge associations derived = .ok table) :
    table.explicitCount = associations.size := by
  rw [explicitCount, (perm_rowsOf hmerge).countP_eq]
  simp [rowsOf, NameMap.size, ownRow, inheritedRow, List.countP_map, Function.comp_def]

private theorem derivedCount_of_merge (hmerge : merge associations derived = .ok table) :
    table.derivedCount = derived.size := by
  rw [derivedCount, size_of_merge hmerge, explicitCount_of_merge hmerge]
  omega

/-- Maps are refused exactly if they share a name, and then for the shared name whose bytes come first,
    with the retainer that either gives it. Otherwise the table holds the entries of both once each,
    with ascending names, and whatever puts them in order comes to the same rows. A look-up answers
    as the maps do, and the counts are the sizes of the maps. -/
theorem merge_outcome (associations : Associations) (derived : NameMap Inherited) :
    ((∃ error, merge associations derived = .error error) ↔
      ∃ name, Shared associations derived name) ∧
    (∀ error, merge associations derived = .error error ↔ ∃ name own inherited,
      associations.get? name = some own ∧ derived.get? name = some inherited ∧
      (∀ other, Shared associations derived other → other ≠ name → utf8 name < utf8 other) ∧
      error = .mergeConflict name own inherited.retainer) ∧
    ∀ table, merge associations derived = .ok table →
      (table.rows.toList.Pairwise fun a b => utf8 a.typeName < utf8 b.typeName) ∧
      table.rows.toList.Perm (rowsOf associations derived) ∧
      (∀ rows : List Row, rows.Perm (rowsOf associations derived) →
        (rows.Pairwise fun a b => ¬utf8 b.typeName < utf8 a.typeName) →
        rows = table.rows.toList) ∧
      (∀ name, table.row? name = ((associations.get? name).map (ownRow name)).or
          ((derived.get? name).map (inheritedRow name)) ∧
        table.get? name = (associations.get? name).or
          ((derived.get? name).map Inherited.retainer)) ∧
      table.size = associations.size + derived.size ∧
      table.explicitCount = associations.size ∧ table.derivedCount = derived.size := by
  refine ⟨exists_merge_error_iff, fun error => ?_, fun table hmerge => ⟨?_, perm_rowsOf hmerge,
    fun rows hperm hsorted => ?_, fun name => ⟨row?_of_merge hmerge name, ?_⟩,
    size_of_merge hmerge, explicitCount_of_merge hmerge, derivedCount_of_merge hmerge⟩⟩
  · rw [merge_eq_error_iff]
    simp only [overlap?_eq_some_iff, ← lt_iff_utf8_lt]
    constructor
    · rintro ⟨name, own, _, ⟨inherited, hown, hinherited, rfl, hleast⟩, rfl⟩
      refine ⟨name, own, inherited, hown, hinherited, fun other hother hne => ?_, rfl⟩
      exact NameMap.lt_of_not_lt_of_ne (hleast other hother) hne
    · rintro ⟨name, own, inherited, hown, hinherited, hleast, rfl⟩
      refine ⟨name, own, _, ⟨inherited, hown, hinherited, rfl, fun other hother hlt => ?_⟩, rfl⟩
      exact String.lt_asymm hlt (hleast other hother (String.ne_of_lt hlt))
  · exact table.ascending.imp lt_iff_utf8_lt.mp
  · simp only [← lt_iff_utf8_lt] at hsorted
    exact eq_rows_of_sorted (hperm.trans (perm_rowsOf hmerge).symm) hsorted
  · rw [Table.get?, row?_of_merge hmerge]
    cases associations.get? name with
    | none => simp [inheritedRow, Function.comp_def]
    | some own => simp [ownRow]

/-- Two types, the name of one being the beginning of the other's. -/
def nestedAssociations : Associations :=
  ⟨[("Base", ⟨false, [⟨false, "Own"⟩]⟩), ("Basement", ⟨false, [⟨false, "Deep"⟩]⟩)], by decide⟩

/-- A type whose name is the beginning of both. -/
def nestedDerived : NameMap Inherited :=
  ⟨[("Bas", ⟨⟨false, [⟨false, "Own"⟩]⟩, "Base"⟩)], by decide⟩

/-- Both types, as if they inherited too. -/
def clashingDerived : NameMap Inherited :=
  ⟨[("Base", ⟨⟨true, [⟨false, "Own"⟩]⟩, "Bas"⟩), ("Basement", ⟨⟨false, [⟨false, "Own"⟩]⟩, "Base"⟩)],
    by decide⟩

theorem merge_outcome_nested :
    (∃ table, merge nestedAssociations nestedDerived = .ok table ∧ table.size = 3 ∧
      table.explicitCount = 2 ∧ table.derivedCount = 1 ∧
      table.row? "Bas" = some ⟨"Bas", ⟨false, [⟨false, "Own"⟩]⟩, .derived "Base"⟩ ∧
      table.get? "Basement" = some ⟨false, [⟨false, "Deep"⟩]⟩ ∧ table.get? "Basem" = none) ∧
    merge nestedAssociations clashingDerived = .error (.mergeConflict "Base"
      ⟨false, [⟨false, "Own"⟩]⟩ ⟨true, [⟨false, "Own"⟩]⟩) := by
  constructor
  · obtain ⟨-, -, htables⟩ := merge_outcome nestedAssociations nestedDerived
    have hmerge : merge nestedAssociations nestedDerived = .ok _ :=
      merge_of_disjoint (overlap?_eq_none_iff.mp (by decide))
    obtain ⟨-, -, -, hanswers, hsize, hexplicit, hderived⟩ := htables _ hmerge
    exact ⟨_, hmerge, hsize, hexplicit, hderived, (hanswers "Bas").1, (hanswers "Basement").2,
      (hanswers "Basem").2⟩
  · obtain ⟨-, herrors, -⟩ := merge_outcome nestedAssociations clashingDerived
    refine (herrors _).mpr ⟨"Base", _, _, rfl, rfl, ?_, rfl⟩
    rintro other ⟨own, inherited, hown, hinherited⟩ hne
    have hrow := NameMap.mem_toList_iff.mpr hown
    rcases List.mem_cons.mp hrow with heq | hrow
    · exact absurd (Prod.mk.inj heq).1 hne
    · obtain ⟨rfl, -⟩ := Prod.mk.inj (List.mem_singleton.mp hrow)
      exact lt_iff_utf8_lt.mp (by decide)

end RetainerTable.Table
