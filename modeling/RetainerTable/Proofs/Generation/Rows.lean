import RetainerTable.Proofs.Generation.Success
import RetainerTable.Proofs.Hierarchy

namespace RetainerTable

variable {settings : Settings} {h : Hierarchy} {associations : Associations} {manifest : Manifest}

/-- The row is the one that the declaration inherits from its nearest associated ancestor. -/
structure Row.InheritedBy (h : Hierarchy) (associations : Associations) (row : Row)
    (d a : Declaration) : Prop where
  declared : d ∈ h.declarations
  candidate : Candidate associations d
  enclosedByClasses : h.EnclosedByClasses d
  inheritsFrom : h.InheritsFrom associations d a
  typeName : row.typeName = d.name
  retainer : associations.get? a.name = some row.retainer
  origin : row.origin = .derived a.name

theorem mem_rows_tableOf {row : Row} : row ∈ (tableOf settings h h.roots associations).rows ↔
    (associations.get? row.typeName = some row.retainer ∧ row.origin = .explicit) ∨
    (settings.vectorizeInheritance = true ∧ ∃ d a, row.InheritedBy h associations d a) := by
  rw [Table.mem_rows_of_merge (merge_inherit settings h h.roots associations)]
  refine or_congr Iff.rfl ?_
  simp only [inherit_get?_iff, Hierarchy.reached_roots_iff]
  constructor
  · rintro ⟨inherited, ⟨henabled, d, hreached, hname, hcandidate, hinherits⟩, hretainer, horigin⟩
    obtain ⟨hmem, henclosed⟩ := hreached
    obtain ⟨a, ha, hget, hancestor⟩ := hinherits
    rw [← hretainer] at hget
    rw [hancestor] at horigin
    exact ⟨henabled, d, a, hmem, hcandidate, henclosed, ha, hname.symm, hget, horigin⟩
  · rintro ⟨henabled, d, a, hrow⟩
    have hreached : d ∈ h.declarations ∧ h.EnclosedByClasses d :=
      ⟨hrow.declared, hrow.enclosedByClasses⟩
    have hinherits : h.Inherits associations d ⟨row.retainer, a.name⟩ :=
      ⟨a, hrow.inheritsFrom, hrow.retainer, rfl⟩
    exact ⟨⟨row.retainer, a.name⟩,
      ⟨henabled, d, hreached, hrow.typeName.symm, hrow.candidate, hinherits⟩, rfl, hrow.origin⟩

/-- A row of a type without an association is inherited. -/
theorem exists_inheritedBy_of_mem_rows {row : Row}
    (hrow : row ∈ (tableOf settings h h.roots associations).rows)
    (hfree : associations.get? row.typeName = none) : ∃ d a, row.InheritedBy h associations d a := by
  rcases mem_rows_tableOf.mp hrow with ⟨hget, -⟩ | ⟨-, hinherited⟩
  · rw [hfree] at hget
    cases hget
  · exact hinherited

theorem typeName_ne_of_mem_rows {name : String} {row : Row} (hfree : associations.get? name = none)
    (hundeclared : ∀ d ∈ h.declarations, d.name ≠ name)
    (hrow : row ∈ (tableOf settings h h.roots associations).rows) : row.typeName ≠ name := by
  rintro rfl
  obtain ⟨d, a, hinherited⟩ := exists_inheritedBy_of_mem_rows hrow hfree
  exact hundeclared d hinherited.declared hinherited.typeName.symm

private theorem Table.nodup_typeNames (table : Table) :
    (table.rows.toList.map Row.typeName).Nodup := by
  rw [List.Nodup, List.pairwise_map]
  refine table.ascending.imp fun {a b} hlt heq => ?_
  rw [heq] at hlt
  exact String.lt_irrefl _ hlt

/-- A valid input generates a table with exactly these rows, no two of one type: the explicit row of
    each association, and, exactly if inheritance is enabled, the row that each unassociated class nested
    in classes only inherits from the first associated declaration above it. A type without an
    association whose way up comes to nothing has no row. -/
theorem generateFromManifest_rows (hmanifest : Hierarchy.ofManifest manifest = .ok h)
    (hassociations : Associations.collect manifest.associations = .ok associations)
    (hsettings : settings.validate = .ok ()) :
    ∃ generation, generateFromManifest settings manifest = .ok generation ∧
      (generation.table.rows.toList.map Row.typeName).Nodup ∧
      (∀ row, row ∈ generation.table.rows ↔
        (associations.get? row.typeName = some row.retainer ∧ row.origin = .explicit) ∨
        (settings.vectorizeInheritance = true ∧ ∃ d a, row.InheritedBy h associations d a)) ∧
      ∀ d ∈ h.declarations, associations.get? d.name = none → h.Unresolved associations d →
        ∀ row ∈ generation.table.rows, row.typeName ≠ d.name := by
  have hgenerated : generateFromManifest settings manifest =
      .ok (generated settings h h.roots associations (Associations.notes manifest.associations)) :=
    generateFromManifest_eq_ok_iff.mpr ⟨h, hmanifest, hsettings, associations, hassociations, rfl⟩
  refine ⟨_, hgenerated, Table.nodup_typeNames _, fun row => mem_rows_tableOf, ?_⟩
  intro d hmem hfree hunresolved row hrow hname
  rcases mem_rows_tableOf.mp hrow with ⟨hget, -⟩ | ⟨-, d', a, hrow⟩
  · rw [hname, hfree] at hget
    cases hget
  · obtain rfl := Hierarchy.eq_of_name_eq hrow.declared hmem (hrow.typeName.symm.trans hname)
    exact Hierarchy.not_inheritsFrom_of_unresolved hunresolved hrow.inheritsFrom

/-- A small model: `Leaf` is nested in `Mid` and inherits through it from `Base`, whose association
    is padded; `Loop` is its own superclass; `Item` is nested in an interface and `Knot` in itself. -/
def sampleManifest : Manifest where
  types := [⟨"Leaf", .ordinary, "Mid< X<Y>, Z >", " Mid"⟩, ⟨" Mid ", .ordinary, "Base<T>", none⟩,
    ⟨"Base", .interface, none, none⟩, ⟨"Loop", .ordinary, "Loop", none⟩,
    ⟨"Item", .ordinary, "Base", "Base"⟩, ⟨"Knot", .ordinary, "Base", "Knot"⟩]
  associations := [(" Base", "a :: B"), ("Base", "a::B")]

def sampleDeclarations : List Declaration :=
  [⟨"Leaf", .ordinary, some ⟨"Mid", ["X<Y>", "Z"]⟩, some "Mid"⟩,
   ⟨"Mid", .ordinary, some ⟨"Base", ["T"]⟩, none⟩, ⟨"Base", .interface, none, none⟩,
   ⟨"Loop", .ordinary, some ⟨"Loop", []⟩, none⟩,
   ⟨"Item", .ordinary, some ⟨"Base", []⟩, some "Base"⟩,
   ⟨"Knot", .ordinary, some ⟨"Base", []⟩, some "Knot"⟩]

def sampleHierarchy : Hierarchy where
  declarations := sampleDeclarations
  distinct := by decide +kernel
  enclosed := by decide +kernel

def sampleRetainer : Source.Path := ⟨false, [⟨false, "a"⟩, ⟨false, "B"⟩]⟩

def sampleAssociations : Associations where
  toList := [("Base", sampleRetainer)]
  ascending := by simp

def sampleSettings : Settings :=
  { Settings.standard with vectorizeInheritance := true }

theorem ofManifest_sample : Hierarchy.ofManifest sampleManifest = .ok sampleHierarchy :=
  eq_ok_of_map_toOption (fun _ _ => Hierarchy.eq_of_declarations) (by decide +kernel)

theorem collect_sample : Associations.collect sampleManifest.associations = .ok sampleAssociations :=
  eq_ok_of_map_toOption (fun _ _ => NameMap.ext) (by decide +kernel)

theorem validate_sample : sampleSettings.validate = .ok () :=
  eq_ok_of_map_toOption Function.injective_id (by decide +kernel)

theorem generateFromManifest_sample : generateFromManifest sampleSettings sampleManifest =
    .ok (generated sampleSettings sampleHierarchy sampleHierarchy.roots sampleAssociations
      (Associations.notes sampleManifest.associations)) :=
  generateFromManifest_eq_ok_iff.mpr
    ⟨_, ofManifest_sample, validate_sample, _, collect_sample, rfl⟩

/-- `Leaf` inherits the retainer of `Base`. -/
theorem inheritedBy_leaf : Row.InheritedBy sampleHierarchy sampleAssociations
    ⟨"Leaf", sampleRetainer, .derived "Base"⟩
    ⟨"Leaf", .ordinary, some ⟨"Mid", ["X<Y>", "Z"]⟩, some "Mid"⟩
    ⟨"Base", .interface, none, none⟩ := by
  have hmid : sampleHierarchy.Passes sampleAssociations
      ⟨"Leaf", .ordinary, some ⟨"Mid", ["X<Y>", "Z"]⟩, some "Mid"⟩
      ⟨"Mid", .ordinary, some ⟨"Base", ["T"]⟩, none⟩ :=
    ⟨.of_find? rfl rfl, rfl, rfl⟩
  exact {
    declared := by decide
    candidate := ⟨rfl, rfl⟩
    enclosedByClasses := .nested (by decide) rfl hmid.candidate.isClass (.topLevel rfl)
    inheritsFrom := .above hmid (.superclass (.of_find? rfl rfl) rfl)
    typeName := rfl
    retainer := rfl
    origin := rfl }

theorem generateFromManifest_rows_sample :
    ∃ generation, generateFromManifest sampleSettings sampleManifest = .ok generation ∧
      ⟨"Base", sampleRetainer, .explicit⟩ ∈ generation.table.rows ∧
      ⟨"Leaf", sampleRetainer, .derived "Base"⟩ ∈ generation.table.rows ∧
      ∀ row ∈ generation.table.rows, row.typeName ≠ "Loop" := by
  obtain ⟨generation, hgenerated, -, hrows, hdead⟩ :=
    generateFromManifest_rows ofManifest_sample collect_sample validate_sample
  have hloop : sampleHierarchy.Unresolved sampleAssociations
      ⟨"Loop", .ordinary, some ⟨"Loop", []⟩, none⟩ :=
    ⟨_, .refl, .cycle ⟨.of_find? rfl rfl, rfl, rfl⟩ .refl⟩
  exact ⟨generation, hgenerated, (hrows _).mpr (.inl ⟨rfl, rfl⟩),
    (hrows _).mpr (.inr ⟨rfl, _, _, inheritedBy_leaf⟩), hdead _ (by decide) rfl hloop⟩

end RetainerTable
