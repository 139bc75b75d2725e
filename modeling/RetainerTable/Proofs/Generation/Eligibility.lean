import RetainerTable.Proofs.Associations
import RetainerTable.Proofs.Generation.Rows
import RetainerTable.Proofs.Inheritance.Extension

/-!
Which kinds of types have rows.

Only classes inherit, but an association is taken as it is, whatever its type is declared to be, and a
climb stops at it before it looks at the kind. So a table gives retainers to classes only exactly if no
association names a declared type of another kind (`classesOnly_tableOf_iff`).
-/

namespace RetainerTable

open RetainerTable.Text

variable {settings : Settings} {manifest : Manifest} {h : Hierarchy} {associations : Associations}
  {generation : Generation}

/-- No row is of a type that is declared to be no class, and all ancestors are declared classes. -/
structure Table.ClassesOnly (h : Hierarchy) (table : Table) : Prop where
  types : ∀ row ∈ table.rows, ∀ d ∈ h.declarations, d.name = row.typeName → d.kind.isClass = true
  ancestors : ∀ row ∈ table.rows, ∀ ancestor, row.origin = .derived ancestor →
    ∃ a ∈ h.declarations, a.name = ancestor ∧ a.kind.isClass = true

/-- A derived row is of a declared class, and its ancestor is a declared type with an association. -/
theorem exists_classes_of_derived {row : Row} {ancestor : String}
    (hrow : row ∈ (tableOf settings h h.roots associations).rows)
    (horigin : row.origin = .derived ancestor) :
    (∃ d ∈ h.declarations, d.name = row.typeName ∧ d.kind.isClass = true) ∧
      ∃ a ∈ h.declarations, a.name = ancestor ∧ associations.contains ancestor = true := by
  rcases mem_rows_tableOf.mp hrow with ⟨-, hexplicit⟩ | ⟨-, d, a, hinherited⟩
  · rw [horigin] at hexplicit
    cases hexplicit
  · have hancestor := hinherited.origin
    rw [horigin] at hancestor
    obtain rfl := Origin.derived.inj hancestor
    exact ⟨⟨d, hinherited.declared, hinherited.typeName.symm, hinherited.candidate.isClass⟩,
      a, hinherited.inheritsFrom.mem, rfl, hinherited.inheritsFrom.contains⟩

/-- A table gives retainers to classes only exactly if every declared type with an association is a
    class. -/
theorem classesOnly_tableOf_iff :
    (tableOf settings h h.roots associations).ClassesOnly h ↔
      ∀ d ∈ h.declarations, associations.contains d.name = true → d.kind.isClass = true := by
  constructor
  · intro honly d hd hassociated
    obtain ⟨retainer, hget⟩ := Option.isSome_iff_exists.mp hassociated
    have hrow : ⟨d.name, retainer, .explicit⟩ ∈ (tableOf settings h h.roots associations).rows :=
      mem_rows_tableOf.mpr (.inl ⟨hget, rfl⟩)
    exact honly.types _ hrow d hd rfl
  · intro hclasses
    refine ⟨fun row hrow d hd hname => ?_, fun row hrow ancestor horigin => ?_⟩
    · rcases mem_rows_tableOf.mp hrow with ⟨hget, -⟩ | ⟨-, d', a, hinherited⟩
      · rw [← hname] at hget
        exact hclasses d hd (NameMap.contains_of_get? hget)
      · obtain rfl := Hierarchy.eq_of_name_eq hinherited.declared hd
          (hinherited.typeName.symm.trans hname.symm)
        exact hinherited.candidate.isClass
    · obtain ⟨-, a, ha, rfl, hassociated⟩ := exists_classes_of_derived hrow horigin
      exact ⟨a, ha, rfl, hclasses a ha hassociated⟩

private theorem Associations.Made.contains_iff {pairs : List (String × String)}
    (hmade : Made pairs associations) (name : String) :
    associations.contains name = true ↔ ∃ pair ∈ pairs, trim pair.1 = name := by
  rw [NameMap.contains, Option.isSome_iff_exists]
  simp only [hmade.get?]
  constructor
  · rintro ⟨retainer, pair, hpair, hname, -⟩
    exact ⟨pair, hpair, hname⟩
  · rintro ⟨pair, hpair, hname⟩
    obtain ⟨retainer, hretainer⟩ := hmade.collectible.spelled pair hpair
    exact ⟨retainer, pair, hpair, hname, hretainer⟩

/-- A generated table gives retainers to classes only exactly if no association names a declared type
    of another kind. Whatever the associations name, a derived row is of a declared class, and its
    ancestor is declared and named by an association. -/
theorem generateFromManifest_classesOnly_iff
    (hgenerated : generateFromManifest settings manifest = .ok generation)
    (hmanifest : Hierarchy.ofManifest manifest = .ok h) :
    (generation.table.ClassesOnly h ↔ ∀ pair ∈ manifest.associations, ∀ d ∈ h.declarations,
      d.name = trim pair.1 → d.kind.isClass = true) ∧
    ∀ row ∈ generation.table.rows, ∀ ancestor, row.origin = .derived ancestor →
      (∃ d ∈ h.declarations, d.name = row.typeName ∧ d.kind.isClass = true) ∧
      (∃ a ∈ h.declarations, a.name = ancestor) ∧
        ∃ pair ∈ manifest.associations, trim pair.1 = ancestor := by
  obtain ⟨_, hmanifest', -, associations, hcollect, rfl⟩ :=
    generateFromManifest_eq_ok_iff.mp hgenerated
  obtain rfl := Except.ok.inj (hmanifest'.symm.trans hmanifest)
  have hcontains := (Associations.collect_made hcollect).contains_iff
  constructor
  · refine classesOnly_tableOf_iff.trans ?_
    simp only [hcontains]
    constructor
    · intro hclasses pair hpair d hd hname
      exact hclasses d hd ⟨pair, hpair, hname.symm⟩
    · rintro hpairs d hd ⟨pair, hpair, hname⟩
      exact hpairs pair hpair d hd hname.symm
  · intro row hrow ancestor horigin
    obtain ⟨hclass, a, ha, hname, hassociated⟩ := exists_classes_of_derived hrow horigin
    exact ⟨hclass, ⟨a, ha, hname⟩, (hcontains ancestor).mp hassociated⟩

/-- A class with an association, one that inherits from it, and an interface beside them. -/
def classManifest : Manifest where
  types := [⟨"Base", .ordinary, none, none⟩, ⟨"Leaf", .ordinary, "Base<T>", none⟩,
    ⟨"Api", .interface, none, none⟩]
  associations := [("Base", "a::B")]

def classHierarchy : Hierarchy where
  declarations := [⟨"Base", .ordinary, none, none⟩,
    ⟨"Leaf", .ordinary, some ⟨"Base", ["T"]⟩, none⟩, ⟨"Api", .interface, none, none⟩]
  distinct := by decide
  enclosed := by decide

private theorem ofManifest_classManifest : Hierarchy.ofManifest classManifest = .ok classHierarchy :=
  eq_ok_of_map_toOption (fun _ _ => Hierarchy.eq_of_declarations) (by decide +kernel)

private theorem collect_classManifest :
    Associations.collect classManifest.associations = .ok sampleAssociations :=
  eq_ok_of_map_toOption (fun _ _ => NameMap.ext) (by decide +kernel)

/-- `Leaf` inherits from `Base`, and both are classes. -/
theorem generateFromManifest_classesOnly_sample :
    ∃ generation, generateFromManifest sampleSettings classManifest = .ok generation ∧
      ⟨"Leaf", sampleRetainer, .derived "Base"⟩ ∈ generation.table.rows ∧
      generation.table.ClassesOnly classHierarchy ∧
      ∃ pair ∈ classManifest.associations, trim pair.1 = "Base" := by
  have hgenerated : generateFromManifest sampleSettings classManifest = .ok _ :=
    generateFromManifest_eq_ok_iff.mpr
      ⟨_, ofManifest_classManifest, validate_sample, _, collect_classManifest, rfl⟩
  have hleaf : Row.InheritedBy classHierarchy sampleAssociations
      ⟨"Leaf", sampleRetainer, .derived "Base"⟩
      ⟨"Leaf", .ordinary, some ⟨"Base", ["T"]⟩, none⟩ ⟨"Base", .ordinary, none, none⟩ :=
    ⟨by decide, ⟨rfl, rfl⟩, .topLevel rfl, .superclass (.of_find? rfl rfl) rfl, rfl, rfl, rfl⟩
  have hrow : ⟨"Leaf", sampleRetainer, .derived "Base"⟩ ∈ (tableOf sampleSettings classHierarchy
      classHierarchy.roots sampleAssociations).rows :=
    mem_rows_tableOf.mpr (.inr ⟨rfl, _, _, hleaf⟩)
  obtain ⟨honly, hderived⟩ :=
    generateFromManifest_classesOnly_iff hgenerated ofManifest_classManifest
  refine ⟨_, hgenerated, hrow, honly.mpr ?_, (hderived _ hrow "Base" rfl).2.2⟩
  decide +kernel

/-- An interface with an association. -/
def interfaceManifest : Manifest where
  types := [⟨"Api", .interface, none, none⟩]
  associations := [("Api", "a::B")]

def interfaceHierarchy : Hierarchy where
  declarations := [⟨"Api", .interface, none, none⟩]
  distinct := by decide
  enclosed := by decide

def interfaceAssociations : Associations where
  toList := [("Api", sampleRetainer)]
  ascending := by simp

/-- The interface has a row, so the table does not give retainers to classes only. -/
theorem generateFromManifest_interface_row :
    ∃ generation, Hierarchy.ofManifest interfaceManifest = .ok interfaceHierarchy ∧
      generateFromManifest Settings.standard interfaceManifest = .ok generation ∧
      ⟨"Api", sampleRetainer, .explicit⟩ ∈ generation.table.rows ∧
      ¬generation.table.ClassesOnly interfaceHierarchy := by
  have hmanifest : Hierarchy.ofManifest interfaceManifest = .ok interfaceHierarchy :=
    eq_ok_of_map_toOption (fun _ _ => Hierarchy.eq_of_declarations) (by decide +kernel)
  have hcollect :
      Associations.collect interfaceManifest.associations = .ok interfaceAssociations :=
    eq_ok_of_map_toOption (fun _ _ => NameMap.ext) (by decide +kernel)
  have hvalid : Settings.standard.validate = .ok () :=
    eq_ok_of_map_toOption Function.injective_id (by decide +kernel)
  refine ⟨_, hmanifest, generateFromManifest_eq_ok_iff.mpr
    ⟨_, hmanifest, hvalid, _, hcollect, rfl⟩, mem_rows_tableOf.mpr (.inl ⟨rfl, rfl⟩), ?_⟩
  intro honly
  have hclass : TypeKind.interface.isClass = true :=
    classesOnly_tableOf_iff.mp honly ⟨"Api", .interface, none, none⟩ (by decide) rfl
  cases hclass

end RetainerTable
