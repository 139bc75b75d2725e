import RetainerTable.Proofs.Associations
import RetainerTable.Proofs.Generation.Rows
import RetainerTable.Proofs.Table.Reading
import RetainerTable.Registration

namespace RetainerTable

variable {α : Type}

namespace RegistryBuilder

variable {builder : RegistryBuilder α} {rows : List (String × α)}

private theorem insert_of_fresh {typeName : String} (retainer : α)
    (hfresh : builder.byName.get? typeName = none) :
    builder.insert typeName retainer = (⟨builder.byName.insert typeName retainer⟩, .ok ()) := by
  have hcontains := NameMap.contains_eq_false_iff.mpr hfresh
  rw [insert, hcontains]
  rfl

/-- Retainers of different types, none of which has one yet, are all entered. -/
theorem insertAll_of_fresh (hnodup : (rows.map Prod.fst).Nodup)
    (hfresh : ∀ row ∈ rows, builder.byName.get? row.1 = none) : builder.insertAll rows =
      .ok ⟨rows.foldl (fun m row => m.insert row.1 row.2) builder.byName⟩ := by
  induction rows generalizing builder with
  | nil => rfl
  | cons row rows ih =>
    obtain ⟨hnew, hnodup⟩ := List.nodup_cons.mp hnodup
    obtain ⟨hrow, hrest⟩ := List.forall_mem_cons.mp hfresh
    unfold insertAll
    rw [insert_of_fresh row.2 hrow]
    refine ih hnodup fun other hother => ?_
    have hne : other.1 ≠ row.1 := by
      intro heq
      exact hnew (heq ▸ List.mem_map_of_mem hother)
    rw [NameMap.get?_insert, if_neg hne]
    exact hrest other hother

private theorem insertAll_toList (m : NameMap α) : empty.insertAll m.toList = .ok ⟨m⟩ := by
  have hfresh : ∀ row ∈ m.toList, (empty : RegistryBuilder α).byName.get? row.1 = none :=
    fun row _ => NameMap.get?_empty row.1
  rw [insertAll_of_fresh m.nodup_names hfresh]
  exact congrArg (Except.ok ∘ mk) m.ofList_toList

end RegistryBuilder

namespace Table

variable {table : Table}

/-- The spelling of each type's retainer. -/
def spellings (table : Table) : NameMap String where
  toList := table.rows.toList.map fun row => (row.typeName, row.retainer.text)
  ascending := by simpa [List.pairwise_map] using table.ascending

private theorem get?_spellings (table : Table) (name : String) :
    table.spellings.get? name = (table.get? name).map Source.Path.text := by
  refine Option.ext fun text => ?_
  rw [← NameMap.mem_toList_iff, get?, Option.map_map, Option.map_eq_some_iff]
  simp only [spellings, List.mem_map, row?_eq_some_iff, Array.mem_toList_iff, Prod.mk.injEq,
    Function.comp_apply, and_assoc]

private theorem size_spellings (table : Table) : table.spellings.size = table.size := by
  simp [spellings, NameMap.size, size]

private theorem names_spellings (table : Table) :
    table.spellings.names = table.rows.toList.map Row.typeName := by
  simp [spellings, NameMap.names]

end Table

def Statement.entry (statement : Statement) : String × String :=
  (statement.typeName, statement.retainer)

/-- The statements of a table, run in their order on a builder with no retainers, are all entered
    and make a registry of the table's retainers. -/
theorem registry_of_statements (table : Table) :
    RegistryBuilder.empty.insertAll ((table.rows.toList.map Row.said).map Statement.entry) =
      .ok ⟨table.spellings⟩ := by
  rw [List.map_map]
  exact RegistryBuilder.insertAll_toList table.spellings

variable {settings : Settings} {manifest : Manifest} {generation : Generation}

/-- The retainers of a generated table were all read from the manifest. -/
theorem read_of_generate (hgenerate : generateFromManifest settings manifest = .ok generation) :
    generation.table.Read := by
  obtain ⟨h, -, -, associations, hcollect, rfl⟩ := generateFromManifest_eq_ok_iff.mp hgenerate
  have hassociations : ∀ name retainer, associations.get? name = some retainer →
      ∃ text, Associations.retainer? text = some retainer := by
    intro name retainer hget
    obtain ⟨pair, -, -, htext⟩ := ((Associations.collect_made hcollect).get? name retainer).mp hget
    exact ⟨pair.2, htext⟩
  refine ⟨associations, _, hassociations, fun name inherited hget => ?_,
    merge_inherit settings h h.roots associations⟩
  obtain ⟨-, d, -, -, -, a, -, hretainer, -⟩ := inherit_get?_iff.mp hget
  exact hassociations a.name inherited.retainer hretainer

/-- The statements of a generated source enter the rows of the table, in their order. -/
theorem statements?_of_generate
    (hgenerate : generateFromManifest settings manifest = .ok generation) :
    settings.statements? generation.source =
      some (generation.table.rows.toList.map Row.said) := by
  have hread := read_of_generate hgenerate
  obtain ⟨h, -, -, associations, -, rfl⟩ := generateFromManifest_eq_ok_iff.mp hgenerate
  exact Table.statements?_render settings hread.wellSpelled

/-- The statements of a generated source, run in their order on a builder with no retainers, are
    all entered. The registry then built gives every name, whether a manifest mentions it or not, the
    retainer that the table gives it, and lists the type names of the table in the table's order. -/
theorem generateFromManifest_registry
    (hgenerate : generateFromManifest settings manifest = .ok generation) :
    ∃ statements builder, settings.statements? generation.source = some statements ∧
      RegistryBuilder.empty.insertAll (statements.map Statement.entry) = .ok builder ∧
      (∀ name, builder.build.raw? name = (generation.table.get? name).map Source.Path.text) ∧
      builder.build.size = generation.table.size ∧
      builder.build.typeNames = generation.table.rows.toList.map Row.typeName := by
  have hsource : generation.source = generation.table.render settings := by
    obtain ⟨h, -, -, associations, -, rfl⟩ := generateFromManifest_eq_ok_iff.mp hgenerate
    rfl
  have hstatements := Table.statements?_render settings (read_of_generate hgenerate).wellSpelled
  rw [← hsource] at hstatements
  exact ⟨_, _, hstatements, registry_of_statements generation.table,
    generation.table.get?_spellings, generation.table.size_spellings,
    generation.table.names_spellings⟩

theorem generateFromManifest_registry_sample :
    ∃ generation statements builder,
      generateFromManifest sampleSettings sampleManifest = .ok generation ∧
      sampleSettings.statements? generation.source = some statements ∧
      RegistryBuilder.empty.insertAll (statements.map Statement.entry) = .ok builder ∧
      builder.build.raw? "Base" = some "a::B" ∧ builder.build.raw? "Leaf" = some "a::B" ∧
      builder.build.raw? "Nowhere" = none := by
  obtain ⟨statements, builder, hstatements, hbuilder, hraw, -, -⟩ :=
    generateFromManifest_registry generateFromManifest_sample
  have hrow : ∀ row : Row, row ∈ (tableOf sampleSettings sampleHierarchy sampleHierarchy.roots
      sampleAssociations).rows → builder.build.raw? row.typeName = some row.retainer.text := by
    intro row hrow
    have hfound := Table.row?_eq_some_iff.mpr ⟨hrow, rfl⟩
    rw [hraw, generated, Table.get?, hfound]
    rfl
  refine ⟨_, statements, builder, generateFromManifest_sample, hstatements, hbuilder, ?_, ?_, ?_⟩
  · exact hrow ⟨"Base", sampleRetainer, .explicit⟩ (mem_rows_tableOf.mpr (.inl ⟨rfl, rfl⟩))
  · exact hrow _ (mem_rows_tableOf.mpr (.inr ⟨rfl, _, _, inheritedBy_leaf⟩))
  · rw [hraw, Option.map_eq_none_iff, Table.get?, Option.map_eq_none_iff,
      Option.eq_none_iff_forall_ne_some]
    intro row hfound
    obtain ⟨hrow, hname⟩ := Table.row?_eq_some_iff.mp hfound
    rcases mem_rows_tableOf.mp hrow with ⟨hget, -⟩ | ⟨-, d, a, hrow⟩
    · rw [hname] at hget
      cases hget
    · have hnowhere : ∀ d ∈ sampleHierarchy.declarations, d.name ≠ "Nowhere" := by decide
      exact hnowhere d hrow.declared (hrow.typeName.symm.trans hname)

end RetainerTable
