import RetainerTable.Proofs.Associations
import RetainerTable.Proofs.Generation.Rows
import RetainerTable.Proofs.Inheritance.Part

namespace RetainerTable

variable {settings : Settings} {associations : Associations} {h₁ h₂ : Hierarchy}

/-- What the declarations of a part inherit does not depend on the rest. -/
theorem Hierarchy.PartOf.inheritedBy_iff {part whole : Hierarchy} {row : Row} {d a : Declaration}
    (hpart : part.PartOf whole) (hd : d ∈ part.declarations) :
    row.InheritedBy whole associations d a ↔ row.InheritedBy part associations d a := by
  constructor
  · intro hrow
    exact { hrow with
      declared := hd
      enclosedByClasses := (hpart.enclosedByClasses_iff hd).mp hrow.enclosedByClasses
      inheritsFrom := (hpart.inheritsFrom_iff hd).mp hrow.inheritsFrom }
  · intro hrow
    exact { hrow with
      declared := hpart.subset hd
      enclosedByClasses := (hpart.enclosedByClasses_iff hd).mpr hrow.enclosedByClasses
      inheritsFrom := (hpart.inheritsFrom_iff hd).mpr hrow.inheritsFrom }

/-- Hierarchies of the same declarations have the same table. -/
theorem tableOf_congr (hsame : ∀ d, d ∈ h₁.declarations ↔ d ∈ h₂.declarations) :
    tableOf settings h₁ h₁.roots associations = tableOf settings h₂ h₂.roots associations := by
  refine Table.eq_of_mem_rows_iff fun row => ?_
  rw [mem_rows_tableOf, mem_rows_tableOf]
  refine or_congr Iff.rfl (and_congr_right fun _ => exists_congr fun d => exists_congr fun a => ?_)
  have hpart : h₂.PartOf h₁ :=
    { subset := fun e => (hsame e).mpr
      closed := fun _ _ _ _ e he _ => (hsame e).mp he }
  constructor
  · intro hrow
    exact (hpart.inheritedBy_iff ((hsame d).mp hrow.declared)).mp hrow
  · intro hrow
    exact (hpart.inheritedBy_iff hrow.declared).mpr hrow

section Permutation

variable {types₁ types₂ : List TypeEntry} {pairs₁ pairs₂ : List (String × String)}

private theorem Manifest.Lists.perm (htypes : types₁.Perm types₂)
    (hlists : Manifest.Lists ⟨types₁, pairs₁⟩) : Manifest.Lists ⟨types₂, pairs₂⟩ where
  wellFormed entry hentry := hlists.wellFormed entry (htypes.mem_iff.mpr hentry)
  distinct := (htypes.map _).nodup_iff.mp hlists.distinct
  enclosed entry hentry outer houter := by
    obtain ⟨other, hother, hname⟩ :=
      hlists.enclosed entry (htypes.mem_iff.mpr hentry) outer houter
    exact ⟨other, htypes.mem_iff.mp hother, hname⟩

/-- One manifest generates if another does that lists the same types and associations in any order,
    with the same table and source. -/
theorem generateFromManifest_of_perm {generation : Generation} (htypes : types₁.Perm types₂)
    (hpairs : pairs₁.Perm pairs₂)
    (hgenerated : generateFromManifest settings ⟨types₁, pairs₁⟩ = .ok generation) :
    ∃ generation', generateFromManifest settings ⟨types₂, pairs₂⟩ = .ok generation' ∧
      generation'.table = generation.table ∧ generation'.source = generation.source := by
  obtain ⟨h₁, hmade, hvalid, associations, hcollect, rfl⟩ :=
    generateFromManifest_eq_ok_iff.mp hgenerated
  obtain ⟨hlists, hsaid⟩ := Hierarchy.ofManifest_eq_ok_iff.mp hmade
  obtain ⟨h₂, hmade', hsaid'⟩ := Hierarchy.ofManifest_of_lists (hlists.perm htypes)
  have hsame : ∀ d, d ∈ h₂.declarations ↔ d ∈ h₁.declarations := by
    intro d
    rw [hsaid, hsaid']
    exact (htypes.map _).mem_iff.symm
  have hcollected := Associations.collect_made hcollect
  obtain ⟨associations', hcollect'⟩ := Associations.exists_collect_iff.mpr
    (hcollected.collectible.of_subset hpairs.symm.subset)
  obtain rfl := hcollected.eq_of_mem_iff (Associations.collect_made hcollect') fun pair =>
    hpairs.mem_iff
  have hgenerated' : generateFromManifest settings ⟨types₂, pairs₂⟩ =
      .ok (generated settings h₂ h₂.roots associations (Associations.notes pairs₂)) :=
    generateFromManifest_eq_ok_iff.mpr ⟨h₂, hmade', hvalid, associations, hcollect', rfl⟩
  have htable : tableOf settings h₂ h₂.roots associations =
      tableOf settings h₁ h₁.roots associations := tableOf_congr hsame
  exact ⟨_, hgenerated', htable, congrArg (Table.render settings) htable⟩

/-- Listing types and associations in another order changes neither whether a table is generated nor
    the table nor its source. -/
theorem generateFromManifest_perm (settings : Settings) (htypes : types₁.Perm types₂)
    (hpairs : pairs₁.Perm pairs₂) :
    ((∃ generation, generateFromManifest settings ⟨types₁, pairs₁⟩ = .ok generation) ↔
      ∃ generation, generateFromManifest settings ⟨types₂, pairs₂⟩ = .ok generation) ∧
    ∀ generation₁ generation₂,
      generateFromManifest settings ⟨types₁, pairs₁⟩ = .ok generation₁ →
      generateFromManifest settings ⟨types₂, pairs₂⟩ = .ok generation₂ →
      generation₁.source = generation₂.source ∧ generation₁.table = generation₂.table := by
  refine ⟨⟨?_, ?_⟩, fun generation₁ generation₂ hgenerated₁ hgenerated₂ => ?_⟩
  · rintro ⟨generation, hgenerated⟩
    obtain ⟨generation', hgenerated', -⟩ := generateFromManifest_of_perm htypes hpairs hgenerated
    exact ⟨generation', hgenerated'⟩
  · rintro ⟨generation, hgenerated⟩
    obtain ⟨generation', hgenerated', -⟩ :=
      generateFromManifest_of_perm htypes.symm hpairs.symm hgenerated
    exact ⟨generation', hgenerated'⟩
  · obtain ⟨generation', hgenerated', htable, hsource⟩ :=
      generateFromManifest_of_perm htypes hpairs hgenerated₁
    obtain rfl := Except.ok.inj (hgenerated₂.symm.trans hgenerated')
    exact ⟨hsource.symm, htable.symm⟩

end Permutation

/-- The sample lists its types and associations backwards as well, `Leaf` then after the class that
    it is nested in and both cycles before all other types. -/
theorem generateFromManifest_perm_sample :
    ∃ generation reversed, generateFromManifest sampleSettings sampleManifest = .ok generation ∧
      generateFromManifest sampleSettings
        ⟨sampleManifest.types.reverse, sampleManifest.associations.reverse⟩ = .ok reversed ∧
      generation.source = reversed.source ∧ generation.table = reversed.table := by
  obtain ⟨hsucceeds, hsame⟩ := generateFromManifest_perm sampleSettings
    (List.reverse_perm sampleManifest.types).symm
    (List.reverse_perm sampleManifest.associations).symm
  obtain ⟨reversed, hreversed⟩ := hsucceeds.mp ⟨_, generateFromManifest_sample⟩
  exact ⟨_, reversed, generateFromManifest_sample, hreversed,
    hsame _ _ generateFromManifest_sample hreversed⟩

end RetainerTable
