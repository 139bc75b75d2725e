import RetainerTable.Proofs.Associations
import RetainerTable.Proofs.Generation.Rows
import RetainerTable.Proofs.Inheritance.Extension

namespace RetainerTable

variable {settings : Settings} {types : List TypeEntry} {pairs pairs' : List (String × String)}
  {generation : Generation}

/-- Where one list of pairs generates, another that may be collected generates too, from the same
    hierarchy. -/
theorem exists_generateFromManifest_of_collectible
    (hgenerated : generateFromManifest settings ⟨types, pairs⟩ = .ok generation)
    (hpairs : Associations.Collectible pairs') :
    ∃ h associations associations', Hierarchy.ofManifest ⟨types, pairs⟩ = .ok h ∧
      Associations.Made pairs associations ∧ Associations.Made pairs' associations' ∧
      generation.table = tableOf settings h h.roots associations ∧
      generateFromManifest settings ⟨types, pairs'⟩ =
        .ok (generated settings h h.roots associations' (Associations.notes pairs')) := by
  obtain ⟨h, hmade, hvalid, associations, hcollect, rfl⟩ :=
    generateFromManifest_eq_ok_iff.mp hgenerated
  obtain ⟨associations', hcollect'⟩ := Associations.exists_collect_iff.mpr hpairs
  have hmade' : Hierarchy.ofManifest ⟨types, pairs'⟩ = .ok h := hmade
  exact ⟨h, associations, associations', hmade, Associations.collect_made hcollect,
    Associations.collect_made hcollect', rfl,
    generateFromManifest_eq_ok_iff.mpr ⟨h, hmade', hvalid, associations', hcollect', rfl⟩⟩

/-- Collections of more pairs say all that those of fewer say. -/
theorem Associations.Made.extends_of_subset {fewer more : Associations} (hfewer : Made pairs fewer)
    (hmore : Made pairs' more) (hsub : pairs ⊆ pairs') : more.Extends fewer := by
  intro name retainer hget
  obtain ⟨pair, hpair, hname, hretainer⟩ := (hfewer.get? name retainer).mp hget
  exact (hmore.get? name retainer).mpr ⟨pair, hsub hpair, hname, hretainer⟩

end RetainerTable
