import RetainerTable.Generation
import RetainerTable.Proofs.Inheritance.Derive
import RetainerTable.Proofs.Table.Merge

/-!
When a generation succeeds, and with what.

Nothing is derived for an associated type, so merging never fails; what is left to fail are the
manifest, the settings and the associations (`generate_eq_ok_iff`,
`generateFromManifest_eq_ok_iff`).
-/

namespace RetainerTable

variable {settings : Settings} {h : Hierarchy} {associations : Associations} {roots : List String}
  {pairs : List (String × String)} {generation : Generation} {manifest : Manifest}

/-- The rows inherited are those derived, if inheritance is enabled. -/
theorem inherit_get?_iff {enabled : Bool} {name : String} {inherited : Inherited} :
    (inherit enabled h associations roots).1.get? name = some inherited ↔
      enabled = true ∧ ∃ d, h.Reached roots d ∧ d.name = name ∧ Candidate associations d ∧
        h.Inherits associations d inherited := by
  cases enabled with
  | false => simp [inherit, inheritNoting]
  | true => simp [inherit, inheritNoting, derive_get?_iff]

/-- No type both is associated and inherits. -/
theorem disjoint_inherit (enabled : Bool) (h : Hierarchy) (associations : Associations)
    (roots : List String) :
    Table.Disjoint associations (inherit enabled h associations roots).1 := by
  intro name inherited hget
  obtain ⟨-, d, -, rfl, hcandidate, -⟩ := inherit_get?_iff.mp hget
  exact hcandidate.unassociated

/-- What is noted while the pairs are collected; nothing if one is refused. -/
def Associations.notes (pairs : List (String × String)) : List Event :=
  match collectNoting pairs with
  | .error _ => []
  | .ok (_, noted) => noted

/-- The table of the associations and of what the roots lead to. -/
def tableOf (settings : Settings) (h : Hierarchy) (roots : List String)
    (associations : Associations) : Table :=
  .ofMap (Table.combine associations (inherit settings.vectorizeInheritance h associations roots).1)

/-- What a generation yields that gets as far as resolving inheritance, with what was noted before. -/
def generated (settings : Settings) (h : Hierarchy) (roots : List String)
    (associations : Associations) (noted : List Event) : Generation :=
  let table := tableOf settings h roots associations
  { table := table
    source := table.render settings
    log := noted ++ (inheritNoting settings.vectorizeInheritance h associations roots).2 ++
      [.rendered table.size table.explicitCount table.derivedCount
        (table.render settings).utf8ByteSize] }

theorem merge_inherit (settings : Settings) (h : Hierarchy) (roots : List String)
    (associations : Associations) :
    Table.merge associations (inherit settings.vectorizeInheritance h associations roots).1 =
      .ok (tableOf settings h roots associations) :=
  Table.merge_of_disjoint (disjoint_inherit _ _ _ _)

theorem merge_inheritNoting (settings : Settings) (h : Hierarchy) (roots : List String)
    (associations : Associations) :
    Table.merge associations (inheritNoting settings.vectorizeInheritance h associations roots).1 =
      .ok (tableOf settings h roots associations) :=
  merge_inherit settings h roots associations

/-- A generation succeeds exactly if the settings are valid and the pairs are collected. -/
theorem generate_eq_ok_iff : generate settings h roots pairs = .ok generation ↔
    settings.validate = .ok () ∧ ∃ associations, Associations.collect pairs = .ok associations ∧
      generation = generated settings h roots associations (Associations.notes pairs) := by
  unfold generate tabulate Associations.collect Associations.notes
  cases hvalid : settings.validate with
  | error error => simp
  | ok _ =>
    cases hcollect : Associations.collectNoting pairs with
    | error error => simp [Except.map]
    | ok made => simp [Except.map, merge_inheritNoting, generated, eq_comm]

/-- A generation from a manifest succeeds exactly if, moreover, the manifest lists a hierarchy. -/
theorem generateFromManifest_eq_ok_iff : generateFromManifest settings manifest = .ok generation ↔
    ∃ h, Hierarchy.ofManifest manifest = .ok h ∧ settings.validate = .ok () ∧
      ∃ associations, Associations.collect manifest.associations = .ok associations ∧
        generation =
          generated settings h h.roots associations (Associations.notes manifest.associations) := by
  unfold generateFromManifest
  cases hmade : Hierarchy.ofManifest manifest with
  | error error => simp
  | ok h => simp [generate_eq_ok_iff]

end RetainerTable
