import RetainerTable.Proofs.Associations
import RetainerTable.Proofs.Generation.Success

namespace RetainerTable

/-- The error says what is wrong with one of the inputs of a generation. -/
inductive Error.BlamesInput : Error → Prop
  | emptyName : BlamesInput .emptyName
  | malformedReference (name reference : String) : BlamesInput (.malformedReference name reference)
  | duplicateType (name : String) : BlamesInput (.duplicateType name)
  | unknownEnclosing (name enclosing : String) : BlamesInput (.unknownEnclosing name enclosing)
  | invalidSetting (setting value : String) : BlamesInput (.invalidSetting setting value)
  | emptyTypeName (path : String) : BlamesInput (.emptyTypeName path)
  | invalidRetainer (typeName path : String) : BlamesInput (.invalidRetainer typeName path)
  | conflictingRetainers (typeName : String) (existing incoming : Source.Path) :
      BlamesInput (.conflictingRetainers typeName existing incoming)

variable {settings : Settings} {h : Hierarchy} {roots : List String}
  {pairs : List (String × String)} {manifest : Manifest} {error : Error}

private theorem Error.BlamesInput.ne_mergeConflict {typeName : String} {own inherited : Source.Path}
    (hblames : error.BlamesInput) : error ≠ .mergeConflict typeName own inherited := by
  rintro rfl
  cases hblames

namespace Declaration

variable {declared : List String} {entry : TypeEntry} {entries : List TypeEntry}

private theorem blamesInput_of_ofEntry (hfails : ofEntry declared entry = .error error) :
    error.BlamesInput := by
  unfold ofEntry at hfails
  dsimp only at hfails
  split at hfails
  · cases hfails
    exact .emptyName
  · split at hfails
    next refused hrefused =>
      cases hfails
      split at hrefused
      · cases hrefused
      · split at hrefused
        · cases hrefused
        · cases hrefused
          exact .malformedReference _ _
    · split at hfails
      · cases hfails
        exact .duplicateType _
      · cases hfails

private theorem blamesInput_of_ofEntries (hfails : ofEntries declared entries = .error error) :
    error.BlamesInput := by
  induction entries generalizing declared with
  | nil => cases hfails
  | cons entry entries ih =>
    unfold ofEntries at hfails
    split at hfails
    next hentry =>
      cases hfails
      exact blamesInput_of_ofEntry hentry
    · split at hfails
      next hentries =>
        cases hfails
        exact ih hentries
      · cases hfails

end Declaration

private theorem Hierarchy.blamesInput_of_ofManifest (hfails : ofManifest manifest = .error error) :
    error.BlamesInput := by
  unfold ofManifest at hfails
  split at hfails
  next hentries =>
    cases hfails
    exact Declaration.blamesInput_of_ofEntries hentries
  · split at hfails
    · cases hfails
      exact .unknownEnclosing _ _
    · cases hfails

private theorem Settings.blamesInput_of_validate (hfails : settings.validate = .error error) :
    error.BlamesInput := by
  unfold validate validateWith at hfails
  split at hfails
  · cases hfails
    exact .invalidSetting _ _
  · cases hfails

namespace Associations

variable {associations : Associations} {typeName path : String}

private theorem blamesInput_of_add (hfails : associations.add typeName path = .error error) :
    error.BlamesInput := by
  unfold add readRetainer at hfails
  dsimp only at hfails
  split at hfails
  · cases hfails
    exact .emptyTypeName _
  · split at hfails
    next refused hrefused =>
      cases hfails
      split at hrefused
      · cases hrefused
      · cases hrefused
        exact .invalidRetainer _ _
    · split at hfails
      · cases hfails
      · split at hfails
        · cases hfails
        · cases hfails
          exact .conflictingRetainers _ _ _

private theorem blamesInput_of_addAll {log : List Event}
    (hfails : addAll associations log pairs = .error error) : error.BlamesInput := by
  induction pairs generalizing associations log with
  | nil => cases hfails
  | cons pair pairs ih =>
    unfold addAll at hfails
    split at hfails
    · exact ih hfails
    next hpair =>
      cases hfails
      exact blamesInput_of_add hpair

private theorem blamesInput_of_collect (hfails : collect pairs = .error error) : error.BlamesInput :=
  blamesInput_of_addAll (collect_eq_error_iff_noting.mp hfails)

end Associations

private theorem generate_eq_error_iff : generate settings h roots pairs = .error error ↔
    settings.validate = .error error ∨
      settings.validate = .ok () ∧ Associations.collect pairs = .error error := by
  rw [Associations.collect_eq_error_iff_noting]
  unfold generate tabulate
  cases hvalid : settings.validate with
  | error refused => simp
  | ok _ =>
    cases hcollect : Associations.collectNoting pairs with
    | error refused => simp
    | ok made => simp [merge_inheritNoting]

private theorem blamesInput_of_generate (hfails : generate settings h roots pairs = .error error) :
    error.BlamesInput := by
  rcases generate_eq_error_iff.mp hfails with hvalid | ⟨-, hcollect⟩
  · exact Settings.blamesInput_of_validate hvalid
  · exact Associations.blamesInput_of_collect hcollect

private theorem generateFromManifest_eq_error_iff :
    generateFromManifest settings manifest = .error error ↔
      Hierarchy.ofManifest manifest = .error error ∨
      (∃ h, Hierarchy.ofManifest manifest = .ok h) ∧
        (settings.validate = .error error ∨ settings.validate = .ok () ∧
          Associations.collect manifest.associations = .error error) := by
  unfold generateFromManifest
  cases hmade : Hierarchy.ofManifest manifest with
  | error refused => simp
  | ok h => simp [generate_eq_error_iff]

private theorem blamesInput_of_generateFromManifest
    (hfails : generateFromManifest settings manifest = .error error) : error.BlamesInput := by
  unfold generateFromManifest at hfails
  split at hfails
  next hmade =>
    cases hfails
    exact Hierarchy.blamesInput_of_ofManifest hmade
  · exact blamesInput_of_generate hfails

/-- From a manifest, and from any hierarchy, roots and pairs, a generation succeeds exactly if all
    its inputs are accepted. Otherwise it fails with the error of the first input that is refused:
    the manifest, then the settings, then the associations. A conflict in merging is never reported,
    whatever the hierarchy and the roots are. -/
theorem generateFromManifest_outcome (settings : Settings) (manifest : Manifest) :
    (((∃ generation, generateFromManifest settings manifest = .ok generation) ↔
        (∃ h, Hierarchy.ofManifest manifest = .ok h) ∧ settings.validate = .ok () ∧
          ∃ associations, Associations.collect manifest.associations = .ok associations) ∧
      (∀ error, generateFromManifest settings manifest = .error error ↔
        Hierarchy.ofManifest manifest = .error error ∨
        (∃ h, Hierarchy.ofManifest manifest = .ok h) ∧
          (settings.validate = .error error ∨ settings.validate = .ok () ∧
            Associations.collect manifest.associations = .error error)) ∧
      ∀ typeName own inherited,
        generateFromManifest settings manifest ≠ .error (.mergeConflict typeName own inherited)) ∧
    ∀ (h : Hierarchy) (roots : List String) (pairs : List (String × String)),
      ((∃ generation, generate settings h roots pairs = .ok generation) ↔
        settings.validate = .ok () ∧
          ∃ associations, Associations.collect pairs = .ok associations) ∧
      (∀ error, generate settings h roots pairs = .error error ↔
        settings.validate = .error error ∨ settings.validate = .ok () ∧
          Associations.collect pairs = .error error) ∧
      ∀ typeName own inherited,
        generate settings h roots pairs ≠ .error (.mergeConflict typeName own inherited) := by
  refine ⟨⟨?_, fun error => generateFromManifest_eq_error_iff, ?_⟩,
    fun h roots pairs => ⟨?_, fun error => generate_eq_error_iff, ?_⟩⟩
  · simp only [generateFromManifest_eq_ok_iff]
    constructor
    · rintro ⟨generation, h, hmade, hvalid, associations, hcollect, -⟩
      exact ⟨⟨h, hmade⟩, hvalid, associations, hcollect⟩
    · rintro ⟨⟨h, hmade⟩, hvalid, associations, hcollect⟩
      exact ⟨_, h, hmade, hvalid, associations, hcollect, rfl⟩
  · intro typeName own inherited hfails
    exact (blamesInput_of_generateFromManifest hfails).ne_mergeConflict rfl
  · simp only [generate_eq_ok_iff]
    constructor
    · rintro ⟨generation, hvalid, associations, hcollect, -⟩
      exact ⟨hvalid, associations, hcollect⟩
    · rintro ⟨hvalid, associations, hcollect⟩
      exact ⟨_, hvalid, associations, hcollect, rfl⟩
  · intro typeName own inherited hfails
    exact (blamesInput_of_generate hfails).ne_mergeConflict rfl

end RetainerTable
