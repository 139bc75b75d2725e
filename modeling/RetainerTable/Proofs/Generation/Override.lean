import RetainerTable.Proofs.Generation.Reassociation

namespace RetainerTable

open RetainerTable.Text

variable {settings : Settings} {h : Hierarchy} {associations : Associations}
  {types : List TypeEntry} {pairs pairs' : List (String × String)} {generation : Generation}
  {typeName name path : String} {retainer : Source.Path} {row : Row} {d a : Declaration}

/-- A class without an association that is reached from the top level, and whose way up meets the
    named type. -/
structure Hierarchy.Below (h : Hierarchy) (associations : Associations) (typeName : String)
    (d : Declaration) : Prop where
  reached : d ∈ h.reach h.roots
  candidate : Candidate associations d
  meets : ∃ t, h.Meets associations d t ∧ t.name = typeName

namespace Associations

private theorem extends_insert (hfree : associations.get? typeName = none) :
    Extends (associations.insert typeName retainer) associations := by
  intro name kept hget
  have hne : name ≠ typeName := by
    rintro rfl
    rw [hfree] at hget
    cases hget
  rw [NameMap.get?_insert, if_neg hne, hget]

private theorem new_insert_iff (hfree : associations.get? typeName = none) :
    New (associations.insert typeName retainer) associations name ↔ name = typeName := by
  constructor
  · rintro ⟨hbefore, hafter⟩
    by_contra hne
    rw [NameMap.contains, NameMap.get?_insert, if_neg hne, hbefore] at hafter
    cases hafter
  · rintro rfl
    have hget := NameMap.get?_insert associations name retainer name
    rw [if_pos rfl] at hget
    exact ⟨hfree, NameMap.contains_of_get? hget⟩

/-- A pair more makes one association more. -/
theorem Made.eq_insert {more : Associations} (hmade : Made pairs associations)
    (hmore : Made pairs' more) (hadded : ∀ pair, pair ∈ pairs' ↔ pair ∈ (typeName, path) :: pairs)
    (hspelled : retainer? path = some retainer)
    (hfree : associations.get? (trim typeName) = none) :
    more = associations.insert (trim typeName) retainer := by
  refine NameMap.ext_get? fun name => Option.ext fun found => ?_
  have hsplit : more.get? name = some found ↔
      trim typeName = name ∧ retainer = found ∨ associations.get? name = some found := by
    rw [hmore.get?, hmade.get?]
    simp [hadded, hspelled]
  rw [hsplit, NameMap.get?_insert]
  by_cases hname : name = trim typeName
  · subst hname
    simp [hfree]
  · simp [hname, Ne.symm hname]

/-- A pair for a type that has none yet may be collected too. -/
theorem Made.collectible_cons (hmade : Made pairs associations) (hnamed : trim typeName ≠ "")
    (hspelled : retainer? path = some retainer)
    (hfree : associations.get? (trim typeName) = none) :
    Collectible ((typeName, path) :: pairs) := by
  have hother : ∀ pair ∈ pairs, trim pair.1 ≠ trim typeName := by
    intro pair hpair hname
    obtain ⟨found, hfound⟩ := hmade.collectible.spelled pair hpair
    have hget := (hmade.get? (trim typeName) found).mpr ⟨pair, hpair, hname, hfound⟩
    rw [hfree] at hget
    cases hget
  refine ⟨?_, ?_, ?_⟩
  · exact List.forall_mem_cons.mpr ⟨hnamed, hmade.collectible.named⟩
  · exact List.forall_mem_cons.mpr ⟨⟨retainer, hspelled⟩, hmade.collectible.spelled⟩
  · intro first hfirst second hsecond hname
    rcases List.mem_cons.mp hfirst with rfl | hfirst <;>
      rcases List.mem_cons.mp hsecond with rfl | hsecond
    · rfl
    · exact absurd hname.symm (hother second hsecond)
    · exact absurd hname (hother first hfirst)
    · exact hmade.collectible.consistent first hfirst second hsecond hname

end Associations

private theorem Hierarchy.inheritsFrom_insert_iff (hfree : associations.get? typeName = none)
    (hmem : d ∈ h.declarations) (hcandidate : Candidate associations d)
    (henclosed : h.EnclosedByClasses d) (hnotBelow : ¬h.Below associations typeName d) :
    h.InheritsFrom (associations.insert typeName retainer) d a ↔
      h.InheritsFrom associations d a := by
  apply inheritsFrom_iff_of_meets_none (Associations.extends_insert hfree)
  intro t hmeets hnew
  have hreached := mem_reach_iff.mpr (reached_roots_iff.mpr ⟨hmem, henclosed⟩)
  have hnamed := (Associations.new_insert_iff hfree).mp hnew
  exact hnotBelow ⟨hreached, hcandidate, t, hmeets, hnamed⟩

/-- Where no class of the row's name is below the type, the row is inherited as before. -/
theorem Row.inheritedBy_insert_iff (hfree : associations.get? typeName = none)
    (hne : row.typeName ≠ typeName)
    (hnone : ∀ d, h.Below associations typeName d → d.name ≠ row.typeName) :
    row.InheritedBy h (associations.insert typeName retainer) d a ↔
      row.InheritedBy h associations d a := by
  have hextends : Associations.Extends (associations.insert typeName retainer) associations :=
    Associations.extends_insert hfree
  have hnotBelow : row.typeName = d.name → ¬h.Below associations typeName d :=
    fun hname hd => hnone d hd hname.symm
  constructor
  · intro hrow
    have hcandidate := hextends.candidate hrow.candidate
    have hinherits := (Hierarchy.inheritsFrom_insert_iff hfree hrow.declared hcandidate
      hrow.enclosedByClasses (hnotBelow hrow.typeName)).mp hrow.inheritsFrom
    have hget := hextends.get?_eq hinherits.contains
    exact { hrow with
      candidate := hcandidate
      inheritsFrom := hinherits
      retainer := hget.symm.trans hrow.retainer }
  · intro hrow
    have hnew : ¬Associations.New (associations.insert typeName retainer) associations d.name := by
      rw [Associations.new_insert_iff hfree, ← hrow.typeName]
      exact hne
    exact { hrow with
      candidate := hrow.candidate.of_not_new hnew
      inheritsFrom := (Hierarchy.inheritsFrom_insert_iff hfree hrow.declared hrow.candidate
        hrow.enclosedByClasses (hnotBelow hrow.typeName)).mpr hrow.inheritsFrom
      retainer := hextends _ _ hrow.retainer }

private theorem row?_insert_self : (tableOf settings h h.roots (associations.insert typeName retainer)).row?
    typeName = some ⟨typeName, retainer, .explicit⟩ := by
  have hget := NameMap.get?_insert associations typeName retainer typeName
  rw [if_pos rfl] at hget
  exact Table.row?_eq_some_iff.mpr ⟨mem_rows_tableOf.mpr (.inl ⟨hget, rfl⟩), rfl⟩

/-- A class below the type inherits from it. -/
theorem row?_insert_of_below (henabled : settings.vectorizeInheritance = true)
    (hfree : associations.get? typeName = none) (hbelow : h.Below associations typeName d)
    (hne : d.name ≠ typeName) :
    (tableOf settings h h.roots (associations.insert typeName retainer)).row? d.name =
      some ⟨d.name, retainer, .derived typeName⟩ := by
  obtain ⟨hreached, hcandidate, t, hmeets, htype⟩ := hbelow
  obtain ⟨hmem, henclosed⟩ := Hierarchy.reached_roots_iff.mp (Hierarchy.mem_reach_iff.mp hreached)
  have hnew : Associations.New (associations.insert typeName retainer) associations t.name :=
    (Associations.new_insert_iff hfree).mpr htype
  obtain ⟨a, -, hnew, ha⟩ := Hierarchy.exists_new_inheritsFrom hmeets hnew
  obtain rfl := (Associations.new_insert_iff hfree).mp hnew
  have hself : ¬Associations.New (associations.insert a.name retainer) associations d.name :=
    fun hnew' => hne ((Associations.new_insert_iff hfree).mp hnew')
  have hrow : (⟨d.name, retainer, .derived a.name⟩ : Row).InheritedBy h
      (associations.insert a.name retainer) d a :=
    { declared := hmem
      candidate := hcandidate.of_not_new hself
      enclosedByClasses := henclosed
      inheritsFrom := ha
      typeName := rfl
      retainer := by rw [NameMap.get?_insert, if_pos rfl]
      origin := rfl }
  exact Table.row?_eq_some_iff.mpr ⟨mem_rows_tableOf.mpr (.inr ⟨henabled, d, a, hrow⟩), rfl⟩

/-- A type that is not below keeps its row, or goes on having none. -/
theorem row?_insert_of_not_below (hfree : associations.get? typeName = none)
    (hne : name ≠ typeName) (hnone : ∀ d, h.Below associations typeName d → d.name ≠ name) :
    (tableOf settings h h.roots (associations.insert typeName retainer)).row? name =
      (tableOf settings h h.roots associations).row? name := by
  refine Option.ext fun row => ?_
  rw [Table.row?_eq_some_iff, Table.row?_eq_some_iff]
  refine and_congr_left ?_
  rintro rfl
  rw [mem_rows_tableOf, mem_rows_tableOf, NameMap.get?_insert, if_neg hne]
  refine or_congr Iff.rfl (and_congr_right fun _ => exists_congr fun d => exists_congr fun a => ?_)
  exact Row.inheritedBy_insert_iff hfree hne hnone

/-- An association of a type that is not declared adds its row and no other. -/
theorem perm_rows_insert_of_undeclared (hfree : associations.get? typeName = none)
    (hundeclared : ∀ d ∈ h.declarations, d.name ≠ typeName) :
    (tableOf settings h h.roots (associations.insert typeName retainer)).rows.toList.Perm
      (⟨typeName, retainer, .explicit⟩ ::
        (tableOf settings h h.roots associations).rows.toList) := by
  have hfresh : ∀ row ∈ (tableOf settings h h.roots associations).rows, row.typeName ≠ typeName :=
    fun row => typeName_ne_of_mem_rows hfree hundeclared
  have hnone : ∀ d, ¬h.Below associations typeName d := by
    rintro d ⟨-, -, t, hmeets, hname⟩
    exact hundeclared t hmeets.mem hname
  apply Table.perm_cons_of_row? hfresh row?_insert_self
  intro name hne
  exact row?_insert_of_not_below hfree hne fun d hbelow => absurd hbelow (hnone d)

/-- A further valid association of a type that has none, wherever it is added, changes a generated
    table in this way only: the type has the explicit row of the association, and every class below it
    inherits from it. All other names have the rows they had, if any. If the type is not declared, its
    row is the only change. -/
theorem generateFromManifest_override (henabled : settings.vectorizeInheritance = true)
    (hgenerated : generateFromManifest settings ⟨types, pairs⟩ = .ok generation)
    (hmanifest : Hierarchy.ofManifest ⟨types, pairs⟩ = .ok h)
    (hassociations : Associations.collect pairs = .ok associations)
    (hnamed : trim typeName ≠ "") (hspelled : Associations.retainer? path = some retainer)
    (hfree : associations.get? (trim typeName) = none)
    (hadded : pairs'.Perm ((typeName, path) :: pairs)) :
    ∃ generation', generateFromManifest settings ⟨types, pairs'⟩ = .ok generation' ∧
      generation'.table.row? (trim typeName) = some ⟨trim typeName, retainer, .explicit⟩ ∧
      (∀ d, h.Below associations (trim typeName) d → d.name ≠ trim typeName →
        generation'.table.row? d.name = some ⟨d.name, retainer, .derived (trim typeName)⟩) ∧
      (∀ name, name ≠ trim typeName →
        (∀ d, h.Below associations (trim typeName) d → d.name ≠ name) →
        generation'.table.row? name = generation.table.row? name) ∧
      ((∀ d ∈ h.declarations, d.name ≠ trim typeName) →
        generation'.table.rows.toList.Perm
          (⟨trim typeName, retainer, .explicit⟩ :: generation.table.rows.toList)) := by
  have hmade := Associations.collect_made hassociations
  have hcollectible := hmade.collectible_cons hnamed hspelled hfree
  obtain ⟨h', fewer, more, hmanifest', hfewer, hmore, htable, hgenerated'⟩ :=
    exists_generateFromManifest_of_collectible hgenerated (hcollectible.of_subset hadded.subset)
  obtain rfl := Except.ok.inj (hmanifest'.symm.trans hmanifest)
  obtain rfl := hfewer.eq_of_mem_iff hmade fun pair => Iff.rfl
  obtain rfl := hfewer.eq_insert hmore (fun pair => hadded.mem_iff) hspelled hfree
  refine ⟨_, hgenerated', row?_insert_self, fun d hbelow hne => ?_, fun name hne hnone => ?_,
    fun hundeclared => ?_⟩
  · exact row?_insert_of_below henabled hfree hbelow hne
  · rw [htable]
    exact row?_insert_of_not_below hfree hne hnone
  · rw [htable]
    exact perm_rows_insert_of_undeclared hfree hundeclared

/-- Once `Mid` is associated, `Leaf` inherits from it instead of from `Base`. -/
theorem generateFromManifest_override_sample :
    ∃ generation overridden, generateFromManifest sampleSettings sampleManifest = .ok generation ∧
      generateFromManifest sampleSettings
        ⟨sampleManifest.types, (" Mid ", "c :: D") :: sampleManifest.associations⟩ =
          .ok overridden ∧
      overridden.table.row? "Mid" =
        some ⟨"Mid", ⟨false, [⟨false, "c"⟩, ⟨false, "D"⟩]⟩, .explicit⟩ ∧
      overridden.table.row? "Leaf" =
        some ⟨"Leaf", ⟨false, [⟨false, "c"⟩, ⟨false, "D"⟩]⟩, .derived "Mid"⟩ ∧
      overridden.table.row? "Base" = generation.table.row? "Base" := by
  have htrim : trim " Mid " = "Mid" := by decide +kernel
  have hspelled : Associations.retainer? "c :: D" =
      some ⟨false, [⟨false, "c"⟩, ⟨false, "D"⟩]⟩ := by decide +kernel
  have hfree : sampleAssociations.get? (trim " Mid ") = none := by rw [htrim]; rfl
  obtain ⟨overridden, hoverridden, hmid, hbelow, hkept, -⟩ := generateFromManifest_override (by rfl)
    generateFromManifest_sample ofManifest_sample collect_sample (by rw [htrim]; decide)
    hspelled hfree (.refl _)
  rw [htrim] at hmid hbelow hkept
  have hleaf : sampleHierarchy.Below sampleAssociations "Mid"
      ⟨"Leaf", .ordinary, some ⟨"Mid", ["X<Y>", "Z"]⟩, some "Mid"⟩ :=
    { reached := Hierarchy.mem_reach_iff.mpr (Hierarchy.reached_roots_iff.mpr
        ⟨inheritedBy_leaf.declared, inheritedBy_leaf.enclosedByClasses⟩)
      candidate := inheritedBy_leaf.candidate
      meets := ⟨⟨"Mid", .ordinary, some ⟨"Base", ["T"]⟩, none⟩, .superclass (.of_find? rfl rfl), rfl⟩ }
  have hbase : ∀ d, sampleHierarchy.Below sampleAssociations "Mid" d → d.name ≠ "Base" := by
    intro d hd hname
    have hget := hd.candidate.unassociated
    rw [hname] at hget
    cases hget
  exact ⟨_, overridden, generateFromManifest_sample, hoverridden, hmid,
    hbelow _ hleaf (by decide), hkept "Base" (by decide) hbase⟩

end RetainerTable
