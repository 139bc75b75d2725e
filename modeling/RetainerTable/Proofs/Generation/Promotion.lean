import RetainerTable.Proofs.Associations.Collection
import RetainerTable.Proofs.Generation.Reassociation

/-!
Promoting inherited retainers to associations.

A row of a generated table can be written back into the manifest, as an association of its type with
its retainer (`Row.pair`). Climbs then stop at the promoted classes, but what they find there is what
they found above before, so every name keeps its retainer.
-/

namespace RetainerTable

open RetainerTable.Text

variable {settings : Settings} {h : Hierarchy} {associations fewer more : Associations}
  {types : List TypeEntry} {pairs pairs' : List (String × String)} {generation : Generation}

/-- The class inherits the retainer, from whichever ancestor. -/
def Hierarchy.InheritsRetainer (h : Hierarchy) (associations : Associations) (d : Declaration)
    (retainer : Source.Path) : Prop :=
  ∃ a, h.InheritsFrom associations d a ∧ associations.get? a.name = some retainer

theorem Hierarchy.InheritsRetainer.unique {d : Declaration} {first second : Source.Path}
    (hfirst : h.InheritsRetainer associations d first)
    (hsecond : h.InheritsRetainer associations d second) : first = second := by
  obtain ⟨a, ha, hget⟩ := hfirst
  obtain ⟨b, hb, hget'⟩ := hsecond
  obtain rfl := ha.unique hb
  exact Option.some.inj (hget.symm.trans hget')

private theorem Row.InheritedBy.inheritsRetainer {row : Row} {d a : Declaration}
    (hrow : row.InheritedBy h associations d a) :
    h.InheritsRetainer associations d row.retainer :=
  ⟨a, hrow.inheritsFrom, hrow.retainer⟩

private theorem get?_tableOf {name : String} {retainer : Source.Path} :
    (tableOf settings h h.roots associations).get? name = some retainer ↔
      associations.get? name = some retainer ∨
      settings.vectorizeInheritance = true ∧ ∃ d ∈ h.declarations, d.name = name ∧
        Candidate associations d ∧ h.EnclosedByClasses d ∧
        h.InheritsRetainer associations d retainer := by
  rw [Table.get?, Option.map_eq_some_iff]
  simp only [Table.row?_eq_some_iff, mem_rows_tableOf]
  constructor
  · rintro ⟨row, ⟨⟨hget, -⟩ | ⟨henabled, d, a, hrow⟩, rfl⟩, rfl⟩
    · exact .inl hget
    · exact .inr ⟨henabled, d, hrow.declared, hrow.typeName.symm, hrow.candidate,
        hrow.enclosedByClasses, hrow.inheritsRetainer⟩
  · rintro (hget | ⟨henabled, d, hmem, rfl, hcandidate, henclosed, a, ha, hget⟩)
    · exact ⟨⟨name, retainer, .explicit⟩, ⟨.inl ⟨hget, rfl⟩, rfl⟩, rfl⟩
    · have hrow : (⟨d.name, retainer, .derived a.name⟩ : Row).InheritedBy h associations d a :=
        ⟨hmem, hcandidate, henclosed, ha, rfl, hget, rfl⟩
      exact ⟨_, ⟨.inr ⟨henabled, d, a, hrow⟩, rfl⟩, rfl⟩

namespace Table

private theorem mem_rows_get? {table : Table} {row : Row} (hrow : row ∈ table.rows) :
    table.get? row.typeName = some row.retainer := by
  rw [get?, row?_eq_some_iff.mpr ⟨hrow, rfl⟩]
  rfl

/-- Tables that give every name the same retainer have rows for the same types. -/
theorem typeNames_eq_of_get?_eq {first second : Table}
    (hget : ∀ name, first.get? name = second.get? name) :
    first.rows.toList.map Row.typeName = second.rows.toList.map Row.typeName := by
  have hmem : ∀ (table : Table) (name : String) (retainer : Source.Path),
      (name, retainer) ∈ table.rows.toList.map (fun row => (row.typeName, row.retainer)) ↔
        table.get? name = some retainer := by
    intro table name retainer
    simp only [List.mem_map, Array.mem_toList_iff, Prod.mk.injEq, get?, Option.map_eq_some_iff,
      row?_eq_some_iff, and_assoc]
  have hasc : ∀ table : Table, (table.rows.toList.map fun row =>
      (row.typeName, row.retainer)).Pairwise fun a b => a.1 < b.1 := by
    intro table
    rw [List.pairwise_map]
    exact table.ascending
  have hrows := NameMap.eq_of_ascending (hasc first) (hasc second) fun (name, retainer) => by
    rw [hmem, hmem, hget]
  have hnames := congrArg (List.map Prod.fst) hrows
  rw [List.map_map, List.map_map] at hnames
  exact hnames

end Table

/-- The more associations add classes with the retainers that these inherit. -/
structure Promotes (h : Hierarchy) (fewer more : Associations) : Prop where
  kept : more.Extends fewer
  inherited : ∀ name retainer, more.get? name = some retainer → fewer.get? name = none →
    ∃ d ∈ h.declarations, d.name = name ∧ Candidate fewer d ∧ h.EnclosedByClasses d ∧
      h.InheritsRetainer fewer d retainer

namespace Promotes

variable {d : Declaration} {retainer : Source.Path}

private theorem inheritsRetainer_of_get? (hpromotes : Promotes h fewer more) (hd : d ∈ h.declarations)
    (hfree : fewer.get? d.name = none) (hget : more.get? d.name = some retainer) :
    Candidate fewer d ∧ h.InheritsRetainer fewer d retainer := by
  obtain ⟨e, he, hname, hcandidate, -, hinherits⟩ :=
    hpromotes.inherited d.name retainer hget hfree
  obtain rfl := Hierarchy.eq_of_name_eq he hd hname
  exact ⟨hcandidate, hinherits⟩

/-- A climb that stops at a promoted class finds the retainer that it would have found above. -/
theorem inheritsRetainer_iff (hpromotes : Promotes h fewer more) :
    h.InheritsRetainer more d retainer ↔ h.InheritsRetainer fewer d retainer := by
  by_cases hnew : ∃ t, h.Meets fewer d t ∧ more.New fewer t.name
  · -- With the more associations the climb stops at `b`; with the fewer it passes `b` and finds
    -- what `b` was promoted with.
    obtain ⟨t, hmeets, hnew⟩ := hnew
    obtain ⟨b, hmeets, hnew, hb⟩ := Hierarchy.exists_new_inheritsFrom hmeets hnew
    obtain ⟨promoted, hget⟩ := Option.isSome_iff_exists.mp hnew.after
    obtain ⟨hcandidate, c, hc, hget'⟩ :=
      hpromotes.inheritsRetainer_of_get? hmeets.mem hnew.before hget
    have hpasses := hmeets.passesAll hcandidate
    have habove : h.InheritsRetainer fewer d promoted :=
      ⟨c, (Hierarchy.inheritsFrom_iff_of_passesAll hpasses).mpr hc, hget'⟩
    have hstop : h.InheritsRetainer more d promoted := ⟨b, hb, hget⟩
    constructor
    · intro hinherits
      exact hstop.unique hinherits ▸ habove
    · intro hinherits
      exact habove.unique hinherits ▸ hstop
  · have hnone : ∀ t, h.Meets fewer d t → ¬more.New fewer t.name :=
      fun t ht hnew' => hnew ⟨t, ht, hnew'⟩
    have hsame := fun a => Hierarchy.inheritsFrom_iff_of_meets_none (a := a) hpromotes.kept hnone
    unfold Hierarchy.InheritsRetainer
    refine exists_congr fun a => ?_
    rw [hsame]
    refine and_congr_right fun ha => ?_
    rw [hpromotes.kept.get?_eq ha.contains]

/-- Promoting classes changes no retainer. -/
theorem get?_tableOf_eq (hpromotes : Promotes h fewer more)
    (henabled : settings.vectorizeInheritance = true) (name : String) :
    (tableOf settings h h.roots more).get? name = (tableOf settings h h.roots fewer).get? name := by
  refine Option.ext fun retainer => ?_
  rw [get?_tableOf, get?_tableOf]
  constructor
  · rintro (hget | ⟨-, d, hmem, hname, hcandidate, henclosed, hinherits⟩)
    · cases hbefore : fewer.get? name with
      | none => exact .inr ⟨henabled, hpromotes.inherited name retainer hget hbefore⟩
      | some kept =>
        have hkept := hpromotes.kept name kept hbefore
        rw [hget] at hkept
        exact .inl hkept.symm
    · have hbefore := hpromotes.kept.candidate hcandidate
      exact .inr ⟨henabled, d, hmem, hname, hbefore, henclosed,
        hpromotes.inheritsRetainer_iff.mp hinherits⟩
  · rintro (hget | ⟨-, d, hmem, rfl, hcandidate, henclosed, hinherits⟩)
    · exact .inl (hpromotes.kept name retainer hget)
    · cases hafter : more.get? d.name with
      | none =>
        exact .inr ⟨henabled, d, hmem, rfl, ⟨hcandidate.isClass, hafter⟩, henclosed,
          hpromotes.inheritsRetainer_iff.mpr hinherits⟩
      | some promoted =>
        have hpromoted :=
          (hpromotes.inheritsRetainer_of_get? hmem hcandidate.unassociated hafter).2
        exact .inl (congrArg some (hpromoted.unique hinherits))

end Promotes

/-- The pair that associates the row's type with its retainer. -/
def Row.pair (row : Row) : String × String :=
  (row.typeName, row.retainer.text)

theorem Hierarchy.trim_name {manifest : Manifest} {d : Declaration}
    (hmade : ofManifest manifest = .ok h) (hd : d ∈ h.declarations) :
    trim d.name = d.name ∧ d.name ≠ "" := by
  obtain ⟨entry, hentry, rfl⟩ := (mem_declarations_iff hmade).mp hd
  exact ⟨trim_trim entry.name, ((lists_of_ofManifest hmade).1.wellFormed entry hentry).named⟩

/-- The pair of a row of a generated table reads back as the row's type and retainer. -/
theorem Row.pair_reads_back {row : Row} (hmade : Hierarchy.ofManifest ⟨types, pairs⟩ = .ok h)
    (hassociations : Associations.Made pairs associations)
    (hrow : row ∈ (tableOf settings h h.roots associations).rows) :
    trim row.pair.1 = row.typeName ∧ row.typeName ≠ "" ∧
      Associations.retainer? row.pair.2 = some row.retainer := by
  rcases mem_rows_tableOf.mp hrow with ⟨hget, -⟩ | ⟨-, d, a, hinherited⟩
  · exact hassociations.trim_name hget
  · obtain ⟨htrim, hne⟩ := Hierarchy.trim_name hmade hinherited.declared
    obtain ⟨-, -, hretainer⟩ := hassociations.trim_name hinherited.retainer
    rw [← hinherited.typeName] at htrim hne
    exact ⟨htrim, hne, hretainer⟩

section WrittenBack

variable {rows : List Row}

/-- Each pair, old or written back, names a type of the table and spells that type's retainer. -/
theorem exists_row_of_writtenBack (hmade : Hierarchy.ofManifest ⟨types, pairs⟩ = .ok h)
    (hassociations : Associations.Made pairs associations)
    (hrows : ∀ row ∈ rows, row ∈ (tableOf settings h h.roots associations).rows)
    {pair : String × String} (hpair : pair ∈ pairs ++ rows.map Row.pair) :
    trim pair.1 ≠ "" ∧ ∃ row ∈ (tableOf settings h h.roots associations).rows,
      trim pair.1 = row.typeName ∧ Associations.retainer? pair.2 = some row.retainer := by
  rcases List.mem_append.mp hpair with hpair | hpair
  · obtain ⟨retainer, hretainer⟩ := hassociations.collectible.spelled pair hpair
    have hget := (hassociations.get? (trim pair.1) retainer).mpr ⟨pair, hpair, rfl, hretainer⟩
    exact ⟨hassociations.collectible.named pair hpair, ⟨trim pair.1, retainer, .explicit⟩,
      mem_rows_tableOf.mpr (.inl ⟨hget, rfl⟩), rfl, hretainer⟩
  · obtain ⟨row, hrow, rfl⟩ := List.mem_map.mp hpair
    obtain ⟨htrim, hne, hretainer⟩ := Row.pair_reads_back hmade hassociations (hrows row hrow)
    exact ⟨htrim ▸ hne, row, hrows row hrow, htrim, hretainer⟩

private theorem collectible_writtenBack (hmade : Hierarchy.ofManifest ⟨types, pairs⟩ = .ok h)
    (hassociations : Associations.Made pairs associations)
    (hrows : ∀ row ∈ rows, row ∈ (tableOf settings h h.roots associations).rows) :
    Associations.Collectible (pairs ++ rows.map Row.pair) where
  named pair hpair := (exists_row_of_writtenBack hmade hassociations hrows hpair).1
  spelled pair hpair := by
    obtain ⟨-, row, -, -, hretainer⟩ := exists_row_of_writtenBack hmade hassociations hrows hpair
    exact ⟨row.retainer, hretainer⟩
  consistent first hfirst second hsecond hname := by
    obtain ⟨-, row, hrow, htype, hretainer⟩ :=
      exists_row_of_writtenBack hmade hassociations hrows hfirst
    obtain ⟨-, row', hrow', htype', hretainer'⟩ :=
      exists_row_of_writtenBack hmade hassociations hrows hsecond
    have hget := Table.mem_rows_get? hrow
    rw [← htype, hname, htype', Table.mem_rows_get? hrow'] at hget
    rw [hretainer, hretainer', hget]

private theorem promotes_writtenBack (hmade : Hierarchy.ofManifest ⟨types, pairs⟩ = .ok h)
    (hfewer : Associations.Made pairs fewer) (hmore : Associations.Made pairs' more)
    (hrows : ∀ row ∈ rows, row ∈ (tableOf settings h h.roots fewer).rows)
    (hadded : ∀ pair, pair ∈ pairs' ↔ pair ∈ pairs ++ rows.map Row.pair) :
    Promotes h fewer more where
  kept := hfewer.extends_of_subset hmore fun pair hpair =>
    (hadded pair).mpr (List.mem_append_left _ hpair)
  inherited name retainer hget hfree := by
    obtain ⟨pair, hpair, rfl, hretainer⟩ := (hmore.get? name retainer).mp hget
    obtain ⟨-, row, hrow, htype, hretainer'⟩ :=
      exists_row_of_writtenBack hmade hfewer hrows ((hadded pair).mp hpair)
    obtain rfl := Option.some.inj (hretainer.symm.trans hretainer')
    rw [htype] at hfree
    obtain ⟨d, a, hinherited⟩ := exists_inheritedBy_of_mem_rows hrow hfree
    exact ⟨d, hinherited.declared, hinherited.typeName.symm.trans htype.symm,
      hinherited.candidate, hinherited.enclosedByClasses, hinherited.inheritsRetainer⟩

end WrittenBack

/-- Associating types of a generated table with the retainers of their rows, in whatever places of
    the manifest, generates a table with rows for the same types, in which every name has the same
    retainer. -/
theorem generateFromManifest_promote {rows : List Row}
    (henabled : settings.vectorizeInheritance = true)
    (hgenerated : generateFromManifest settings ⟨types, pairs⟩ = .ok generation)
    (hrows : ∀ row ∈ rows, row ∈ generation.table.rows)
    (hadded : pairs'.Perm (pairs ++ rows.map Row.pair)) :
    ∃ generation', generateFromManifest settings ⟨types, pairs'⟩ = .ok generation' ∧
      generation'.table.rows.toList.map Row.typeName =
        generation.table.rows.toList.map Row.typeName ∧
      ∀ name, generation'.table.get? name = generation.table.get? name := by
  obtain ⟨h, hmade, -, associations, hcollect, rfl⟩ := generateFromManifest_eq_ok_iff.mp hgenerated
  have hcollectible := collectible_writtenBack hmade (Associations.collect_made hcollect) hrows
  obtain ⟨h', fewer, more, hmade', hfewer, hmore, htable, hgenerated'⟩ :=
    exists_generateFromManifest_of_collectible hgenerated
      (hcollectible.of_subset hadded.subset)
  rw [htable] at hrows
  have hpromotes := promotes_writtenBack hmade' hfewer hmore hrows fun pair => hadded.mem_iff
  have hget : ∀ name, (tableOf settings h' h'.roots more).get? name =
      (generated settings h h.roots associations (Associations.notes pairs)).table.get? name := by
    intro name
    rw [htable]
    exact hpromotes.get?_tableOf_eq henabled name
  exact ⟨_, hgenerated', Table.typeNames_eq_of_get?_eq hget, hget⟩

/-- `Mid` inherits the retainer of `Base`. -/
theorem inheritedBy_mid : Row.InheritedBy sampleHierarchy sampleAssociations
    ⟨"Mid", sampleRetainer, .derived "Base"⟩ ⟨"Mid", .ordinary, some ⟨"Base", ["T"]⟩, none⟩
    ⟨"Base", .interface, none, none⟩ where
  declared := by decide
  candidate := ⟨rfl, rfl⟩
  enclosedByClasses := .topLevel rfl
  inheritsFrom := .superclass (.of_find? rfl rfl) rfl
  typeName := rfl
  retainer := rfl
  origin := rfl

/-- Once `Mid` is associated with what it inherits, `Leaf` inherits that from `Mid`. -/
theorem generateFromManifest_promote_sample :
    ∃ generation promoted, generateFromManifest sampleSettings sampleManifest = .ok generation ∧
      ⟨"Mid", sampleRetainer, .derived "Base"⟩ ∈ generation.table.rows ∧
      generateFromManifest sampleSettings
        ⟨sampleManifest.types, ("Mid", "a::B") :: sampleManifest.associations⟩ = .ok promoted ∧
      promoted.table.get? "Leaf" = some sampleRetainer ∧
      promoted.table.rows.toList.map Row.typeName = generation.table.rows.toList.map Row.typeName ∧
      ∀ name, promoted.table.get? name = generation.table.get? name := by
  have hmid : ⟨"Mid", sampleRetainer, .derived "Base"⟩ ∈ (tableOf sampleSettings sampleHierarchy
      sampleHierarchy.roots sampleAssociations).rows :=
    mem_rows_tableOf.mpr (.inr ⟨rfl, _, _, inheritedBy_mid⟩)
  have hleaf : ⟨"Leaf", sampleRetainer, .derived "Base"⟩ ∈ (tableOf sampleSettings sampleHierarchy
      sampleHierarchy.roots sampleAssociations).rows :=
    mem_rows_tableOf.mpr (.inr ⟨rfl, _, _, inheritedBy_leaf⟩)
  have hpair : Row.pair ⟨"Mid", sampleRetainer, .derived "Base"⟩ = ("Mid", "a::B") := by
    decide +kernel
  have hadded : (("Mid", "a::B") :: sampleManifest.associations).Perm (sampleManifest.associations ++
      [⟨"Mid", sampleRetainer, .derived "Base"⟩].map Row.pair) := by
    rw [List.map_singleton, hpair]
    exact (List.perm_append_singleton _ _).symm
  obtain ⟨promoted, hpromoted, hnames, hget⟩ := generateFromManifest_promote (by rfl)
    generateFromManifest_sample (List.forall_mem_singleton.mpr hmid) hadded
  have hkept := (hget "Leaf").trans (Table.mem_rows_get? hleaf)
  exact ⟨_, promoted, generateFromManifest_sample, hmid, hpromoted, hkept, hnames, hget⟩

end RetainerTable
