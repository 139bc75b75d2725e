import RetainerTable.Proofs.Generation.Order

/-!
One more type.

A type that no declaration names as its superclass leaves the declared types a part of the larger
hierarchy (`Hierarchy.partOf_cons`), so all of them keep their rows. The type itself has a row if it
inherits something, wherever it is listed.
-/

namespace RetainerTable

open RetainerTable.Text

variable {settings : Settings} {h h' : Hierarchy} {associations : Associations}
  {entry : TypeEntry} {types front back : List TypeEntry} {pairs : List (String × String)}
  {generation : Generation}

/-- The entry may be listed beside the declarations: it is well-formed, its name is free, and the type
    that it is nested in is declared or itself. No other entries are accepted
    (`Manifest.lists_cons_iff`). -/
structure TypeEntry.Joins (h : Hierarchy) (entry : TypeEntry) : Prop where
  wellFormed : entry.WellFormed
  undeclared : ∀ d ∈ h.declarations, d.name ≠ trim entry.name
  enclosed : ∀ outer, entry.enclosing = some outer →
    trim outer = trim entry.name ∨ ∃ d ∈ h.declarations, d.name = trim outer

private theorem Manifest.lists_cons_iff (hmanifest : Hierarchy.ofManifest ⟨types, pairs⟩ = .ok h) :
    Manifest.Lists ⟨entry :: types, pairs⟩ ↔ entry.Joins h := by
  obtain ⟨hlists, hsaid⟩ := Hierarchy.ofManifest_eq_ok_iff.mp hmanifest
  have hnamed : ∀ name, (∃ d ∈ h.declarations, d.name = name) ↔
      ∃ other ∈ types, trim other.name = name := by
    intro name
    rw [hsaid]
    simp only [List.mem_map, exists_exists_and_eq_and, Declaration.said]
  constructor
  · intro hmore
    have hdistinct : trim entry.name ∉ types.map fun other => trim other.name :=
      (List.nodup_cons.mp hmore.distinct).1
    refine ⟨hmore.wellFormed entry (List.mem_cons_self ..), ?_, ?_⟩
    · intro d hd hname
      obtain ⟨other, hother, hname⟩ := (hnamed (trim entry.name)).mp ⟨d, hd, hname⟩
      exact hdistinct (List.mem_map.mpr ⟨other, hother, hname⟩)
    · intro outer houter
      obtain ⟨other, hother, hname⟩ := hmore.enclosed entry (List.mem_cons_self ..) outer houter
      rcases List.mem_cons.mp hother with rfl | hother
      · exact .inl hname.symm
      · exact .inr ((hnamed (trim outer)).mpr ⟨other, hother, hname⟩)
  · intro hjoins
    refine ⟨List.forall_mem_cons.mpr ⟨hjoins.wellFormed, hlists.wellFormed⟩, ?_, ?_⟩
    · refine List.nodup_cons.mpr ⟨fun hmem => ?_, hlists.distinct⟩
      obtain ⟨d, hd, hname⟩ := (hnamed (trim entry.name)).mpr (List.mem_map.mp hmem)
      exact hjoins.undeclared d hd hname
    · intro nested hnested outer houter
      rcases List.mem_cons.mp hnested with rfl | hnested
      · rcases hjoins.enclosed outer houter with hself | hdeclared
        · exact ⟨nested, List.mem_cons_self .., hself.symm⟩
        · obtain ⟨other, hother, hname⟩ := (hnamed (trim outer)).mp hdeclared
          exact ⟨other, List.mem_cons_of_mem _ hother, hname⟩
      · obtain ⟨other, hother, hname⟩ := hlists.enclosed nested hnested outer houter
        exact ⟨other, List.mem_cons_of_mem _ hother, hname⟩

namespace Hierarchy

/-- An entry that joins the declarations is the first declaration of a larger hierarchy. -/
theorem exists_ofManifest_cons (hmanifest : ofManifest ⟨types, pairs⟩ = .ok h)
    (hjoins : entry.Joins h) : ∃ h', ofManifest ⟨entry :: types, pairs⟩ = .ok h' ∧
      h'.declarations = .said entry :: h.declarations := by
  obtain ⟨h', hmanifest', hsaid'⟩ :=
    ofManifest_of_lists ((Manifest.lists_cons_iff hmanifest).mpr hjoins)
  rw [(lists_of_ofManifest hmanifest).2]
  exact ⟨h', hmanifest', hsaid'⟩

variable {added : Declaration}

private theorem partOf_cons (hmore : h'.declarations = added :: h.declarations)
    (hunreferenced : ∀ d ∈ h.declarations, ∀ reference, d.superclass = some reference →
      reference.name ≠ added.name) : h.PartOf h' where
  subset := by
    rw [hmore]
    exact List.subset_cons_self ..
  closed d hd reference hsuper e he hname := by
    rw [hmore] at he
    rcases List.mem_cons.mp he with rfl | he
    · exact absurd hname.symm (hunreferenced d hd reference hsuper)
    · exact he

end Hierarchy

theorem Row.InheritedBy.unique {first second : Row} {d a b : Declaration}
    (hfirst : first.InheritedBy h associations d a)
    (hsecond : second.InheritedBy h associations d b) : first = second := by
  obtain ⟨typeName, retainer, origin⟩ := first
  obtain ⟨typeName', retainer', origin'⟩ := second
  obtain ⟨-, -, -, ha, rfl, hget, rfl⟩ := hfirst
  obtain ⟨-, -, -, hb, rfl, hget', rfl⟩ := hsecond
  obtain rfl := ha.unique hb
  obtain rfl := Option.some.inj (hget.symm.trans hget')
  rfl

section Added

variable {added : Declaration}

/-- All rows but the added declaration's own are those of the part. -/
theorem mem_rows_tableOf_cons_iff {row : Row}
    (hmore : h'.declarations = added :: h.declarations) (hpart : h.PartOf h') :
    row ∈ (tableOf settings h' h'.roots associations).rows ↔
      (settings.vectorizeInheritance = true ∧ ∃ a, row.InheritedBy h' associations added a) ∨
        row ∈ (tableOf settings h h.roots associations).rows := by
  rw [mem_rows_tableOf, mem_rows_tableOf]
  constructor
  · rintro (hexplicit | ⟨henabled, d, a, hrow⟩)
    · exact .inr (.inl hexplicit)
    · have hd := hrow.declared
      rw [hmore] at hd
      rcases List.mem_cons.mp hd with rfl | hd
      · exact .inl ⟨henabled, a, hrow⟩
      · exact .inr (.inr ⟨henabled, d, a, (hpart.inheritedBy_iff hd).mp hrow⟩)
  · rintro (⟨henabled, a, hrow⟩ | hexplicit | ⟨henabled, d, a, hrow⟩)
    · exact .inr ⟨henabled, added, a, hrow⟩
    · exact .inl hexplicit
    · exact .inr ⟨henabled, d, a, (hpart.inheritedBy_iff hrow.declared).mpr hrow⟩

private theorem tableOf_cons (hmore : h'.declarations = added :: h.declarations) (hpart : h.PartOf h') :
    tableOf settings h' h'.roots associations = tableOf settings h h.roots associations ∨
      ∃ row ancestor, row.typeName = added.name ∧ row.origin = .derived ancestor ∧
        (tableOf settings h' h'.roots associations).rows.toList.Perm
          (row :: (tableOf settings h h.roots associations).rows.toList) := by
  by_cases hown : settings.vectorizeInheritance = true ∧
      ∃ row a, Row.InheritedBy h' associations row added a
  · obtain ⟨henabled, own, a, hown⟩ := hown
    have hundeclared : ∀ d ∈ h.declarations, d.name ≠ added.name := by
      have hdistinct := h'.distinct
      rw [hmore] at hdistinct
      intro d hd hname
      exact (List.nodup_cons.mp hdistinct).1 (List.mem_map.mpr ⟨d, hd, hname⟩)
    have hfresh : ∀ row ∈ (tableOf settings h h.roots associations).rows,
        row.typeName ≠ own.typeName := by
      rw [hown.typeName]
      exact fun row => typeName_ne_of_mem_rows hown.candidate.unassociated hundeclared
    refine .inr ⟨own, a.name, hown.typeName, hown.origin, ?_⟩
    refine Table.perm_cons_of_mem_rows_iff hfresh fun row => ?_
    rw [mem_rows_tableOf_cons_iff hmore hpart]
    refine or_congr_left ⟨?_, ?_⟩
    · rintro ⟨-, b, hrow⟩
      exact hrow.unique hown
    · rintro rfl
      exact ⟨henabled, a, hown⟩
  · refine .inl (Table.eq_of_mem_rows_iff fun row => ?_)
    rw [mem_rows_tableOf_cons_iff hmore hpart]
    refine or_iff_right ?_
    rintro ⟨henabled, a, hrow⟩
    exact hown ⟨henabled, row, a, hrow⟩

end Added

/-- Listing a further type, anywhere among the types, under a name that is not declared and that no
    superclass of a declaration has, generates the same table or one with a single row more, which
    is inherited by the type. -/
theorem generateFromManifest_insert
    (hgenerated : generateFromManifest settings ⟨front ++ back, pairs⟩ = .ok generation)
    (hmanifest : Hierarchy.ofManifest ⟨front ++ back, pairs⟩ = .ok h) (hjoins : entry.Joins h)
    (hunreferenced : ∀ d ∈ h.declarations, ∀ reference, d.superclass = some reference →
      reference.name ≠ trim entry.name) :
    ∃ generation', generateFromManifest settings ⟨front ++ entry :: back, pairs⟩ =
        .ok generation' ∧
      (generation'.table = generation.table ∨
        ∃ row ancestor, row.typeName = trim entry.name ∧ row.origin = .derived ancestor ∧
          generation'.table.rows.toList.Perm (row :: generation.table.rows.toList)) := by
  obtain ⟨_, hmanifest', hvalid, associations, hcollect, rfl⟩ :=
    generateFromManifest_eq_ok_iff.mp hgenerated
  obtain rfl := Except.ok.inj (hmanifest'.symm.trans hmanifest)
  obtain ⟨h', hmore, hdeclarations⟩ := Hierarchy.exists_ofManifest_cons hmanifest hjoins
  have hfirst : generateFromManifest settings ⟨entry :: (front ++ back), pairs⟩ =
      .ok (generated settings h' h'.roots associations (Associations.notes pairs)) :=
    generateFromManifest_eq_ok_iff.mpr ⟨h', hmore, hvalid, associations, hcollect, rfl⟩
  -- The place of the entry does not matter, since the order of the types does not.
  obtain ⟨generation', hgenerated', htable, -⟩ :=
    generateFromManifest_of_perm List.perm_middle.symm (.refl _) hfirst
  refine ⟨generation', hgenerated', ?_⟩
  rw [htable]
  exact tableOf_cons hdeclarations (Hierarchy.partOf_cons hdeclarations hunreferenced)

/-- The types of the sample and, between them, one that is nested in `Leaf` and a subclass of it. -/
def grownTypes : List TypeEntry :=
  sampleManifest.types.take 2 ++ ⟨" Twig", .ordinary, "Leaf<Q>", "Leaf"⟩ :: sampleManifest.types.drop 2

def grownHierarchy : Hierarchy where
  declarations := sampleDeclarations.take 2 ++
    ⟨"Twig", .ordinary, some ⟨"Leaf", ["Q"]⟩, some "Leaf"⟩ :: sampleDeclarations.drop 2
  distinct := by decide +kernel
  enclosed := by decide +kernel

private theorem ofManifest_grown :
    Hierarchy.ofManifest ⟨grownTypes, sampleManifest.associations⟩ = .ok grownHierarchy :=
  eq_ok_of_map_toOption (fun _ _ => Hierarchy.eq_of_declarations) (by decide +kernel)

/-- `Twig` inherits the retainer of `Base`, past `Leaf` and `Mid`. -/
theorem inheritedBy_twig : Row.InheritedBy grownHierarchy sampleAssociations
    ⟨"Twig", sampleRetainer, .derived "Base"⟩
    ⟨"Twig", .ordinary, some ⟨"Leaf", ["Q"]⟩, some "Leaf"⟩ ⟨"Base", .interface, none, none⟩ := by
  have hleaf : grownHierarchy.Passes sampleAssociations
      ⟨"Twig", .ordinary, some ⟨"Leaf", ["Q"]⟩, some "Leaf"⟩
      ⟨"Leaf", .ordinary, some ⟨"Mid", ["X<Y>", "Z"]⟩, some "Mid"⟩ :=
    ⟨.of_find? rfl rfl, rfl, rfl⟩
  have hmid : grownHierarchy.Passes sampleAssociations
      ⟨"Leaf", .ordinary, some ⟨"Mid", ["X<Y>", "Z"]⟩, some "Mid"⟩
      ⟨"Mid", .ordinary, some ⟨"Base", ["T"]⟩, none⟩ :=
    ⟨.of_find? rfl rfl, rfl, rfl⟩
  exact {
    declared := by decide
    candidate := ⟨rfl, rfl⟩
    enclosedByClasses := .nested (by decide) rfl hleaf.candidate.isClass
      (.nested (by decide) rfl hmid.candidate.isClass (.topLevel rfl))
    inheritsFrom := .above hleaf (.above hmid (.superclass (.of_find? rfl rfl) rfl))
    typeName := rfl
    retainer := rfl
    origin := rfl }

private theorem joins_twig : TypeEntry.Joins sampleHierarchy ⟨" Twig", .ordinary, "Leaf<Q>", "Leaf"⟩ := by
  have htrim : trim " Twig" = "Twig" := by decide +kernel
  refine ⟨⟨by rw [htrim]; decide, ?_⟩, by rw [htrim]; decide, ?_⟩
  · rintro reference ⟨⟩
    exact ⟨⟨"Leaf", ["Q"]⟩, by decide +kernel⟩
  · rintro outer ⟨⟩
    exact .inr ⟨⟨"Leaf", .ordinary, some ⟨"Mid", ["X<Y>", "Z"]⟩, some "Mid"⟩, by decide,
      by decide +kernel⟩

/-- The table gains the row of `Twig`, and no other. -/
theorem generateFromManifest_insert_sample :
    ∃ generation grown, generateFromManifest sampleSettings sampleManifest = .ok generation ∧
      generateFromManifest sampleSettings ⟨grownTypes, sampleManifest.associations⟩ = .ok grown ∧
      (∀ row ∈ generation.table.rows, row.typeName ≠ "Twig") ∧
      ⟨"Twig", sampleRetainer, .derived "Base"⟩ ∈ grown.table.rows ∧
      ∃ row ancestor, row.typeName = "Twig" ∧ row.origin = .derived ancestor ∧
        grown.table.rows.toList.Perm (row :: generation.table.rows.toList) := by
  have htrim : trim " Twig" = "Twig" := by decide +kernel
  have hunreferenced : ∀ d ∈ sampleHierarchy.declarations, ∀ reference,
      d.superclass = some reference → reference.name ≠ trim " Twig" := by
    have hnames : ∀ d ∈ sampleDeclarations, ∀ reference ∈ d.superclass,
        reference.name ≠ "Twig" := by decide
    rw [htrim]
    exact fun d hd reference hsuper => hnames d hd reference hsuper
  have hgenerated : generateFromManifest sampleSettings ⟨sampleManifest.types.take 2 ++
      sampleManifest.types.drop 2, sampleManifest.associations⟩ = .ok _ :=
    generateFromManifest_sample
  obtain ⟨grown, hgrown, htable⟩ :=
    generateFromManifest_insert hgenerated ofManifest_sample joins_twig hunreferenced
  rw [htrim] at htable
  have hgrown' : generateFromManifest sampleSettings ⟨grownTypes, sampleManifest.associations⟩ =
      .ok _ :=
    generateFromManifest_eq_ok_iff.mpr
      ⟨_, ofManifest_grown, validate_sample, _, collect_sample, rfl⟩
  obtain rfl := Except.ok.inj (hgrown.symm.trans hgrown')
  have hbefore : ∀ row ∈ (tableOf sampleSettings sampleHierarchy sampleHierarchy.roots
      sampleAssociations).rows, row.typeName ≠ "Twig" :=
    fun row hrow => typeName_ne_of_mem_rows (by rfl) (by decide) hrow
  have hafter : ⟨"Twig", sampleRetainer, .derived "Base"⟩ ∈ (tableOf sampleSettings grownHierarchy
      grownHierarchy.roots sampleAssociations).rows :=
    mem_rows_tableOf.mpr (.inr ⟨rfl, _, _, inheritedBy_twig⟩)
  refine ⟨_, _, generateFromManifest_sample, hgrown, hbefore, hafter, ?_⟩
  rcases htable with hsame | hmore
  · have hkept : tableOf sampleSettings grownHierarchy grownHierarchy.roots sampleAssociations =
        tableOf sampleSettings sampleHierarchy sampleHierarchy.roots sampleAssociations := hsame
    exact absurd rfl (hbefore _ (hkept ▸ hafter))
  · exact hmore

end RetainerTable
