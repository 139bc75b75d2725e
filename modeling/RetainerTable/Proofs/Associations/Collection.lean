import RetainerTable.Proofs.Associations
import RetainerTable.Proofs.Source.Rereading

/-!
What collecting pairs comes to, whether they are accepted or refused.

Accepted pairs give each named type the retainer that all its pairs spell; order and repetition leave
no trace in the result, and the result can be written out as pairs (`Associations.writtenOut`) and
collected again. Refused pairs are refused for the first that breaks a rule behind those in front of
it (`Breaks`). `collect_outcome` says both.
-/

namespace RetainerTable.Associations

open RetainerTable.Text RetainerTable.Source

variable {associations : Associations} {pairs others done : List (String × String)}
  {pair : String × String} {name : String} {error : Error}

/-- The names are trimmed and not blank, and the retainers are read from their spellings. -/
theorem Made.trim_name {retainer : Source.Path} (hmade : Made pairs associations)
    (hget : associations.get? name = some retainer) :
    trim name = name ∧ name ≠ "" ∧ retainer? retainer.text = some retainer := by
  obtain ⟨pair, hpair, rfl, hretainer⟩ := (hmade.get? name retainer).mp hget
  exact ⟨trim_trim pair.1, hmade.collectible.named pair hpair, retainer?_text hretainer⟩

/-- The names are those of the pairs. -/
theorem Made.mem_names_iff (hmade : Made pairs associations) :
    name ∈ associations.names ↔ ∃ pair ∈ pairs, trim pair.1 = name := by
  rw [NameMap.mem_names_iff]
  constructor
  · rintro ⟨retainer, hget⟩
    obtain ⟨pair, hpair, hname, -⟩ := (hmade.get? name retainer).mp hget
    exact ⟨pair, hpair, hname⟩
  · rintro ⟨pair, hpair, rfl⟩
    obtain ⟨retainer, hretainer⟩ := hmade.collectible.spelled pair hpair
    exact ⟨retainer, (hmade.get? _ _).mpr ⟨pair, hpair, rfl, hretainer⟩⟩

/-- Every pair of a type spells its retainer. -/
theorem Made.get?_trim (hmade : Made pairs associations) (hpair : pair ∈ pairs) :
    associations.get? (trim pair.1) = retainer? pair.2 := by
  obtain ⟨retainer, hretainer⟩ := hmade.collectible.spelled pair hpair
  rw [hretainer]
  exact (hmade.get? _ _).mpr ⟨pair, hpair, rfl, hretainer⟩

/-- The first pair of a type spells its retainer, and a type without pairs has none. -/
theorem Made.get?_eq_find? (hmade : Made pairs associations) : associations.get? name =
    (pairs.find? fun pair => trim pair.1 = name).bind fun pair => retainer? pair.2 := by
  cases hfirst : pairs.find? fun pair => trim pair.1 = name with
  | none =>
    refine Option.eq_none_iff_forall_ne_some.mpr fun retainer hget => ?_
    obtain ⟨pair, hpair, hname, -⟩ := (hmade.get? name retainer).mp hget
    have hother := List.find?_eq_none.mp hfirst pair hpair
    simp [hname] at hother
  | some pair =>
    have hname : trim pair.1 = name := by simpa using List.find?_some hfirst
    rw [← hname, hmade.get?_trim (List.mem_of_find?_eq_some hfirst), Option.bind_some]

private theorem collect_eq_ok_iff : collect pairs = .ok associations ↔ Made pairs associations := by
  constructor
  · exact collect_made
  · intro hmade
    obtain ⟨collected, hcollected⟩ := exists_collect_iff.mpr hmade.collectible
    rw [hcollected, (collect_made hcollected).eq_of_mem_iff hmade fun _ => Iff.rfl]

/-- The pairs of a set make one result, in whatever order and however often they are given. -/
theorem Made.of_mem_iff (hmade : Made pairs associations)
    (hmem : ∀ pair, pair ∈ others ↔ pair ∈ pairs) : Made others associations where
  collectible := hmade.collectible.of_subset fun pair => (hmem pair).mp
  get? name retainer := by
    rw [hmade.get?]
    simp only [hmem]

/-- The associations as pairs of names and spelled paths. -/
def writtenOut (associations : Associations) : List (String × String) :=
  associations.toList.map fun row => (row.1, row.2.text)

private theorem mem_writtenOut_iff : pair ∈ associations.writtenOut ↔
    ∃ retainer, associations.get? pair.1 = some retainer ∧ retainer.text = pair.2 := by
  obtain ⟨name, path⟩ := pair
  simp only [writtenOut, List.mem_map, Prod.mk.injEq]
  constructor
  · rintro ⟨⟨_, retainer⟩, hrow, rfl, rfl⟩
    exact ⟨retainer, NameMap.mem_toList_iff.mp hrow, rfl⟩
  · rintro ⟨retainer, hget, rfl⟩
    exact ⟨(name, retainer), NameMap.mem_toList_iff.mpr hget, rfl, rfl⟩

/-- What was collected once is collected again from its own rows. -/
theorem Made.writtenOut (hmade : Made pairs associations) :
    Made associations.writtenOut associations := by
  -- Trimming leaves a written name as it is, so a pair written out is read as the row that it is of.
  have hread : ∀ pair ∈ associations.writtenOut, trim pair.1 = pair.1 ∧ pair.1 ≠ "" ∧
      ∃ retainer, associations.get? pair.1 = some retainer ∧ retainer? pair.2 = some retainer := by
    intro pair hpair
    obtain ⟨retainer, hget, htext⟩ := mem_writtenOut_iff.mp hpair
    obtain ⟨htrim, hne, hretainer⟩ := hmade.trim_name hget
    exact ⟨htrim, hne, retainer, hget, htext ▸ hretainer⟩
  refine ⟨⟨?_, ?_, ?_⟩, fun name retainer => ⟨?_, ?_⟩⟩
  · intro pair hpair
    obtain ⟨htrim, hne, -⟩ := hread pair hpair
    rwa [htrim]
  · intro pair hpair
    obtain ⟨-, -, retainer, -, hretainer⟩ := hread pair hpair
    exact ⟨retainer, hretainer⟩
  · intro first hfirst second hsecond hname
    obtain ⟨htrim, -, retainer, hget, hretainer⟩ := hread first hfirst
    obtain ⟨htrim', -, retainer', hget', hretainer'⟩ := hread second hsecond
    rw [htrim, htrim'] at hname
    rw [hretainer, hretainer', ← hget, ← hget', hname]
  · intro hget
    obtain ⟨htrim, -, hretainer⟩ := hmade.trim_name hget
    exact ⟨(name, retainer.text), mem_writtenOut_iff.mpr ⟨retainer, hget, rfl⟩, htrim, hretainer⟩
  · rintro ⟨pair, hpair, rfl, hretainer⟩
    obtain ⟨htrim, -, retainer', hget, hretainer'⟩ := hread pair hpair
    rw [htrim, hget, ← hretainer', hretainer]

/-- Retainers read from paths are told apart by their spellings. -/
theorem map_text_retainer?_eq_iff {path other : String} :
    (retainer? path).map Path.text = (retainer? other).map Path.text ↔
      retainer? path = retainer? other := by
  constructor
  · intro htext
    cases hpath : retainer? path with
    | none =>
      rw [hpath, Option.map_none, eq_comm, Option.map_eq_none_iff] at htext
      exact htext.symm
    | some first =>
      rw [hpath, Option.map_some, eq_comm, Option.map_eq_some_iff] at htext
      obtain ⟨second, hother, htext⟩ := htext
      rw [hother, Path.text_injective (Path.wellSpelled_of_parse? hother)
        (Path.wellSpelled_of_parse? hpath) htext]
  · intro hsame
    rw [hsame]

/-- The pair may not stand behind the pairs before it, and the error says why: a missing name comes
    before a path that cannot be read, and that before a retainer other than the first that its type
    was given. -/
inductive Breaks (before : List (String × String)) (pair : String × String) : Error → Prop
  | emptyTypeName (hblank : trim pair.1 = "") : Breaks before pair (.emptyTypeName pair.2)
  | invalidRetainer (hnamed : trim pair.1 ≠ "") (hunread : retainer? pair.2 = none) :
      Breaks before pair (.invalidRetainer (trim pair.1) pair.2)
  | conflictingRetainers {first : String × String} {existing incoming : Source.Path}
      (hnamed : trim pair.1 ≠ "") (hincoming : retainer? pair.2 = some incoming)
      (hfirst : before.find? (fun earlier => trim earlier.1 = trim pair.1) = some first)
      (hexisting : retainer? first.2 = some existing) (hdiffer : existing ≠ incoming) :
      Breaks before pair (.conflictingRetainers (trim pair.1) existing incoming)

private theorem add_of_breaks (hmade : Made done associations) (hbreaks : Breaks done pair error) :
    associations.add pair.1 pair.2 = .error error := by
  unfold add readRetainer
  cases hbreaks with
  | emptyTypeName hblank => simp [hblank]
  | invalidRetainer hnamed hunread => simp [hnamed, hunread]
  | @conflictingRetainers first existing _ hnamed hincoming hfirst hexisting hdiffer =>
    have hget : associations.get? (trim pair.1) = some existing := by
      rw [hmade.get?_eq_find?, hfirst, Option.bind_some, hexisting]
    simp [hnamed, hincoming, hget, hdiffer]

/-- A pair breaks a rule unless it is added. -/
theorem exists_breaks (hmade : Made done associations)
    (hrefused : ∀ result, associations.add pair.1 pair.2 ≠ .ok result) :
    ∃ error, Breaks done pair error := by
  by_cases hblank : trim pair.1 = ""
  · exact ⟨_, .emptyTypeName hblank⟩
  cases hspelled : retainer? pair.2 with
  | none => exact ⟨_, .invalidRetainer hblank hspelled⟩
  | some incoming =>
    cases hget : associations.get? (trim pair.1) with
    | none =>
      exact absurd (add_eq_ok_iff.mpr ⟨hblank, incoming, hspelled, .inl ⟨hget, rfl⟩⟩) (hrefused _)
    | some existing =>
      obtain ⟨first, hfirst, hexisting⟩ :=
        Option.bind_eq_some_iff.mp (hmade.get?_eq_find?.symm.trans hget)
      have hdiffer : existing ≠ incoming := by
        rintro rfl
        exact hrefused _ (add_eq_ok_iff.mpr ⟨hblank, existing, hspelled, .inr ⟨hget, rfl⟩⟩)
      exact ⟨_, .conflictingRetainers hblank hspelled hfirst hexisting hdiffer⟩

/-- One pair is refused for the rule that it breaks behind those collected. -/
theorem add_eq_error_iff (hmade : Made done associations) :
    associations.add pair.1 pair.2 = .error error ↔ Breaks done pair error := by
  constructor
  · intro hfails
    obtain ⟨error', hbreaks⟩ := exists_breaks hmade fun result hadded => by
      rw [hfails] at hadded
      cases hadded
    rw [add_of_breaks hmade hbreaks] at hfails
    cases hfails
    exact hbreaks
  · exact add_of_breaks hmade

/-- A run ends at the first pair that is refused. -/
theorem addAll_eq_error_iff {log : List Event} : addAll associations log pairs = .error error ↔
    ∃ before pair after collected noted, pairs = before ++ pair :: after ∧
      addAll associations log before = .ok (collected, noted) ∧
      collected.add pair.1 pair.2 = .error error := by
  induction pairs generalizing associations log with
  | nil => simp [addAll]
  | cons first pairs ih =>
    constructor
    · intro hfails
      unfold addAll at hfails
      split at hfails
      next added hadded =>
        obtain ⟨before, pair, after, collected, noted, rfl, hbefore, hrefused⟩ := ih.mp hfails
        refine ⟨first :: before, pair, after, collected, noted, rfl, ?_, hrefused⟩
        rw [addAll, hadded]
        exact hbefore
      next hrefused =>
        cases hfails
        exact ⟨[], first, pairs, associations, log, rfl, rfl, hrefused⟩
    · rintro ⟨before, pair, after, collected, noted, hsplit, hbefore, hrefused⟩
      cases before with
      | nil =>
        obtain ⟨rfl, rfl⟩ := List.cons.inj hsplit
        cases hbefore
        rw [addAll, hrefused]
      | cons head before =>
        obtain ⟨rfl, rfl⟩ := List.cons.inj hsplit
        unfold addAll at hbefore
        split at hbefore
        next added hadded =>
          rw [addAll, hadded]
          exact ih.mpr ⟨before, pair, after, collected, noted, rfl, hbefore, hrefused⟩
        next => cases hbefore

theorem collect_eq_error_iff : collect pairs = .error error ↔
    ∃ before pair after, pairs = before ++ pair :: after ∧ Collectible before ∧
      Breaks before pair error := by
  rw [collect_eq_error_iff_noting, collectNoting, addAll_eq_error_iff]
  constructor
  · rintro ⟨before, pair, after, collected, noted, hsplit, hbefore, hrefused⟩
    have hmade : Made before collected := addAll_made made_nil hbefore
    exact ⟨before, pair, after, hsplit, hmade.collectible, (add_eq_error_iff hmade).mp hrefused⟩
  · rintro ⟨before, pair, after, hsplit, hbefore, hbreaks⟩
    obtain ⟨collected, noted, hcollected⟩ := exists_addAll [] made_nil hbefore
    exact ⟨before, pair, after, collected, noted, hsplit, hcollected,
      add_of_breaks (addAll_made made_nil hcollected) hbreaks⟩

/-- Pairs are collected exactly if all of them name a type and spell a path, and no type is given two
    paths, which is to say two spellings. The result then has the trimmed names and the paths that
    their pairs spell, is the same for pairs reordered and repeated, and is collected again from its
    own rows. Otherwise the error is that of the first pair that breaks a rule behind those in front
    of it. -/
theorem collect_outcome (pairs : List (String × String)) :
    ((∃ associations, collect pairs = .ok associations) ↔ Collectible pairs) ∧
    (∀ path other, (retainer? path).map Path.text = (retainer? other).map Path.text ↔
      retainer? path = retainer? other) ∧
    (∀ associations, collect pairs = .ok associations →
      (∀ name, name ∈ associations.names ↔ ∃ pair ∈ pairs, trim pair.1 = name) ∧
      (∀ pair ∈ pairs, associations.get? (trim pair.1) = retainer? pair.2) ∧
      (∀ others, (∀ pair, pair ∈ others ↔ pair ∈ pairs) → collect others = .ok associations) ∧
      collect associations.writtenOut = .ok associations) ∧
    ∀ error, collect pairs = .error error ↔
      ∃ before pair after, pairs = before ++ pair :: after ∧ Collectible before ∧
        Breaks before pair error := by
  refine ⟨exists_collect_iff, fun path other => map_text_retainer?_eq_iff,
    fun associations hcollect => ?_, fun error => collect_eq_error_iff⟩
  have hmade := collect_made hcollect
  exact ⟨fun name => hmade.mem_names_iff, fun pair => hmade.get?_trim,
    fun others hmem => collect_eq_ok_iff.mpr (hmade.of_mem_iff hmem),
    collect_eq_ok_iff.mpr hmade.writtenOut⟩

/-- The second pair respells the first, the third disagrees with both, and the last names no type. -/
def respelledPairs : List (String × String) :=
  [(" Base", "a :: B"), ("Base", "a::B"), ("Base\t", "::a::B"), ("", "a::B")]

private theorem retainer?_respelled : retainer? "a :: B" = some ⟨false, [⟨false, "a"⟩, ⟨false, "B"⟩]⟩ ∧
    retainer? "a::B" = some ⟨false, [⟨false, "a"⟩, ⟨false, "B"⟩]⟩ ∧
    retainer? "::a::B" = some ⟨true, [⟨false, "a"⟩, ⟨false, "B"⟩]⟩ := by
  decide +kernel

/-- The first two pairs make one row, and the third is refused before the last is looked at. -/
theorem collect_outcome_respelled :
    (∃ associations, collect (respelledPairs.take 2) = .ok associations ∧
      associations.get? "Base" = some ⟨false, [⟨false, "a"⟩, ⟨false, "B"⟩]⟩) ∧
    collect respelledPairs = .error (.conflictingRetainers "Base"
      ⟨false, [⟨false, "a"⟩, ⟨false, "B"⟩]⟩ ⟨true, [⟨false, "a"⟩, ⟨false, "B"⟩]⟩) := by
  have htrim : trim " Base" = "Base" ∧ trim "Base" = "Base" ∧ trim "Base\t" = "Base" := by
    decide +kernel
  obtain ⟨hspaced, hread, hrooted⟩ := retainer?_respelled
  have hcollectible : Collectible (respelledPairs.take 2) := by
    refine ⟨?_, ?_, ?_⟩ <;> simp [respelledPairs, htrim, hspaced, hread]
  obtain ⟨hcollects, -, hmade, -⟩ := collect_outcome (respelledPairs.take 2)
  obtain ⟨associations, hcollect⟩ := hcollects.mpr hcollectible
  refine ⟨⟨associations, hcollect, ?_⟩, ?_⟩
  · have hget := (hmade associations hcollect).2.1 ("Base", "a::B") (by simp [respelledPairs])
    rwa [htrim.2.1, hread] at hget
  · have hnamed : trim "Base\t" ≠ "" := by simp [htrim]
    have hfirst : (respelledPairs.take 2).find? (fun earlier => trim earlier.1 = trim "Base\t") =
        some (" Base", "a :: B") := by
      simp [respelledPairs, htrim]
    have hbreaks : Breaks (respelledPairs.take 2) ("Base\t", "::a::B") _ :=
      .conflictingRetainers hnamed hrooted hfirst hspaced (by simp)
    rw [htrim.2.2] at hbreaks
    exact ((collect_outcome respelledPairs).2.2.2 _).mpr
      ⟨respelledPairs.take 2, _, [("", "a::B")], rfl, hcollectible, hbreaks⟩

end RetainerTable.Associations
