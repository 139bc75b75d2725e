import RetainerTable.Proofs.Hierarchy

/-!
For which error a manifest is refused.

Entries are judged twice. The first time each is judged by itself and against the names in front of
it, and the first entry that breaks a rule gives the error (`TypeEntry.Breaks`). Only if there is none
are the enclosing types looked up, and the first that is not listed gives the error.
`Hierarchy.ofManifest_outcome` says that there is no other way to be refused.
-/

namespace RetainerTable

open RetainerTable.Text

variable {manifest : Manifest} {entry : TypeEntry} {entries : List TypeEntry}
  {declared names : List String} {error : Error}

/-- The entry may not stand behind entries of the declared names, and the error says why: what is
    wrong with its name comes before its superclass, and that before a repetition. -/
inductive TypeEntry.Breaks (declared : List String) (entry : TypeEntry) : Error → Prop
  | emptyName (hblank : trim entry.name = "") : entry.Breaks declared .emptyName
  | malformedReference {reference : String} (hnamed : trim entry.name ≠ "")
      (hsuper : entry.superclass = some reference)
      (hmalformed : TypeReference.parse? reference = none) :
      entry.Breaks declared (.malformedReference (trim entry.name) reference)
  | duplicateType (hwell : entry.WellFormed) (hdeclared : trim entry.name ∈ declared) :
      entry.Breaks declared (.duplicateType (trim entry.name))

/-- The entries are well-formed, and no two have one name. -/
structure TypeEntry.Declarable (entries : List TypeEntry) : Prop where
  wellFormed : ∀ entry ∈ entries, entry.WellFormed
  distinct : (entries.map fun entry => trim entry.name).Nodup

/-- The manifest lists no hierarchy, and the error says why: the first entry that breaks a rule behind
    those in front of it, or else the first that is nested in a type that is not listed at all. -/
inductive Manifest.RefusedFor (manifest : Manifest) : Error → Prop
  | entry {before after : List TypeEntry} {entry : TypeEntry} {error : Error}
      (hsplit : manifest.types = before ++ entry :: after) (hbefore : TypeEntry.Declarable before)
      (hbreaks : entry.Breaks (before.map fun earlier => trim earlier.name) error) :
      manifest.RefusedFor error
  | enclosing {before after : List TypeEntry} {entry : TypeEntry} {outer : String}
      (hall : TypeEntry.Declarable manifest.types)
      (hsplit : manifest.types = before ++ entry :: after)
      (hbefore : ∀ earlier ∈ before, ∀ name, earlier.enclosing = some name →
        ∃ other ∈ manifest.types, trim other.name = trim name)
      (houter : entry.enclosing = some outer)
      (hunknown : ∀ other ∈ manifest.types, trim other.name ≠ trim outer) :
      manifest.RefusedFor (.unknownEnclosing (trim entry.name) (trim outer))

namespace TypeEntry

/-- Which names are declared counts, not their order. -/
theorem Breaks.of_subset (hbreaks : entry.Breaks declared error) (hnames : declared ⊆ names) :
    entry.Breaks names error := by
  cases hbreaks with
  | emptyName hblank => exact .emptyName hblank
  | malformedReference hnamed hsuper hmalformed => exact .malformedReference hnamed hsuper hmalformed
  | duplicateType hwell hdeclared => exact .duplicateType hwell (hnames hdeclared)

/-- An entry breaks a rule unless it is well-formed and under a name of its own. -/
theorem exists_breaks (hrefused : ¬(entry.WellFormed ∧ trim entry.name ∉ declared)) :
    ∃ error, entry.Breaks declared error := by
  by_cases hblank : trim entry.name = ""
  · exact ⟨_, .emptyName hblank⟩
  by_cases hrefers : ∀ reference, entry.superclass = some reference →
      ∃ parsed, TypeReference.parse? reference = some parsed
  · have hdeclared : trim entry.name ∈ declared :=
      Decidable.not_not.mp fun hfree => hrefused ⟨⟨hblank, hrefers⟩, hfree⟩
    exact ⟨_, .duplicateType ⟨hblank, hrefers⟩ hdeclared⟩
  · simp only [Classical.not_forall, not_exists] at hrefers
    obtain ⟨reference, hsuper, hunread⟩ := hrefers
    exact ⟨_, .malformedReference hblank hsuper (Option.eq_none_iff_forall_ne_some.mpr hunread)⟩

end TypeEntry

namespace Declaration

private theorem ofEntry_of_breaks (hbreaks : entry.Breaks declared error) :
    ofEntry declared entry = .error error := by
  unfold ofEntry
  cases hbreaks with
  | emptyName hblank => simp [hblank]
  | malformedReference hnamed hsuper hmalformed => simp [hnamed, hsuper, hmalformed]
  | duplicateType hwell hdeclared =>
    cases hsuper : entry.superclass with
    | none => simp [hwell.named, hdeclared]
    | some reference =>
      obtain ⟨parsed, hparse⟩ := hwell.referring reference hsuper
      simp [hwell.named, hparse, hdeclared]

private theorem ofEntry_eq_error_iff : ofEntry declared entry = .error error ↔
    entry.Breaks declared error := by
  constructor
  · intro hfails
    have hrefused : ¬(entry.WellFormed ∧ trim entry.name ∉ declared) := by
      rintro ⟨hwell, hfree⟩
      rw [ofEntry_eq_ok_iff.mpr ⟨hwell, hfree, rfl⟩] at hfails
      cases hfails
    obtain ⟨error', hbreaks⟩ := TypeEntry.exists_breaks hrefused
    rw [ofEntry_of_breaks hbreaks] at hfails
    cases hfails
    exact hbreaks
  · exact ofEntry_of_breaks

theorem exists_ofEntries_iff :
    (∃ ds, ofEntries [] entries = .ok ds) ↔ TypeEntry.Declarable entries := by
  constructor
  · rintro ⟨ds, hmade⟩
    obtain ⟨hwell, rfl⟩ := wellFormed_of_ofEntries hmade
    have hdistinct := (distinct_of_ofEntries hmade).1
    rw [Hierarchy.names_said] at hdistinct
    exact ⟨hwell, hdistinct⟩
  · rintro ⟨hwell, hdistinct⟩
    exact ⟨_, ofEntries_of_wellFormed hwell hdistinct (by simp)⟩

/-- The entries fail with the first of them that breaks a rule behind those in front of it. -/
theorem ofEntries_eq_error_iff : ofEntries declared entries = .error error ↔
    ∃ before entry after, entries = before ++ entry :: after ∧
      (∃ ds, ofEntries declared before = .ok ds) ∧
      entry.Breaks ((before.map fun earlier => trim earlier.name).reverse ++ declared) error := by
  induction entries generalizing declared with
  | nil => simp [ofEntries]
  | cons first entries ih =>
    constructor
    · intro hfails
      unfold ofEntries at hfails
      split at hfails
      next refused hfirst =>
        cases hfails
        exact ⟨[], first, entries, rfl, ⟨[], rfl⟩, ofEntry_eq_error_iff.mp hfirst⟩
      next d hfirst =>
        split at hfails
        next refused hrest =>
          cases hfails
          obtain ⟨before, entry, after, rfl, ⟨ds, hds⟩, hbreaks⟩ := ih.mp hrest
          rw [(name_of_ofEntry hfirst).1] at hbreaks
          refine ⟨first :: before, entry, after, rfl, ⟨d :: ds, ?_⟩, by simpa using hbreaks⟩
          rw [ofEntries, hfirst]
          simp [hds]
        next => cases hfails
    · rintro ⟨before, entry, after, hsplit, ⟨ds, hds⟩, hbreaks⟩
      cases before with
      | nil =>
        obtain ⟨rfl, rfl⟩ := List.cons.inj hsplit
        simp only [List.map_nil, List.reverse_nil, List.nil_append] at hbreaks
        rw [ofEntries, ofEntry_of_breaks hbreaks]
      | cons head before =>
        obtain ⟨rfl, rfl⟩ := List.cons.inj hsplit
        unfold ofEntries at hds
        split at hds
        · cases hds
        next d hfirst =>
          split at hds
          · cases hds
          next rest hrest =>
            have hlater : ofEntries (d.name :: declared) (before ++ entry :: after) =
                .error error := by
              refine ih.mpr ⟨before, entry, after, rfl, ⟨rest, hrest⟩, ?_⟩
              rw [(name_of_ofEntry hfirst).1]
              simpa using hbreaks
            rw [ofEntries, hfirst]
            simp [hlater]

end Declaration

namespace Hierarchy

/-- The first declaration nested in a type that is not listed is that of the first such entry. -/
theorem find?_isStray_eq_some_iff {d : Declaration} :
    (entries.map Declaration.said).find? (Declaration.isStray names) = some d ↔
      ∃ before entry after outer, entries = before ++ entry :: after ∧ d = .said entry ∧
        entry.enclosing = some outer ∧ trim outer ∉ names ∧
        ∀ earlier ∈ before, ∀ name, earlier.enclosing = some name → trim name ∈ names := by
  rw [List.find?_map, Option.map_eq_some_iff]
  simp only [List.find?_eq_some_iff_append, Function.comp_apply, isStray_said_iff,
    Bool.not_eq_true', isStray_said_eq_false_iff]
  constructor
  · rintro ⟨entry, ⟨⟨outer, houter, hunknown⟩, before, after, hsplit, hbefore⟩, rfl⟩
    exact ⟨before, entry, after, outer, hsplit, rfl, houter, hunknown, hbefore⟩
  · rintro ⟨before, entry, after, outer, hsplit, rfl, houter, hunknown, hbefore⟩
    exact ⟨entry, ⟨⟨outer, houter, hunknown⟩, before, after, hsplit, hbefore⟩, rfl⟩

theorem ofManifest_eq_error_iff : ofManifest manifest = .error error ↔
    Declaration.ofEntries [] manifest.types = .error error ∨
      ∃ ds, Declaration.ofEntries [] manifest.types = .ok ds ∧
        ∃ d, ds.find? (Declaration.isStray (ds.map Declaration.name)) = some d ∧
          error = .unknownEnclosing d.name (d.enclosing.getD "") := by
  unfold ofManifest
  split
  next refused hentries => simp [hentries]
  next ds hentries =>
    split
    next d hstray => simp [hentries, hstray, eq_comm]
    next hstray => simp [hentries, hstray]

private theorem refusedFor_of_ofManifest (hfails : ofManifest manifest = .error error) :
    manifest.RefusedFor error := by
  rcases ofManifest_eq_error_iff.mp hfails with hentries | ⟨ds, hentries, d, hstray, rfl⟩
  · obtain ⟨before, entry, after, hsplit, hbefore, hbreaks⟩ :=
      Declaration.ofEntries_eq_error_iff.mp hentries
    refine .entry hsplit (Declaration.exists_ofEntries_iff.mp hbefore) (hbreaks.of_subset ?_)
    simp
  · have hall := Declaration.exists_ofEntries_iff.mp ⟨ds, hentries⟩
    obtain ⟨-, rfl⟩ := Declaration.wellFormed_of_ofEntries hentries
    rw [names_said, find?_isStray_eq_some_iff] at hstray
    obtain ⟨before, entry, after, outer, hsplit, rfl, houter, hunknown, hbefore⟩ := hstray
    simp only [List.mem_map, not_exists, not_and] at hunknown hbefore
    have hrefused := Manifest.RefusedFor.enclosing hall hsplit hbefore houter hunknown
    simpa [Declaration.said, houter] using hrefused

private theorem ofManifest_of_refusedFor (hrefused : manifest.RefusedFor error) :
    ofManifest manifest = .error error := by
  refine ofManifest_eq_error_iff.mpr ?_
  cases hrefused with
  | entry hsplit hbefore hbreaks =>
    refine .inl (Declaration.ofEntries_eq_error_iff.mpr
      ⟨_, _, _, hsplit, Declaration.exists_ofEntries_iff.mpr hbefore, hbreaks.of_subset ?_⟩)
    simp
  | @enclosing before after entry outer hall hsplit hbefore houter hunknown =>
    obtain ⟨ds, hmade⟩ := Declaration.exists_ofEntries_iff.mpr hall
    obtain ⟨-, rfl⟩ := Declaration.wellFormed_of_ofEntries hmade
    refine .inr ⟨_, hmade, .said entry, ?_, by simp [Declaration.said, houter]⟩
    rw [names_said, find?_isStray_eq_some_iff]
    refine ⟨before, entry, after, outer, hsplit, rfl, houter, ?_, ?_⟩
    · simpa only [List.mem_map, not_exists, not_and] using hunknown
    · simpa only [List.mem_map] using hbefore

/-- A manifest lists a hierarchy exactly if every name is not blank, every superclass is a type
    reference, no two names are the same and every enclosing type is listed, in front or behind, names
    being compared trimmed. Otherwise it is refused for its first entry that breaks one of the first
    three rules, and only if there is none for the first that is nested in a type not listed. -/
theorem ofManifest_outcome (manifest : Manifest) :
    ((∃ h, ofManifest manifest = .ok h) ↔ manifest.Lists) ∧
      ∀ error, ofManifest manifest = .error error ↔ manifest.RefusedFor error := by
  refine ⟨⟨?_, ?_⟩, fun error => ⟨refusedFor_of_ofManifest, ofManifest_of_refusedFor⟩⟩
  · rintro ⟨h, hmade⟩
    exact (lists_of_ofManifest hmade).1
  · intro hlists
    obtain ⟨h, hmade, -⟩ := ofManifest_of_lists hlists
    exact ⟨h, hmade⟩

end Hierarchy

end RetainerTable
