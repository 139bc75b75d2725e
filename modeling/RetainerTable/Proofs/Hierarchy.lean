import Mathlib.Data.List.Nodup
import RetainerTable.Hierarchy

namespace RetainerTable

open RetainerTable.Text

/-- A result is known by what tells results apart. -/
theorem eq_ok_of_map_toOption {ε α β : Type} {result : Except ε α} {value : α} {f : α → β}
    (hf : Function.Injective f) (hvalue : result.toOption.map f = some (f value)) :
    result = .ok value := by
  cases result with
  | error error => cases hvalue
  | ok found => rw [hf (Option.some.inj hvalue)]

/-- The name is not blank and the superclass, if there is one, is a type reference. -/
structure TypeEntry.WellFormed (entry : TypeEntry) : Prop where
  named : trim entry.name ≠ ""
  referring : ∀ reference, entry.superclass = some reference →
    ∃ parsed, TypeReference.parse? reference = some parsed

namespace Declaration

variable {declared : List String} {entry : TypeEntry} {entries : List TypeEntry} {d : Declaration}
  {ds : List Declaration}

/-- The declaration that a well-formed entry makes. -/
def said (entry : TypeEntry) : Declaration where
  name := trim entry.name
  kind := entry.kind
  superclass := entry.superclass.bind TypeReference.parse?
  enclosing := entry.enclosing.map trim

theorem ofEntry_eq_ok_iff : ofEntry declared entry = .ok d ↔
    entry.WellFormed ∧ trim entry.name ∉ declared ∧ d = said entry := by
  unfold ofEntry
  dsimp only
  split
  next hblank =>
    constructor
    · intro h
      cases h
    · rintro ⟨hwell, -⟩
      exact absurd hblank hwell.named
  next hnamed =>
    cases hsuper : entry.superclass with
    | none =>
      have hwell : entry.WellFormed := ⟨hnamed, by simp [hsuper]⟩
      by_cases hdeclared : trim entry.name ∈ declared
      · simp [hdeclared]
      · simp [hdeclared, hwell, said, hsuper, eq_comm]
    | some reference =>
      cases hparse : TypeReference.parse? reference with
      | none =>
        have hill : ¬entry.WellFormed := by
          rintro ⟨-, hreferring⟩
          obtain ⟨parsed, hparsed⟩ := hreferring reference hsuper
          rw [hparse] at hparsed
          cases hparsed
        simp [hparse, hill]
      | some parsed =>
        have hwell : entry.WellFormed := by
          refine ⟨hnamed, fun reference' hsome => ⟨parsed, ?_⟩⟩
          obtain rfl := Option.some.inj (hsuper.symm.trans hsome)
          exact hparse
        by_cases hdeclared : trim entry.name ∈ declared
        · simp [hparse, hdeclared]
        · simp [hparse, hdeclared, hwell, said, hsuper, eq_comm]

theorem wellFormed_of_ofEntries (hmade : ofEntries declared entries = .ok ds) :
    (∀ entry ∈ entries, entry.WellFormed) ∧ ds = entries.map said := by
  induction entries generalizing declared ds with
  | nil =>
    cases hmade
    simp
  | cons entry entries ih =>
    unfold ofEntries at hmade
    split at hmade
    · cases hmade
    next d hd =>
      split at hmade
      · cases hmade
      next rest hrest =>
        cases hmade
        obtain ⟨hwell, -, rfl⟩ := ofEntry_eq_ok_iff.mp hd
        obtain ⟨hall, rfl⟩ := ih hrest
        exact ⟨List.forall_mem_cons.mpr ⟨hwell, hall⟩, rfl⟩

theorem ofEntries_of_wellFormed (hwell : ∀ entry ∈ entries, entry.WellFormed)
    (hdistinct : (entries.map fun entry => trim entry.name).Nodup)
    (hfree : ∀ entry ∈ entries, trim entry.name ∉ declared) :
    ofEntries declared entries = .ok (entries.map said) := by
  induction entries generalizing declared with
  | nil => rfl
  | cons entry entries ih =>
    rw [List.map_cons, List.nodup_cons] at hdistinct
    obtain ⟨hentry, hrest⟩ := List.forall_mem_cons.mp hwell
    obtain ⟨hname, hnames⟩ := List.forall_mem_cons.mp hfree
    have hlater : ∀ later ∈ entries, trim later.name ∉ (said entry).name :: declared := by
      intro later hlater hin
      rcases List.mem_cons.mp hin with heq | hin
      · exact hdistinct.1 (List.mem_map.mpr ⟨later, hlater, heq⟩)
      · exact hnames later hlater hin
    rw [ofEntries, ofEntry_eq_ok_iff.mpr ⟨hentry, hname, rfl⟩]
    simp [ih hrest hdistinct.2 hlater]

end Declaration

/-- The manifest lists a hierarchy: its entries are well-formed, no two have one name, and every
    enclosing type is listed. -/
structure Manifest.Lists (manifest : Manifest) : Prop where
  wellFormed : ∀ entry ∈ manifest.types, entry.WellFormed
  distinct : (manifest.types.map fun entry => trim entry.name).Nodup
  enclosed : ∀ entry ∈ manifest.types, ∀ outer, entry.enclosing = some outer →
    ∃ other ∈ manifest.types, trim other.name = trim outer

namespace Hierarchy

variable {manifest : Manifest} {h h₁ h₂ : Hierarchy} {d e : Declaration}

/-- A hierarchy is its declarations in order. -/
theorem eq_of_declarations (heq : h₁.declarations = h₂.declarations) : h₁ = h₂ := by
  cases h₁
  cases h₂
  cases heq
  rfl

/-- A declaration is found under its name. -/
theorem find?_of_mem (hmem : d ∈ h.declarations) : h.find? d.name = some d := by
  cases hfound : h.find? d.name with
  | none =>
    have hnone := List.find?_eq_none.mp hfound d hmem
    simp at hnone
  | some e =>
    obtain ⟨he, hname⟩ := mem_of_find? hfound
    exact congrArg some (List.inj_on_of_nodup_map h.distinct he hmem hname)

theorem find?_eq_some_iff {name : String} :
    h.find? name = some d ↔ d ∈ h.declarations ∧ d.name = name := by
  constructor
  · exact mem_of_find?
  · rintro ⟨hmem, rfl⟩
    exact find?_of_mem hmem

theorem eq_of_name_eq (hd : d ∈ h.declarations) (he : e ∈ h.declarations)
    (hname : d.name = e.name) : d = e :=
  List.inj_on_of_nodup_map h.distinct hd he hname

theorem mem_topLevel_iff : d ∈ h.topLevel ↔ d ∈ h.declarations ∧ d.enclosing = none := by
  simp [topLevel]

theorem mem_enclosedIn_iff {name : String} :
    d ∈ h.enclosedIn name ↔ d ∈ h.declarations ∧ d.enclosing = some name := by
  simp [enclosedIn]

theorem isStray_said_eq_false_iff {entry : TypeEntry} {names : List String} :
    Declaration.isStray names (.said entry) = false ↔
      ∀ outer, entry.enclosing = some outer → trim outer ∈ names := by
  cases henclosing : entry.enclosing <;> simp [Declaration.isStray, Declaration.said, henclosing]

theorem isStray_said_iff {entry : TypeEntry} {names : List String} :
    Declaration.isStray names (.said entry) = true ↔
      ∃ outer, entry.enclosing = some outer ∧ trim outer ∉ names := by
  rw [← Bool.not_eq_false, isStray_said_eq_false_iff]
  simp only [Classical.not_forall, exists_prop]

theorem names_said (entries : List TypeEntry) :
    (entries.map Declaration.said).map Declaration.name =
      entries.map fun entry => trim entry.name := by
  rw [List.map_map]
  rfl

theorem lists_of_ofManifest (hmade : ofManifest manifest = .ok h) :
    manifest.Lists ∧ h.declarations = manifest.types.map Declaration.said := by
  unfold ofManifest at hmade
  split at hmade
  · cases hmade
  next ds hds =>
    split at hmade
    · cases hmade
    next hstray =>
      cases hmade
      obtain ⟨hwell, rfl⟩ := Declaration.wellFormed_of_ofEntries hds
      have hdistinct := (Declaration.distinct_of_ofEntries hds).1
      rw [names_said] at hdistinct hstray
      refine ⟨⟨hwell, hdistinct, fun entry hentry outer houter => ?_⟩, rfl⟩
      have hnone := List.find?_eq_none.mp hstray _ (List.mem_map_of_mem hentry)
      have hin := isStray_said_eq_false_iff.mp (Bool.eq_false_iff.mpr hnone) outer houter
      simpa using hin

theorem mem_declarations_iff (hmade : ofManifest manifest = .ok h) :
    d ∈ h.declarations ↔ ∃ entry ∈ manifest.types, d = .said entry := by
  rw [(lists_of_ofManifest hmade).2, List.mem_map]
  simp only [eq_comm]

theorem ofManifest_of_lists (hlists : manifest.Lists) :
    ∃ h, ofManifest manifest = .ok h ∧ h.declarations = manifest.types.map Declaration.said := by
  have hmade : Declaration.ofEntries [] manifest.types = .ok (manifest.types.map Declaration.said) :=
    Declaration.ofEntries_of_wellFormed hlists.wellFormed hlists.distinct (by simp)
  cases hresult : ofManifest manifest with
  | ok h => exact ⟨h, rfl, (lists_of_ofManifest hresult).2⟩
  | error error =>
    unfold ofManifest at hresult
    split at hresult
    next hfailed =>
      rw [hmade] at hfailed
      cases hfailed
    next ds hds =>
      rw [hmade] at hds
      cases hds
      split at hresult
      next d hfound =>
        obtain ⟨entry, hentry, rfl⟩ := List.mem_map.mp (List.mem_of_find?_eq_some hfound)
        have hstray := List.find?_some hfound
        rw [names_said] at hstray
        have hhome : Declaration.isStray (manifest.types.map fun entry => trim entry.name)
            (.said entry) = false := by
          refine isStray_said_eq_false_iff.mpr fun outer houter => ?_
          obtain ⟨other, hother, hname⟩ := hlists.enclosed entry hentry outer houter
          exact List.mem_map.mpr ⟨other, hother, hname⟩
        rw [hstray] at hhome
        cases hhome
      next => cases hresult

/-- A manifest lists a hierarchy exactly if it is well-formed, and its entries say the
    declarations. -/
theorem ofManifest_eq_ok_iff : ofManifest manifest = .ok h ↔
    manifest.Lists ∧ h.declarations = manifest.types.map Declaration.said := by
  constructor
  · exact lists_of_ofManifest
  · rintro ⟨hlists, hsaid⟩
    obtain ⟨h', hmade, hsaid'⟩ := ofManifest_of_lists hlists
    rw [hmade, eq_of_declarations (hsaid'.trans hsaid.symm)]

end Hierarchy

end RetainerTable
