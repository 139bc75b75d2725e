import RetainerTable.Proofs.Inheritance.Ascent
import RetainerTable.Proofs.NameMap

/-!
Climbs decide as the ancestry does.

`climb_decides` shows that the ending's outcome holds for every class that a climb passed, provided
that what was remembered before held (`Outcomes.Sound`), and `Progress.decide_sound` that deciding a
class keeps it so.
-/

namespace RetainerTable

open Relation (ReflTransGen)

variable {h : Hierarchy} {associations : Associations} {known : Outcomes}

/-- Every outcome remembered is that of a class without an association, and holds for it. -/
def Outcomes.Sound (h : Hierarchy) (associations : Associations) (known : Outcomes) : Prop :=
  ∀ name outcome, known.get? name = some outcome →
    ∃ d, h.find? name = some d ∧ Candidate associations d ∧ h.Decides associations d outcome

theorem Outcomes.sound_empty : Outcomes.Sound h associations .empty := by
  intro name outcome hget
  cases hget

/-- What the ending of a climb describes decides the last class passed. -/
theorem Ending.decides_of_describes {passed : List String} {last : Declaration} {ending : Ending}
    (hknown : Outcomes.Sound h associations known)
    (hpassed : ∀ name ∈ passed, ∃ p, h.find? name = some p ∧
      ReflTransGen (h.Passes associations) p last)
    (hending : ending.Describes h associations known passed last) :
    h.Decides associations last ending.outcome := by
  cases ending with
  | associated inherited =>
    obtain ⟨a, hsuper, hretainer, hancestor⟩ := hending
    have hassociated := NameMap.contains_of_get? hretainer
    exact Hierarchy.decides_some ⟨a, .superclass hsuper hassociated, hretainer, hancestor⟩
  | decided outcome =>
    obtain ⟨p, hsuper, -, hget⟩ := hending
    obtain ⟨p', hfound, hcandidate, hdecides⟩ := hknown _ _ hget
    obtain rfl : p = p' :=
      Option.some.inj ((Hierarchy.find?_of_mem hsuper.declared).symm.trans hfound)
    exact (Hierarchy.decides_iff_of_passesAll (.single ⟨hsuper, hcandidate⟩)).mpr hdecides
  | top =>
    refine Hierarchy.decides_none fun a => Hierarchy.not_inheritsFrom_of_deadEnd ?_
    exact .outside (Hierarchy.not_subclassOf_of_top hending)
  | outside typeName reference =>
    refine Hierarchy.decides_none fun a => Hierarchy.not_inheritsFrom_of_deadEnd ?_
    exact .outside (Hierarchy.not_subclassOf_of_outside hending.2.1 hending.2.2)
  | notClass =>
    obtain ⟨p, hsuper, hfree, hkind⟩ := hending
    exact Hierarchy.decides_none fun a =>
      Hierarchy.not_inheritsFrom_of_deadEnd (.notClass hsuper hfree hkind)
  | cycle name =>
    obtain ⟨p, hpasses, rfl, hin⟩ := hending
    obtain ⟨p', hfound, hback⟩ := hpassed _ hin
    obtain rfl : p = p' :=
      Option.some.inj ((Hierarchy.find?_of_mem hpasses.superclass.declared).symm.trans hfound)
    exact Hierarchy.decides_none fun a =>
      Hierarchy.not_inheritsFrom_of_deadEnd (.cycle hpasses hback)

/-- A climb from a class without an association passes such classes only, that class among them, and
    its ending decides each of them. -/
theorem climb_decides {way : Way} {d : Declaration} (hway : way.passed = [d.name])
    (hknown : Outcomes.Sound h associations known) (hfound : h.find? d.name = some d)
    (hcandidate : Candidate associations d) :
    d.name ∈ (climb h associations known way d).1.passed ∧
      ∀ name ∈ (climb h associations known way d).1.passed,
        ∃ p, h.find? name = some p ∧ Candidate associations p ∧
          h.Decides associations p (climb h associations known way d).2.outcome := by
  obtain ⟨above, hclimbs⟩ := climb_spec h associations known way d
  have hnames := hclimbs.names
  rw [hway] at hnames
  have hpassed : ∀ name ∈ (climb h associations known way d).1.passed,
      ∃ p ∈ d :: above, h.find? name = some p ∧ Candidate associations p := by
    intro name hname
    rw [hnames] at hname
    rcases List.mem_append.mp hname with hin | hin
    · obtain ⟨p, hp, rfl⟩ := List.mem_map.mp (List.mem_reverse.mp hin)
      obtain ⟨below, hpasses⟩ := hclimbs.exists_passes hp
      exact ⟨p, List.mem_cons_of_mem _ hp, Hierarchy.find?_of_mem hpasses.superclass.declared,
        hpasses.candidate⟩
    · obtain rfl := List.mem_singleton.mp hin
      exact ⟨d, List.mem_cons_self .., hfound, hcandidate⟩
  have hback : ∀ name ∈ (climb h associations known way d).1.passed, ∃ p, h.find? name = some p ∧
      ReflTransGen (h.Passes associations) p
        ((d :: above).getLast (List.cons_ne_nil _ _)) := by
    intro name hname
    obtain ⟨p, hp, hfound, -⟩ := hpassed name hname
    exact ⟨p, hfound, hclimbs.reaches hp⟩
  have hlast := Ending.decides_of_describes hknown hback hclimbs.ending
  refine ⟨by simp [hnames], fun name hname => ?_⟩
  obtain ⟨p, hp, hfound, hcandidate⟩ := hpassed name hname
  exact ⟨p, hfound, hcandidate,
    (Hierarchy.decides_iff_of_passesAll (hclimbs.reaches hp)).mpr hlast⟩

/-- Deciding a class gives what it inherits, and all that is remembered afterwards holds. -/
theorem Progress.decide_sound {progress : Progress} {d : Declaration}
    (hknown : Outcomes.Sound h associations progress.known)
    (hfound : h.find? d.name = some d) (hcandidate : Candidate associations d) :
    h.Decides associations d (progress.decide h associations d).1 ∧
      Outcomes.Sound h associations (progress.decide h associations d).2.known := by
  unfold Progress.decide
  split
  next outcome hget =>
    obtain ⟨d', hfound', -, hdecides⟩ := hknown _ _ hget
    obtain rfl : d = d' := Option.some.inj (hfound.symm.trans hfound')
    exact ⟨hdecides, hknown⟩
  next =>
    obtain ⟨hmem, hall⟩ := @climb_decides h associations progress.known
      ⟨[d.name], progress.asked, progress.queries⟩ d rfl hknown hfound hcandidate
    constructor
    · obtain ⟨d', hfound', -, hdecides⟩ := hall _ hmem
      obtain rfl : d = d' := Option.some.inj (hfound.symm.trans hfound')
      exact hdecides
    · intro name outcome hget
      simp only [NameMap.get?_foldl_insert] at hget
      split at hget
      next hin =>
        cases hget
        exact hall name hin
      next => exact hknown _ _ hget

end RetainerTable
