import RetainerTable.Proofs.Inheritance.Climb
import RetainerTable.Proofs.Inheritance.Reach

/-!
What a run derives.

`Derivation.Sound` is what holds after every visit; `visit_sound` is the step that keeps it. A run
therefore derives an entry for each class it reached that inherits something, and no other
(`derive_get?_iff`), whatever the order of its visits.
-/

namespace RetainerTable

variable {h : Hierarchy} {associations : Associations}

theorem isClass_and_not_contains_iff {d : Declaration} :
    (d.kind.isClass && !associations.contains d.name) = true ↔ Candidate associations d := by
  rw [Bool.and_eq_true, Bool.not_eq_true', NameMap.contains_eq_false_iff]
  constructor
  · rintro ⟨hclass, hfree⟩
    exact ⟨hclass, hfree⟩
  · rintro ⟨hclass, hfree⟩
    exact ⟨hclass, hfree⟩

/-- What is remembered holds, and the entries are those of the visited classes that inherit. -/
structure Derivation.Sound (h : Hierarchy) (associations : Associations)
    (visited : List Declaration) (derivation : Derivation) : Prop where
  known : Outcomes.Sound h associations derivation.progress.known
  derived : ∀ name inherited, derivation.derived.get? name = some inherited ↔
    ∃ d ∈ visited, d.name = name ∧ Candidate associations d ∧ h.Inherits associations d inherited

namespace Derivation

private theorem sound_start : Sound h associations [] (.start h associations) where
  known := Outcomes.sound_empty
  derived := by simp [start]

/-- A visit to a class without an association enters what is decided for it. -/
theorem get?_visit {derivation : Derivation} {d : Declaration}
    (hcandidate : Candidate associations d) (name : String) :
    (derivation.visit h associations d).derived.get? name =
      if name = d.name then
        (derivation.progress.decide h associations d).1.or (derivation.derived.get? name)
      else derivation.derived.get? name := by
  rw [visit, if_pos (isClass_and_not_contains_iff.mpr hcandidate)]
  obtain ⟨outcome, progress⟩ := derivation.progress.decide h associations d
  cases outcome with
  | none => simp
  | some inherited => simp [NameMap.get?_insert]

theorem progress_visit {derivation : Derivation} {d : Declaration}
    (hcandidate : Candidate associations d) :
    (derivation.visit h associations d).progress =
      (derivation.progress.decide h associations d).2.note
        (verdict d.name (derivation.progress.decide h associations d).1) := by
  rw [visit, if_pos (isClass_and_not_contains_iff.mpr hcandidate)]

theorem visit_of_not_candidate {derivation : Derivation} {d : Declaration}
    (hcandidate : ¬Candidate associations d) :
    derivation.visit h associations d = { derivation with visited := derivation.visited + 1 } := by
  rw [visit, if_neg (mt isClass_and_not_contains_iff.mp hcandidate)]

/-- One more visit keeps what holds. -/
theorem visit_sound {visited : List Declaration} {derivation : Derivation} {d : Declaration}
    (hsound : Sound h associations visited derivation) (hvisited : ∀ e ∈ visited, e ∈ h.declarations)
    (hmem : d ∈ h.declarations) :
    Sound h associations (visited ++ [d]) (derivation.visit h associations d) := by
  have hsplit : ∀ name inherited, (∃ e ∈ visited ++ [d], e.name = name ∧ Candidate associations e ∧
      h.Inherits associations e inherited) ↔ derivation.derived.get? name = some inherited ∨
        d.name = name ∧ Candidate associations d ∧ h.Inherits associations d inherited := by
    intro name inherited
    rw [hsound.derived]
    simp [or_and_right, exists_or]
  by_cases hcandidate : Candidate associations d
  · obtain ⟨hdecides, hknown⟩ :=
      Progress.decide_sound hsound.known (Hierarchy.find?_of_mem hmem) hcandidate
    refine ⟨progress_visit hcandidate ▸ hknown, fun name inherited => ?_⟩
    rw [hsplit, get?_visit hcandidate]
    split
    next heq =>
      -- An earlier entry of this name is one of this class, so the visit does not change it.
      have hagain : derivation.derived.get? name = some inherited →
          h.Inherits associations d inherited := by
        intro hold
        obtain ⟨e, he, hname, -, hin⟩ := (hsound.derived name inherited).mp hold
        exact Hierarchy.eq_of_name_eq (hvisited e he) hmem (hname.trans heq) ▸ hin
      rw [Option.or_eq_some_iff, hdecides inherited]
      constructor
      · rintro (hin | ⟨-, hold⟩)
        · exact .inr ⟨heq.symm, hcandidate, hin⟩
        · exact .inl hold
      · rintro (hold | ⟨-, -, hin⟩)
        · exact .inl (hagain hold)
        · exact .inl hin
    next hne => simp [Ne.symm hne]
  · rw [visit_of_not_candidate hcandidate]
    refine ⟨hsound.known, fun name inherited => ?_⟩
    rw [hsplit]
    simp [hcandidate]

/-- What holds after some visits holds after all. -/
theorem foldl_visit_sound {visited : List Declaration} {derivation : Derivation}
    (hsound : Sound h associations visited derivation) (hvisited : ∀ e ∈ visited, e ∈ h.declarations)
    (ds : List Declaration) (hds : ∀ d ∈ ds, d ∈ h.declarations) :
    Sound h associations (visited ++ ds) (ds.foldl (visit h associations) derivation) := by
  induction ds generalizing visited derivation with
  | nil => simpa using hsound
  | cons d ds ih =>
    have hd := hds d (List.mem_cons_self ..)
    have hstep := visit_sound hsound hvisited hd
    have hrun := ih hstep (fun e he => ?_) fun e he => hds e (List.mem_cons_of_mem _ he)
    · simpa using hrun
    · rcases List.mem_append.mp he with he | he
      · exact hvisited e he
      · exact List.mem_singleton.mp he ▸ hd

end Derivation

private theorem derive_sound (h : Hierarchy) (associations : Associations) (roots : List String) :
    Derivation.Sound h associations (h.reach roots) (derive h associations roots) := by
  have hstart : Derivation.Sound h associations [] (.start h associations) := Derivation.sound_start
  have hrun := Derivation.foldl_visit_sound hstart (by simp) (h.reach roots)
    fun d hd => (Hierarchy.mem_reach_iff.mp hd).mem
  simpa [derive] using hrun

/-- A run derives what the reached classes without an association inherit, and nothing else. -/
theorem derive_get?_iff {roots : List String} {name : String} {inherited : Inherited} :
    (derive h associations roots).derived.get? name = some inherited ↔
      ∃ d, h.Reached roots d ∧ d.name = name ∧ Candidate associations d ∧
        h.Inherits associations d inherited := by
  rw [(derive_sound h associations roots).derived]
  simp only [Hierarchy.mem_reach_iff]

end RetainerTable
