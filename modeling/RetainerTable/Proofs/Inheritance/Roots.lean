import Mathlib
import RetainerTable.Proofs.Inheritance.Warnings

namespace RetainerTable

variable {h : Hierarchy} {associations : Associations} {roots roots' first second : List String}

namespace Derivation

private theorem visited_visit (derivation : Derivation) (d : Declaration) :
    (derivation.visit h associations d).visited = derivation.visited + 1 := by
  unfold visit
  split <;> rfl

private theorem visited_foldl (ds : List Declaration) (derivation : Derivation) :
    (ds.foldl (visit h associations) derivation).visited = derivation.visited + ds.length := by
  induction ds generalizing derivation with
  | nil => rfl
  | cons d ds ih =>
    rw [List.foldl_cons, ih, visited_visit, List.length_cons]
    omega

end Derivation

/-- Every declaration reached is visited, and no other. -/
theorem visited_derive (h : Hierarchy) (associations : Associations) (roots : List String) :
    (derive h associations roots).visited = (h.reach roots).length := by
  rw [derive, Derivation.visited_foldl, Derivation.start, Nat.zero_add]

section Append

variable {enabled : Bool} {name : String} {inherited : Inherited}

private theorem inherit_get?_append_iff :
    (inherit enabled h associations (first ++ second)).1.get? name = some inherited ↔
      (inherit enabled h associations first).1.get? name = some inherited ∨
        (inherit enabled h associations second).1.get? name = some inherited := by
  simp only [inherit_get?_iff, Hierarchy.reached_append_iff, or_and_right, exists_or, and_or_left]

private theorem inherit_get?_append :
    (inherit enabled h associations (first ++ second)).1.get? name =
      ((inherit enabled h associations first).1.get? name).or
        ((inherit enabled h associations second).1.get? name) := by
  cases hfirst : (inherit enabled h associations first).1.get? name with
  | none =>
    refine Option.ext fun inherited => ?_
    rw [inherit_get?_append_iff, hfirst, Option.none_or]
    simp
  | some inherited =>
    rw [Option.some_or]
    exact inherit_get?_append_iff.mpr (.inl hfirst)

/-- What a class inherits is the same from whatever roots it is reached. -/
theorem eq_of_inherit_get? {other : Inherited}
    (hfirst : (inherit enabled h associations first).1.get? name = some inherited)
    (hsecond : (inherit enabled h associations second).1.get? name = some other) :
    inherited = other := by
  have hboth : (inherit enabled h associations (first ++ second)).1.get? name = some inherited :=
    inherit_get?_append_iff.mpr (.inl hfirst)
  rw [inherit_get?_append_iff.mpr (.inr hsecond)] at hboth
  exact (Option.some.inj hboth).symm

end Append

section SameRoots

variable (hroots : ∀ name, name ∈ roots ↔ name ∈ roots')

include hroots

private theorem inherit_congr_roots (enabled : Bool) :
    (inherit enabled h associations roots).1 = (inherit enabled h associations roots').1 := by
  refine NameMap.ext_get? fun name => Option.ext fun inherited => ?_
  simp only [inherit_get?_iff, Hierarchy.reached_congr hroots]

private theorem reach_perm : (h.reach roots).Perm (h.reach roots') := by
  refine (List.perm_ext_iff_of_nodup (h.nodup_reach roots) (h.nodup_reach roots')).mpr fun d => ?_
  rw [Hierarchy.mem_reach_iff, Hierarchy.mem_reach_iff, Hierarchy.reached_congr hroots]

private theorem closedUpwards_congr {members : Set Declaration} :
    h.ClosedUpwards associations roots members ↔ h.ClosedUpwards associations roots' members := by
  constructor
  · rintro ⟨hreached, habove⟩
    exact ⟨fun d hd => hreached d ((Hierarchy.reached_congr hroots).mpr hd), habove⟩
  · rintro ⟨hreached, habove⟩
    exact ⟨fun d hd => hreached d ((Hierarchy.reached_congr hroots).mp hd), habove⟩

private theorem mem_consulted_congr (d : Declaration) :
    d ∈ consulted h associations roots ↔ d ∈ consulted h associations roots' := by
  have hleast := isLeast_consulted h associations roots
  simp only [closedUpwards_congr hroots] at hleast
  have heq := hleast.unique (isLeast_consulted h associations roots')
  exact Set.ext_iff.mp heq d

private theorem consulted_perm :
    (consulted h associations roots).Perm (consulted h associations roots') :=
  (List.perm_ext_iff_of_nodup (derive_accounts h associations roots).distinct
    (derive_accounts h associations roots').distinct).mpr (mem_consulted_congr hroots)

private theorem length_cycles_congr :
    (derive h associations roots).progress.cycles.length =
      (derive h associations roots').progress.cycles.length := by
  obtain ⟨found, hnotices⟩ := derive_notices h associations roots
  obtain ⟨found', hnotices'⟩ := derive_notices h associations roots'
  have hperm : found.Perm found' := by
    refine (List.perm_ext_iff_of_nodup hnotices.distinct hnotices'.distinct).mpr fun members => ?_
    rw [hnotices.mem_iff, hnotices'.mem_iff]
    exact and_congr_right fun _ => exists_congr fun d =>
      and_congr_right fun _ => mem_consulted_congr hroots d
  rw [hnotices.reports.length_eq, hperm.length_eq, hnotices'.reports.length_eq]

end SameRoots

/-- Besides the warnings a run reports how many declarations it visited, how many rows there are and
    how many superclasses it looked up. -/
theorem inherit_reports (h : Hierarchy) (associations : Associations) (roots : List String) :
    (inherit true h associations roots).2.filter (!·.isWarning) =
      [.resolved (h.reach roots).length associations.size (inherit true h associations roots).1.size
        (consulted h associations roots).length] := by
  rw [reports_inherit, visited_derive, (derive_accounts h associations roots).queries]
  simp [Event.isWarning, Event.level, consulted, inherit, inheritNoting]

private theorem countP_isWarning_inherit (h : Hierarchy) (associations : Associations) (roots : List String) :
    (inherit true h associations roots).2.countP Event.isWarning =
      (derive h associations roots).progress.cycles.length := by
  rw [reports_inherit]
  simp [Event.isWarning, Event.level, Function.comp_def]

/-- What is derived from two lists of roots together is the union of what is derived from each, and
    these agree where both have an entry. Lists of the same roots, in whatever order and however often
    repeated, derive the same; the run visits and looks up as many declarations, and warns as often. -/
theorem inherit_roots (enabled : Bool) (h : Hierarchy) (associations : Associations) :
    (∀ first second name, (inherit enabled h associations (first ++ second)).1.get? name =
      ((inherit enabled h associations first).1.get? name).or
        ((inherit enabled h associations second).1.get? name)) ∧
    (∀ first second name inherited other,
      (inherit enabled h associations first).1.get? name = some inherited →
      (inherit enabled h associations second).1.get? name = some other → inherited = other) ∧
    ∀ roots roots', (∀ name, name ∈ roots ↔ name ∈ roots') →
      (inherit enabled h associations roots).1 = (inherit enabled h associations roots').1 ∧
      (inherit enabled h associations roots).2.filter (!·.isWarning) =
        (inherit enabled h associations roots').2.filter (!·.isWarning) ∧
      (inherit enabled h associations roots).2.countP Event.isWarning =
        (inherit enabled h associations roots').2.countP Event.isWarning := by
  refine ⟨fun _ _ _ => inherit_get?_append, fun _ _ _ _ _ => eq_of_inherit_get?,
    fun roots roots' hroots => ?_⟩
  cases enabled with
  | false => exact ⟨rfl, rfl, rfl⟩
  | true =>
    have hderived := @inherit_congr_roots h associations _ _ hroots true
    refine ⟨hderived, ?_, ?_⟩
    · rw [inherit_reports, inherit_reports, hderived, (reach_perm hroots).length_eq,
        (consulted_perm hroots).length_eq]
    · rw [countP_isWarning_inherit, countP_isWarning_inherit, length_cycles_congr hroots]

/-- `X` inherits from `Y` only if it is a root, `Tail` stays below its cycle, and a root that is listed
    twice adds no warning. -/
theorem inherit_roots_sample :
    (inherit true cyclicHierarchy cyclicAssociations ["Tail"]).1.get? "X" = none ∧
    (inherit true cyclicHierarchy cyclicAssociations ["Tail", "X"]).1.get? "X" =
      some ⟨⟨false, [⟨false, "y"⟩]⟩, "Y"⟩ ∧
    (inherit true cyclicHierarchy cyclicAssociations ["X", "Tail", "X"]).1.get? "X" =
      some ⟨⟨false, [⟨false, "y"⟩]⟩, "Y"⟩ ∧
    (inherit true cyclicHierarchy cyclicAssociations ["X", "Tail", "X"]).2.countP
      Event.isWarning = 1 := by
  obtain ⟨hunion, -, hsame⟩ := inherit_roots true cyclicHierarchy cyclicAssociations
  have hroots : ∀ name, name ∈ ["Tail", "X"] ↔ name ∈ ["X", "Tail", "X"] := by
    intro name
    simp only [List.mem_cons, List.not_mem_nil, or_false]
    tauto
  obtain ⟨hderived, -, hwarnings⟩ := hsame _ _ hroots
  have htail : (inherit true cyclicHierarchy cyclicAssociations ["Tail"]).1.get? "X" = none := by
    cbv
  have hx : (inherit true cyclicHierarchy cyclicAssociations ["X"]).1.get? "X" =
      some ⟨⟨false, [⟨false, "y"⟩]⟩, "Y"⟩ := by
    cbv
  have hboth := hunion ["Tail"] ["X"] "X"
  rw [htail, hx, List.singleton_append] at hboth
  refine ⟨htail, hboth, hderived ▸ hboth, hwarnings ▸ ?_⟩
  cbv

end RetainerTable
