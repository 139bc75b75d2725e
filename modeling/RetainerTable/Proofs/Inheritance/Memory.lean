import RetainerTable.Proofs.Inheritance.Queries

/-!
The memory of decisions.

`Hierarchy.nearest?` is the way up without a memory: it finds the nearest associated ancestor, and nothing
exactly if the way comes to nothing (`nearest?_eq_none_iff`). Whatever classes were decided before, what is
remembered of each is what its own way up finds, and so is the next answer (`decide_after`).
-/

namespace RetainerTable

open Relation (ReflTransGen)

variable {h : Hierarchy} {associations : Associations} {d e : Declaration}

namespace Hierarchy

/-- What the first associated ancestor above `current` gives, provided that all below it are classes.
    The way ends at a class that was passed before. -/
def nearestFrom? (h : Hierarchy) (associations : Associations) (passed : List String)
    (current : Declaration) : Option Inherited :=
  match _hparent : h.superclassOf? current with
  | none => none
  | some parent =>
    match associations.get? parent.name with
    | some retainer => some ⟨retainer, parent.name⟩
    | none =>
      if !parent.kind.isClass then none
      else if _hpassed : parent.name ∈ passed then none
      else nearestFrom? h associations (parent.name :: passed) parent
termination_by (h.unseen passed).length
decreasing_by
  obtain ⟨ref, -, hfound⟩ := Option.bind_eq_some_iff.mp _hparent
  exact length_unseen_cons_lt (mem_of_find? hfound).1 _hpassed

/-- What a declaration's own way up finds, whatever was decided before. -/
def nearest? (h : Hierarchy) (associations : Associations) (d : Declaration) : Option Inherited :=
  h.nearestFrom? associations [d.name] d

private theorem inherits_of_nearestFrom? {passed : List String} {inherited : Inherited}
    (hnearest : h.nearestFrom? associations passed d = some inherited) :
    h.Inherits associations d inherited := by
  fun_induction nearestFrom? h associations passed d with
  | case1 passed current hparent => cases hnearest
  | case2 passed current parent hparent retainer hretainer =>
    cases hnearest
    have hassociated := NameMap.contains_of_get? hretainer
    exact ⟨parent, .superclass (superclassOf?_eq_some_iff.mp hparent) hassociated, hretainer, rfl⟩
  | case3 passed current parent hparent hfree hkind => cases hnearest
  | case4 passed current parent hparent hfree hkind hpassed => cases hnearest
  | case5 passed current parent hparent hfree hkind hpassed ih =>
    obtain ⟨a, hinherits, hretainer, hancestor⟩ := ih hnearest
    have hpasses : h.Passes associations current parent :=
      ⟨superclassOf?_eq_some_iff.mp hparent, by simpa using hkind, hfree⟩
    exact ⟨a, .above hpasses hinherits, hretainer, hancestor⟩

/-- If the classes passed lead to the last of them, a way up that finds nothing comes to nothing. -/
theorem unresolved_of_nearestFrom? {passed : List String}
    (hpassed : ∀ name ∈ passed, ∃ p, h.find? name = some p ∧
      ReflTransGen (h.Passes associations) p d)
    (hnearest : h.nearestFrom? associations passed d = none) : h.Unresolved associations d := by
  fun_induction nearestFrom? h associations passed d with
  | case1 passed current hparent =>
    exact ⟨current, .refl, .outside (superclassOf?_eq_none_iff.mp hparent)⟩
  | case2 passed current parent hparent retainer hretainer => cases hnearest
  | case3 passed current parent hparent hfree hkind =>
    have hsuper := superclassOf?_eq_some_iff.mp hparent
    exact ⟨current, .refl, .notClass hsuper hfree (by simpa using hkind)⟩
  | case4 passed current parent hparent hfree hkind hin =>
    have hsuper := superclassOf?_eq_some_iff.mp hparent
    obtain ⟨p, hfound, hback⟩ := hpassed _ hin
    obtain rfl : parent = p := Option.some.inj ((find?_of_mem hsuper.declared).symm.trans hfound)
    exact ⟨current, .refl, .cycle ⟨hsuper, by simpa using hkind, hfree⟩ hback⟩
  | case5 passed current parent hparent hfree hkind hnew ih =>
    have hsuper := superclassOf?_eq_some_iff.mp hparent
    have hpasses : h.Passes associations current parent := ⟨hsuper, by simpa using hkind, hfree⟩
    have hleads : ∀ name ∈ parent.name :: passed, ∃ p, h.find? name = some p ∧
        ReflTransGen (h.Passes associations) p parent := by
      intro name hname
      rcases List.mem_cons.mp hname with rfl | hname
      · exact ⟨parent, find?_of_mem hsuper.declared, .refl⟩
      · obtain ⟨p, hfound, hleads⟩ := hpassed name hname
        exact ⟨p, hfound, hleads.tail hpasses⟩
    obtain ⟨last, habove, hdead⟩ := ih hleads hnearest
    exact ⟨last, .head hpasses habove, hdead⟩

/-- The way up from a declaration finds nothing exactly if it comes to nothing. -/
theorem nearest?_eq_none_iff (hmem : d ∈ h.declarations) :
    h.nearest? associations d = none ↔ h.Unresolved associations d := by
  constructor
  · refine unresolved_of_nearestFrom? fun name hname => ?_
    obtain rfl := List.mem_singleton.mp hname
    exact ⟨d, find?_of_mem hmem, .refl⟩
  · intro hunresolved
    refine Option.eq_none_iff_forall_ne_some.mpr fun inherited hnearest => ?_
    obtain ⟨a, hinherits, -⟩ := inherits_of_nearestFrom? hnearest
    exact not_inheritsFrom_of_unresolved hunresolved hinherits

/-- The way up from a declaration finds what it inherits. -/
theorem decides_nearest? (hmem : d ∈ h.declarations) :
    h.Decides associations d (h.nearest? associations d) := by
  cases hnearest : h.nearest? associations d with
  | none =>
    have hunresolved := (nearest?_eq_none_iff hmem).mp hnearest
    exact decides_none fun a => not_inheritsFrom_of_unresolved hunresolved
  | some inherited => exact decides_some (inherits_of_nearestFrom? hnearest)

/-- A declaration has one outcome. -/
theorem Decides.eq_nearest? {outcome : Option Inherited}
    (hdecides : h.Decides associations d outcome) (hmem : d ∈ h.declarations) :
    outcome = h.nearest? associations d :=
  Option.ext fun inherited => (hdecides inherited).trans (decides_nearest? hmem inherited).symm

end Hierarchy

namespace Progress

/-- The progress of deciding declarations one after the other, from the beginning. -/
def after (h : Hierarchy) (associations : Associations) (calls : List Declaration) : Progress :=
  calls.foldl (fun progress d => (progress.decide h associations d).2) (.start h associations)

theorem after_snoc (calls : List Declaration) (d : Declaration) :
    after h associations (calls ++ [d]) =
      ((after h associations calls).decide h associations d).2 := by
  simp [after]

/-- All outcomes remembered are of classes without an association and are what the way up from them
    finds, and one is remembered for whatever class without an association lies above them. -/
structure Faithful (h : Hierarchy) (associations : Associations) (progress : Progress) : Prop where
  outcome : ∀ name outcome, progress.known.get? name = some outcome →
    ∃ d ∈ h.declarations, d.name = name ∧ Candidate associations d ∧
      outcome = h.nearest? associations d
  closed : ∀ d ∈ h.declarations, progress.known.contains d.name = true →
    ∀ e, h.Passes associations d e → progress.known.contains e.name = true

/-- Sound outcomes whose look-ups are accounted for are a faithful memory. -/
theorem Accounts.faithful {progress : Progress} {decided : List Declaration}
    (hsound : Outcomes.Sound h associations progress.known)
    (haccounts : progress.Accounts h associations decided) :
    progress.Faithful h associations where
  outcome name outcome hget := by
    obtain ⟨d, hfound, hcandidate, hdecides⟩ := hsound name outcome hget
    obtain ⟨hmem, hname⟩ := Hierarchy.mem_of_find? hfound
    exact ⟨d, hmem, hname, hcandidate, hdecides.eq_nearest? hmem⟩
  closed d hmem hknown e hpasses := by
    have hasked : ∀ x ∈ h.declarations,
        x ∈ progress.asked ↔ progress.known.contains x.name = true := by
      intro x hx
      rw [haccounts.mem_iff hx, NameMap.contains, Option.isSome_iff_ne_none]
    have habove := haccounts.closed d ((hasked d hmem).mpr hknown) e hpasses
    exact (hasked e hpasses.superclass.declared).mp habove

/-- Deciding classes without an association keeps the memory sound and accounts for what is in it. -/
theorem sound_accounts_after {calls : List Declaration}
    (hcalls : ∀ d ∈ calls, d ∈ h.declarations ∧ Candidate associations d) :
    Outcomes.Sound h associations (after h associations calls).known ∧
      (after h associations calls).Accounts h associations calls := by
  induction calls using List.reverseRecOn with
  | nil => exact ⟨Outcomes.sound_empty, accounts_start⟩
  | append_singleton calls d ih =>
    obtain ⟨hmem, hcandidate⟩ := hcalls d (by simp)
    obtain ⟨hsound, haccounts⟩ := ih fun e he => hcalls e (List.mem_append_left _ he)
    rw [after_snoc]
    exact ⟨(decide_sound hsound (Hierarchy.find?_of_mem hmem) hcandidate).2,
      haccounts.decide hmem hcandidate⟩

/-- In any sequence of decisions of classes without an association each is answered by what the way up
    from its class finds, though most of that way may only be remembered, and leaves a faithful memory.
    The way up finds what the class inherits; it finds nothing exactly if it leads out of the hierarchy,
    to another kind of type without an association, or round a cycle. -/
theorem decide_after {calls : List Declaration}
    (hcalls : ∀ d ∈ calls, d ∈ h.declarations ∧ Candidate associations d) :
    (∀ before d rest, calls = before ++ d :: rest →
      ((after h associations before).decide h associations d).1 = h.nearest? associations d ∧
      (after h associations (before ++ [d])).Faithful h associations) ∧
    ∀ d ∈ h.declarations,
      (∀ inherited, h.nearest? associations d = some inherited ↔
        h.Inherits associations d inherited) ∧
      (h.nearest? associations d = none ↔ h.Unresolved associations d) := by
  refine ⟨?_, fun d hmem => ⟨Hierarchy.decides_nearest? hmem, Hierarchy.nearest?_eq_none_iff hmem⟩⟩
  rintro before d rest rfl
  have hbefore : ∀ e ∈ before ++ [d], e ∈ h.declarations ∧ Candidate associations e := by
    intro e he
    rcases List.mem_append.mp he with he | he
    · exact hcalls e (List.mem_append_left _ he)
    · obtain rfl := List.mem_singleton.mp he
      exact hcalls e (by simp)
  obtain ⟨hmem, hcandidate⟩ := hcalls d (by simp)
  obtain ⟨hsound, -⟩ := sound_accounts_after fun e he => hbefore e (List.mem_append_left _ he)
  obtain ⟨hsound', haccounts⟩ := sound_accounts_after hbefore
  have hdecides := (decide_sound hsound (Hierarchy.find?_of_mem hmem) hcandidate).1
  exact ⟨hdecides.eq_nearest? hmem, haccounts.faithful hsound'⟩

/-- A class two steps below an associated one. -/
def knottedLeaf : Declaration := ⟨"Leaf", .ordinary, some ⟨"Mid", []⟩, none⟩

/-- A class below one that is its own superclass. -/
def knottedTail : Declaration := ⟨"Tail", .ordinary, some ⟨"Knot", []⟩, none⟩

def knottedHierarchy : Hierarchy where
  declarations :=
    [knottedLeaf, ⟨"Mid", .ordinary, some ⟨"Base", []⟩, none⟩, ⟨"Base", .ordinary, none, none⟩,
      knottedTail, ⟨"Knot", .ordinary, some ⟨"Knot", []⟩, none⟩]
  distinct := by decide
  enclosed := by decide

def knottedAssociations : Associations :=
  ⟨[("Base", ⟨false, [⟨false, "b"⟩]⟩)], List.pairwise_singleton ..⟩

/-- Once `Tail` and `Leaf` are decided, the classes above them are remembered. -/
theorem decide_after_knotted :
    ((after knottedHierarchy knottedAssociations [knottedTail]).decide knottedHierarchy
        knottedAssociations knottedLeaf).1 = some ⟨⟨false, [⟨false, "b"⟩]⟩, "Base"⟩ ∧
    (after knottedHierarchy knottedAssociations [knottedTail, knottedLeaf]).Faithful
      knottedHierarchy knottedAssociations ∧
    knottedHierarchy.nearest? knottedAssociations knottedTail = none := by
  have hcalls : ∀ d ∈ [knottedTail, knottedLeaf],
      d ∈ knottedHierarchy.declarations ∧ Candidate knottedAssociations d := by
    intro d hd
    simp only [List.mem_cons, List.not_mem_nil, or_false] at hd
    rcases hd with rfl | rfl
    · exact ⟨by decide, rfl, rfl⟩
    · exact ⟨by decide, rfl, rfl⟩
  obtain ⟨hanswers, hnearest⟩ := decide_after hcalls
  obtain ⟨hleaf, hfaithful⟩ := hanswers [knottedTail] knottedLeaf [] rfl
  have hmid : knottedHierarchy.Passes knottedAssociations knottedLeaf
      ⟨"Mid", .ordinary, some ⟨"Base", []⟩, none⟩ := ⟨.of_find? rfl rfl, rfl, rfl⟩
  have hinherits : knottedHierarchy.Inherits knottedAssociations knottedLeaf
      ⟨⟨false, [⟨false, "b"⟩]⟩, "Base"⟩ := ⟨_, .above hmid (.superclass (.of_find? rfl rfl) rfl), rfl, rfl⟩
  have hknot : knottedHierarchy.Passes knottedAssociations knottedTail
      ⟨"Knot", .ordinary, some ⟨"Knot", []⟩, none⟩ := ⟨.of_find? rfl rfl, rfl, rfl⟩
  have hunresolved : knottedHierarchy.Unresolved knottedAssociations knottedTail :=
    ⟨_, .single hknot, .cycle ⟨.of_find? rfl rfl, rfl, rfl⟩ .refl⟩
  refine ⟨hleaf.trans ?_, hfaithful, ?_⟩
  · exact ((hnearest knottedLeaf (by decide)).1 _).mpr hinherits
  · exact (hnearest knottedTail (by decide)).2.mpr hunresolved

end Progress

end RetainerTable
