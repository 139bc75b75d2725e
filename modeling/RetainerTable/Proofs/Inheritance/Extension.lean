import RetainerTable.Proofs.Inheritance.Ancestry

/-!
What classes inherit once more types are associated.

A climb goes on unless it meets an associated declaration, so a new association matters to a class
exactly if the way up from it, taken before, meets that declaration (`Hierarchy.Meets`). If it meets
no new one, the class inherits from the same ancestor (`inheritsFrom_iff_of_meets_none`); otherwise it
inherits from a new one that it meets (`exists_new_inheritsFrom`).
-/

namespace RetainerTable

open Relation (ReflTransGen)

/-- What the fewer associations say, the more say too. -/
def Associations.Extends (more fewer : Associations) : Prop :=
  ∀ name retainer, fewer.get? name = some retainer → more.get? name = some retainer

/-- Only the more associations associate the type. -/
structure Associations.New (more fewer : Associations) (name : String) : Prop where
  before : fewer.get? name = none
  after : more.contains name = true

namespace Associations.Extends

variable {fewer more : Associations} {name : String}

theorem contains (hextends : more.Extends fewer) (hcontains : fewer.contains name = true) :
    more.contains name = true := by
  obtain ⟨retainer, hget⟩ := Option.isSome_iff_exists.mp hcontains
  exact NameMap.contains_of_get? (hextends name retainer hget)

private theorem get?_eq_none (hextends : more.Extends fewer) (hfree : more.get? name = none) :
    fewer.get? name = none := by
  cases hget : fewer.get? name with
  | none => rfl
  | some retainer =>
    have hmore := hextends name retainer hget
    rw [hfree] at hmore
    cases hmore

theorem get?_eq (hextends : more.Extends fewer) (hcontains : fewer.contains name = true) :
    more.get? name = fewer.get? name := by
  obtain ⟨retainer, hget⟩ := Option.isSome_iff_exists.mp hcontains
  rw [hget, hextends name retainer hget]

theorem candidate (hextends : more.Extends fewer) {d : Declaration} (hd : Candidate more d) :
    Candidate fewer d :=
  ⟨hd.isClass, hextends.get?_eq_none hd.unassociated⟩

end Associations.Extends

theorem Candidate.of_not_new {fewer more : Associations} {d : Declaration}
    (hd : Candidate fewer d) (hnew : ¬more.New fewer d.name) : Candidate more d := by
  refine ⟨hd.isClass, ?_⟩
  cases hget : more.get? d.name with
  | none => rfl
  | some retainer => exact absurd ⟨hd.unassociated, NameMap.contains_of_get? hget⟩ hnew

namespace Hierarchy

variable {h : Hierarchy} {associations fewer more : Associations} {d e a t : Declaration}

/-- The way up from `d` meets `a`: all declarations between them are classes without an association.
    Whether `a` is such a class does not matter. -/
inductive Meets (h : Hierarchy) (associations : Associations) : Declaration → Declaration → Prop
  | superclass {d a : Declaration} (hsuper : h.SubclassOf d a) : Meets h associations d a
  | above {d e a : Declaration} (hpasses : h.Passes associations d e)
      (habove : Meets h associations e a) : Meets h associations d a

theorem InheritsFrom.contains (ha : h.InheritsFrom associations d a) :
    associations.contains a.name = true := by
  induction ha with
  | superclass _ hassociated => exact hassociated
  | above _ _ ih => exact ih

theorem InheritsFrom.mem (ha : h.InheritsFrom associations d a) : a ∈ h.declarations := by
  induction ha with
  | superclass hsuper _ => exact hsuper.declared
  | above _ _ ih => exact ih

theorem Meets.mem (ha : h.Meets associations d a) : a ∈ h.declarations := by
  induction ha with
  | superclass hsuper => exact hsuper.declared
  | above _ _ ih => exact ih

/-- The way up passes what it meets, if that is a class without an association. -/
theorem Meets.passesAll (hmeets : h.Meets associations d a) (ha : Candidate associations a) :
    ReflTransGen (h.Passes associations) d a := by
  induction hmeets with
  | superclass hsuper => exact .single ⟨hsuper, ha⟩
  | above hpasses _ ih => exact .head hpasses (ih ha)

/-- A class whose way up meets no new association inherits as before. -/
theorem inheritsFrom_iff_of_meets_none (hextends : more.Extends fewer)
    (hnone : ∀ t, h.Meets fewer d t → ¬more.New fewer t.name) :
    h.InheritsFrom more d a ↔ h.InheritsFrom fewer d a := by
  constructor
  · intro ha
    induction ha with
    | @superclass d a hsuper hassociated =>
      cases hcontains : fewer.contains a.name with
      | true => exact .superclass hsuper hcontains
      | false =>
        have hbefore := NameMap.contains_eq_false_iff.mp hcontains
        exact absurd ⟨hbefore, hassociated⟩ (hnone a (.superclass hsuper))
    | above hpasses _ ih =>
      have hbefore : h.Passes fewer _ _ :=
        ⟨hpasses.superclass, hextends.candidate hpasses.candidate⟩
      exact .above hbefore (ih fun t ht => hnone t (.above hbefore ht))
  · intro ha
    induction ha with
    | superclass hsuper hassociated => exact .superclass hsuper (hextends.contains hassociated)
    | above hpasses _ ih =>
      have hold := hnone _ (.superclass hpasses.superclass)
      have hafter : h.Passes more _ _ := ⟨hpasses.superclass, hpasses.candidate.of_not_new hold⟩
      exact .above hafter (ih fun t ht => hnone t (.above hpasses ht))

/-- A class whose way up meets a new association inherits from the first new one that it meets. -/
theorem exists_new_inheritsFrom (hmeets : h.Meets fewer d t) (hnew : more.New fewer t.name) :
    ∃ a, h.Meets fewer d a ∧ more.New fewer a.name ∧ h.InheritsFrom more d a := by
  induction hmeets with
  | superclass hsuper => exact ⟨_, .superclass hsuper, hnew, .superclass hsuper hnew.after⟩
  | @above d e t hpasses _ ih =>
    by_cases hnext : more.New fewer e.name
    · have hsuper := hpasses.superclass
      exact ⟨e, .superclass hsuper, hnext, .superclass hsuper hnext.after⟩
    · obtain ⟨a, hmeets, hnew, ha⟩ := ih hnew
      have hafter : h.Passes more d e := ⟨hpasses.superclass, hpasses.candidate.of_not_new hnext⟩
      exact ⟨a, .above hpasses hmeets, hnew, .above hafter ha⟩

end Hierarchy

end RetainerTable
