import Mathlib.Logic.Relation
import RetainerTable.Inheritance
import RetainerTable.Proofs.Hierarchy
import RetainerTable.Proofs.NameMap

/-!
Nearest associated ancestors, said without a walk or its memory.

`Hierarchy.InheritsFrom` is the relation that climbs decide. Superclasses are functional, so a class
inherits from at most one ancestor (`InheritsFrom.unique`), a class shares its ancestor with every
class that a climb passes above it (`inheritsFrom_iff_of_passes`), and nothing on a cycle of
passable classes inherits (`not_inheritsFrom_of_cycle`).
-/

namespace RetainerTable

open Relation (ReflTransGen)

/-- A class without an association. Only these inherit, and only these are passed by a climb. -/
structure Candidate (associations : Associations) (d : Declaration) : Prop where
  isClass : d.kind.isClass = true
  unassociated : associations.get? d.name = none

namespace Hierarchy

variable {h : Hierarchy} {associations : Associations} {d e a b : Declaration}

/-- The second declaration is the one that the first names as its superclass, whatever arguments it
    names with it. -/
structure SubclassOf (h : Hierarchy) (d e : Declaration) : Prop where
  named : ∃ reference, d.superclass = some reference ∧ reference.name = e.name
  declared : e ∈ h.declarations

namespace SubclassOf

theorem of_find? {reference : TypeReference} (hsuper : d.superclass = some reference)
    (hfound : h.find? reference.name = some e) : h.SubclassOf d e := by
  obtain ⟨hmem, hname⟩ := mem_of_find? hfound
  exact ⟨⟨reference, hsuper, hname.symm⟩, hmem⟩

private theorem find?_eq {reference : TypeReference} (hsub : h.SubclassOf d e)
    (hsuper : d.superclass = some reference) : h.find? reference.name = some e := by
  obtain ⟨reference', hsuper', hname⟩ := hsub.named
  obtain rfl := Option.some.inj (hsuper.symm.trans hsuper')
  rw [hname]
  exact find?_of_mem hsub.declared

theorem unique (ha : h.SubclassOf d a) (hb : h.SubclassOf d b) : a = b := by
  obtain ⟨reference, hsuper, -⟩ := ha.named
  exact Option.some.inj ((ha.find?_eq hsuper).symm.trans (hb.find?_eq hsuper))

end SubclassOf

theorem superclassOf?_eq_some_iff : h.superclassOf? d = some e ↔ h.SubclassOf d e := by
  rw [superclassOf?, Option.bind_eq_some_iff]
  constructor
  · rintro ⟨reference, hsuper, hfound⟩
    exact .of_find? hsuper hfound
  · intro hsub
    obtain ⟨reference, hsuper, -⟩ := hsub.named
    exact ⟨reference, hsuper, hsub.find?_eq hsuper⟩

theorem superclassOf?_eq_none_iff : h.superclassOf? d = none ↔ ∀ e, ¬h.SubclassOf d e := by
  simp only [Option.eq_none_iff_forall_ne_some, ne_eq, superclassOf?_eq_some_iff]

theorem not_subclassOf_of_top (hnone : d.superclass = none) (e : Declaration) :
    ¬h.SubclassOf d e := by
  rintro ⟨⟨reference, hsuper, -⟩, -⟩
  rw [hnone] at hsuper
  cases hsuper

theorem not_subclassOf_of_outside {reference : TypeReference}
    (hsuper : d.superclass = some reference) (hnone : h.find? reference.name = none)
    (e : Declaration) : ¬h.SubclassOf d e := by
  intro hsub
  rw [hsub.find?_eq hsuper] at hnone
  cases hnone

/-- A climb at `d` goes on at `e`. -/
structure Passes (h : Hierarchy) (associations : Associations) (d e : Declaration) : Prop where
  superclass : h.SubclassOf d e
  candidate : Candidate associations e

/-- `a` is the first associated declaration met on the way up from `d`, and all declarations between
    them are classes without an association. -/
inductive InheritsFrom (h : Hierarchy) (associations : Associations) :
    Declaration → Declaration → Prop
  | superclass {d a : Declaration} (hsuper : h.SubclassOf d a)
      (hassociated : associations.contains a.name = true) : InheritsFrom h associations d a
  | above {d e a : Declaration} (hpasses : h.Passes associations d e)
      (habove : InheritsFrom h associations e a) : InheritsFrom h associations d a

theorem Passes.eq_superclass (hpasses : h.Passes associations d e)
    (hsuper : h.SubclassOf d a) : e = a :=
  hpasses.superclass.unique hsuper

theorem Passes.not_associated (hpasses : h.Passes associations d e)
    (hsuper : h.SubclassOf d a) : ¬associations.contains a.name = true := by
  obtain rfl := hpasses.eq_superclass hsuper
  have hfree := NameMap.contains_eq_false_iff.mpr hpasses.candidate.unassociated
  rw [hfree]
  exact Bool.false_ne_true

private theorem inheritsFrom_iff_of_passes (hpasses : h.Passes associations d e) :
    h.InheritsFrom associations d a ↔ h.InheritsFrom associations e a := by
  constructor
  · intro hd
    cases hd with
    | superclass hsuper hassociated => exact absurd hassociated (hpasses.not_associated hsuper)
    | above hpasses' habove => exact hpasses.eq_superclass hpasses'.superclass ▸ habove
  · exact .above hpasses

theorem inheritsFrom_iff_of_passesAll (hpasses : ReflTransGen (h.Passes associations) d e) :
    h.InheritsFrom associations d a ↔ h.InheritsFrom associations e a := by
  induction hpasses with
  | refl => rfl
  | tail _ hlast ih => exact ih.trans (inheritsFrom_iff_of_passes hlast)

theorem InheritsFrom.unique (ha : h.InheritsFrom associations d a)
    (hb : h.InheritsFrom associations d b) : a = b := by
  induction ha with
  | superclass hsuper hassociated =>
    cases hb with
    | superclass hsuper' _ => exact hsuper.unique hsuper'
    | above hpasses _ => exact absurd hassociated (hpasses.not_associated hsuper)
  | above hpasses _ ih => exact ih ((inheritsFrom_iff_of_passes hpasses).mp hb)

/-- A set of declarations whose members all lead to members through classes without an association
    has no way out to an associated ancestor. -/
theorem not_inheritsFrom_of_closed (members : Declaration → Prop)
    (hclosed : ∀ d, members d → ∃ e, h.Passes associations d e ∧ members e) (hd : members d) :
    ¬h.InheritsFrom associations d a := by
  intro ha
  induction ha with
  | superclass hsuper hassociated =>
    obtain ⟨e, hpasses, -⟩ := hclosed _ hd
    exact hpasses.not_associated hsuper hassociated
  | above hpasses _ ih =>
    obtain ⟨e, hpasses', he⟩ := hclosed _ hd
    exact ih (hpasses'.eq_superclass hpasses.superclass ▸ he)

private theorem not_inheritsFrom_of_cycle (hback : h.Passes associations d e)
    (hcycle : ReflTransGen (h.Passes associations) e d) : ¬h.InheritsFrom associations d a := by
  refine not_inheritsFrom_of_closed (fun x => ReflTransGen (h.Passes associations) x d)
    (fun x hx => ?_) .refl
  rcases ReflTransGen.cases_head hx with rfl | ⟨y, hxy, hy⟩
  · exact ⟨e, hback, hcycle⟩
  · exact ⟨y, hxy, hy⟩

/-- The way up ends at `last`, or turns back to a class already passed, before it meets an associated
    declaration. -/
inductive DeadEnd (h : Hierarchy) (associations : Associations) (last : Declaration) : Prop
  /-- There is no superclass, or it is not declared. -/
  | outside (hnone : ∀ p, ¬h.SubclassOf last p) : h.DeadEnd associations last
  /-- The superclass has no association and is no class. -/
  | notClass {p : Declaration} (hsuper : h.SubclassOf last p)
      (hfree : associations.get? p.name = none) (hkind : p.kind.isClass = false) :
      h.DeadEnd associations last
  /-- The superclass leads back. -/
  | cycle {p : Declaration} (hback : h.Passes associations last p)
      (hcycle : ReflTransGen (h.Passes associations) p last) : h.DeadEnd associations last

theorem not_inheritsFrom_of_deadEnd (hdead : h.DeadEnd associations d) :
    ¬h.InheritsFrom associations d a := by
  intro ha
  cases hdead with
  | outside hnone =>
    cases ha with
    | superclass hsuper _ => exact hnone _ hsuper
    | above hpasses _ => exact hnone _ hpasses.superclass
  | notClass hsuper hfree hkind =>
    cases ha with
    | superclass hsuper' hassociated =>
      obtain rfl := hsuper.unique hsuper'
      rw [NameMap.contains_eq_false_iff.mpr hfree] at hassociated
      cases hassociated
    | above hpasses _ =>
      obtain rfl := hpasses.eq_superclass hsuper
      rw [hpasses.candidate.isClass] at hkind
      cases hkind
  | cycle hback hcycle => exact not_inheritsFrom_of_cycle hback hcycle ha

/-- The way up from `d` passes only classes without an association and comes to nothing. -/
def Unresolved (h : Hierarchy) (associations : Associations) (d : Declaration) : Prop :=
  ∃ last, ReflTransGen (h.Passes associations) d last ∧ h.DeadEnd associations last

theorem not_inheritsFrom_of_unresolved (hunresolved : h.Unresolved associations d) :
    ¬h.InheritsFrom associations d a := by
  obtain ⟨last, hpasses, hdead⟩ := hunresolved
  rw [inheritsFrom_iff_of_passesAll hpasses]
  exact not_inheritsFrom_of_deadEnd hdead

/-- What a class inherits: the retainer of its nearest associated ancestor, and that ancestor's
    name. -/
def Inherits (h : Hierarchy) (associations : Associations) (d : Declaration)
    (inherited : Inherited) : Prop :=
  ∃ a, h.InheritsFrom associations d a ∧
    associations.get? a.name = some inherited.retainer ∧ inherited.ancestor = a.name

/-- The outcome is what the class inherits, or nothing if it inherits nothing. -/
def Decides (h : Hierarchy) (associations : Associations) (d : Declaration)
    (outcome : Option Inherited) : Prop :=
  ∀ inherited, outcome = some inherited ↔ h.Inherits associations d inherited

theorem decides_none (hnone : ∀ a, ¬h.InheritsFrom associations d a) :
    h.Decides associations d none := by
  intro inherited
  constructor
  · intro hsome
    cases hsome
  · rintro ⟨a, ha, -⟩
    exact absurd ha (hnone a)

theorem decides_some {inherited : Inherited} (hinherits : h.Inherits associations d inherited) :
    h.Decides associations d (some inherited) := by
  intro other
  constructor
  · intro hsome
    exact Option.some.inj hsome ▸ hinherits
  · rintro ⟨b, hb, hretainer, hancestor⟩
    obtain ⟨a, ha, hretainer', hancestor'⟩ := hinherits
    obtain rfl := ha.unique hb
    rw [hretainer] at hretainer'
    cases inherited
    cases other
    simp_all

theorem decides_iff_of_passesAll {outcome : Option Inherited}
    (hpasses : ReflTransGen (h.Passes associations) d e) :
    h.Decides associations d outcome ↔ h.Decides associations e outcome := by
  simp only [Decides, Inherits, inheritsFrom_iff_of_passesAll hpasses]

end Hierarchy

end RetainerTable
