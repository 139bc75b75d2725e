import Mathlib.Data.Set.Basic
import RetainerTable.Proofs.Inheritance.Ascent

/-!
Superclass cycles.

A cycle is the set of its declarations, so that it is the same one wherever a climb enters it:
cycles that share a declaration are equal (`SuperclassCycle.eq_of_mem`). On a cycle of classes without
an association nothing is inherited, nor below it (`FreeCycle.not_inheritsFrom`); on any other cycle,
what is inherited comes from the cycle itself (`SuperclassCycle.mem_of_inheritsFrom`).
-/

namespace RetainerTable.Hierarchy

open Relation (ReflTransGen)

variable {h : Hierarchy} {associations : Associations} {d e a first p : Declaration}
  {members others : Set Declaration}

/-- Declarations whose superclasses are among them, and each of which is on the way up from each. -/
structure SuperclassCycle (h : Hierarchy) (members : Set Declaration) : Prop where
  nonempty : members.Nonempty
  closed : ∀ d ∈ members, ∃ e ∈ members, h.SubclassOf d e
  connected : ∀ d ∈ members, ∀ e ∈ members, ReflTransGen h.SubclassOf d e

private theorem reaches_of_passesAll (hpasses : ReflTransGen (h.Passes associations) d e) :
    ReflTransGen h.SubclassOf d e :=
  ReflTransGen.mono (fun _ _ hstep => hstep.superclass) _ _ hpasses

private theorem candidate_of_passesAll (hd : Candidate associations d)
    (hpasses : ReflTransGen (h.Passes associations) d e) : Candidate associations e := by
  cases hpasses with
  | refl => exact hd
  | tail _ hlast => exact hlast.candidate

namespace SuperclassCycle

private theorem mem_of_subclassOf (hcycle : h.SuperclassCycle members) (hd : d ∈ members)
    (hsuper : h.SubclassOf d e) : e ∈ members := by
  obtain ⟨next, hnext, hsuper'⟩ := hcycle.closed d hd
  exact hsuper.unique hsuper' ▸ hnext

private theorem mem_of_reaches (hcycle : h.SuperclassCycle members) (hd : d ∈ members)
    (hreaches : ReflTransGen h.SubclassOf d e) : e ∈ members := by
  induction hreaches with
  | refl => exact hd
  | tail _ hsuper ih => exact hcycle.mem_of_subclassOf ih hsuper

theorem mem_of_passesAll (hcycle : h.SuperclassCycle members) (hd : d ∈ members)
    (hpasses : ReflTransGen (h.Passes associations) d e) : e ∈ members :=
  hcycle.mem_of_reaches hd (reaches_of_passesAll hpasses)

theorem mem_declarations (hcycle : h.SuperclassCycle members) (hd : d ∈ members) :
    d ∈ h.declarations := by
  obtain ⟨e, he, hsuper⟩ := hcycle.closed d hd
  rcases ReflTransGen.cases_tail (hcycle.connected e he d hd) with rfl | ⟨below, -, hlast⟩
  · exact hsuper.declared
  · exact hlast.declared

/-- A declaration is on one cycle at most. -/
theorem eq_of_mem (hcycle : h.SuperclassCycle members) (hother : h.SuperclassCycle others)
    (hd : d ∈ members) (hd' : d ∈ others) : members = others := by
  ext e
  constructor
  · intro he
    exact hother.mem_of_reaches hd' (hcycle.connected d hd e he)
  · intro he
    exact hcycle.mem_of_reaches hd (hother.connected d hd' e he)

/-- What is inherited on a cycle comes from a declaration of this cycle. -/
theorem mem_of_inheritsFrom (hcycle : h.SuperclassCycle members) (hd : d ∈ members)
    (ha : h.InheritsFrom associations d a) : a ∈ members := by
  induction ha with
  | superclass hsuper _ => exact hcycle.mem_of_subclassOf hd hsuper
  | above hpasses _ ih => exact ih (hcycle.mem_of_subclassOf hd hpasses.superclass)

end SuperclassCycle

/-- A cycle of classes without an association. -/
structure FreeCycle (h : Hierarchy) (associations : Associations)
    (members : Set Declaration) : Prop extends h.SuperclassCycle members where
  candidate : ∀ d ∈ members, Candidate associations d

namespace FreeCycle

theorem exists_passes (hcycle : h.FreeCycle associations members) (hd : d ∈ members) :
    ∃ e, h.Passes associations d e ∧ e ∈ members := by
  obtain ⟨e, he, hsuper⟩ := hcycle.closed d hd
  exact ⟨e, ⟨hsuper, hcycle.candidate e he⟩, he⟩

/-- Nothing is inherited by way of a cycle of classes without an association. -/
theorem not_inheritsFrom (hcycle : h.FreeCycle associations members) (he : e ∈ members)
    (hpasses : ReflTransGen (h.Passes associations) d e) : ¬h.InheritsFrom associations d a := by
  rw [inheritsFrom_iff_of_passesAll hpasses]
  exact not_inheritsFrom_of_closed (· ∈ members) (fun _ => hcycle.exists_passes) he

end FreeCycle

/-- A chain whose last class leads back to its first is a cycle. -/
theorem freeCycle_of_isChain {ds : List Declaration}
    (hchain : (first :: ds).IsChain (h.Passes associations))
    (hback : h.Passes associations ((first :: ds).getLast (List.cons_ne_nil _ _)) first) :
    h.FreeCycle associations {d | d ∈ first :: ds} where
  nonempty := ⟨first, List.mem_cons_self ..⟩
  closed d hd := by
    rcases eq_getLast_or_exists_passes hchain (List.cons_ne_nil _ _) hd with rfl | ⟨e, he, hpasses⟩
    · exact ⟨first, List.mem_cons_self .., hback.superclass⟩
    · exact ⟨e, he, hpasses.superclass⟩
  connected d hd e he := by
    have hup := (passesAll_getLast hchain (List.cons_ne_nil _ _) hd).tail hback
    exact reaches_of_passesAll (hup.trans (passesAll_head hchain he))
  candidate d hd := candidate_of_passesAll hback.candidate (passesAll_head hchain hd)

/-- On the way up from the first declaration, which passes only classes without an association, the
    second is the first of the members. -/
inductive Enters (h : Hierarchy) (associations : Associations) (members : Set Declaration) :
    Declaration → Declaration → Prop
  | here {d : Declaration} (hd : d ∈ members) : Enters h associations members d d
  | above {d e p : Declaration} (hd : d ∉ members) (hpasses : h.Passes associations d e)
      (habove : Enters h associations members e p) : Enters h associations members d p

theorem Enters.mem (henters : h.Enters associations members d p) : p ∈ members := by
  induction henters with
  | here hd => exact hd
  | above _ _ _ ih => exact ih

/-- A chain enters a set at its first member. -/
theorem enters_of_isChain {before after : List Declaration}
    (hchain : (before ++ p :: after).IsChain (h.Passes associations)) (hp : p ∈ members)
    (hbefore : ∀ d ∈ before, d ∉ members) (hfirst : (before ++ p :: after).head? = some first) :
    h.Enters associations members first p := by
  induction before generalizing first with
  | nil =>
    obtain rfl := Option.some.inj hfirst
    exact .here hp
  | cons d before ih =>
    obtain rfl := Option.some.inj hfirst
    obtain ⟨next, hnext⟩ : ∃ next, (before ++ p :: after).head? = some next := by
      cases before <;> exact ⟨_, rfl⟩
    have hrest := ih hchain.tail (fun e he => hbefore e (List.mem_cons_of_mem _ he)) hnext
    exact .above (hbefore d (List.mem_cons_self ..)) (hchain.rel_head? hnext) hrest

/-- A chain without repetitions whose last class leads back into it ends on a cycle, which it enters at
    the class led back to. -/
theorem exists_freeCycle_of_isChain {ds : List Declaration}
    (hchain : (first :: ds).IsChain (h.Passes associations)) (hdistinct : (first :: ds).Nodup)
    (hback : h.Passes associations ((first :: ds).getLast (List.cons_ne_nil _ _)) p)
    (hp : p ∈ first :: ds) :
    ∃ members, h.FreeCycle associations members ∧ h.Enters associations members first p ∧
      ∀ d ∈ members, d ∈ first :: ds := by
  obtain ⟨before, after, hsplit⟩ := List.append_of_mem hp
  have hlast : (first :: ds).getLast (List.cons_ne_nil _ _) =
      (p :: after).getLast (List.cons_ne_nil _ _) := by
    simp only [hsplit, List.getLast_append_of_ne_nil _ (List.cons_ne_nil p after)]
  have hfirst : (before ++ p :: after).head? = some first := by
    rw [← hsplit, List.head?_cons]
  rw [hlast] at hback
  rw [hsplit] at hchain hdistinct
  refine ⟨{d | d ∈ p :: after}, freeCycle_of_isChain hchain.right_of_append hback,
    enters_of_isChain hchain (List.mem_cons_self ..) ?_ hfirst, fun d hd => ?_⟩
  · intro d hd hin
    exact List.disjoint_of_nodup_append hdistinct hd hin
  · rw [hsplit]
    exact List.mem_append_right _ hd

end RetainerTable.Hierarchy
