import Mathlib.Data.Fintype.EquivFin
import Mathlib.Data.Set.Finite.List
import Mathlib.Order.WellFounded
import RetainerTable.Proofs.Inheritance.Derive

/-!
Which declarations the top-level ones lead to.

An enclosing type has to be listed, but types may be nested in each other in a circle, or a type in
itself. What lies on such a circle or is nested in it is led to from nowhere, and so never visited.
Nothing else is lost (`Hierarchy.rooted_iff`), which `ofManifest_rooted_iff` says of manifests.
-/

namespace RetainerTable

open RetainerTable.Text
open Relation (ReflTransGen TransGen)

namespace Hierarchy

variable {h : Hierarchy} {d e outer : Declaration} {manifest : Manifest}

/-- A declaration that the top-level ones lead to by nesting, whatever the kinds on the way. -/
inductive Rooted (h : Hierarchy) : Declaration → Prop
  | topLevel {d : Declaration} (htop : d ∈ h.topLevel) : h.Rooted d
  | nested {outer d : Declaration} (houter : h.Rooted outer) (hin : d ∈ h.enclosedIn outer.name) :
      h.Rooted d

/-- The second declaration is nested directly in the first. -/
structure Encloses (h : Hierarchy) (outer d : Declaration) : Prop where
  declared : outer ∈ h.declarations
  enclosing : d.enclosing = some outer.name

theorem Encloses.unique (hd : h.Encloses outer d) (hd' : h.Encloses e d) : outer = e :=
  eq_of_name_eq hd.declared hd'.declared
    (Option.some.inj (hd.enclosing.symm.trans hd'.enclosing))

theorem Rooted.mem (hd : h.Rooted d) : d ∈ h.declarations := by
  cases hd with
  | topLevel htop => exact (mem_topLevel_iff.mp htop).1
  | nested _ hin => exact (mem_enclosedIn_iff.mp hin).1

/-- A circle that leads to a declaration keeps it from being led to from the top. -/
theorem Rooted.not_transGen (hd : h.Rooted d) (hleads : ReflTransGen h.Encloses e d) :
    ¬TransGen h.Encloses e e := by
  induction hd with
  | topLevel htop =>
    have hnone := (mem_topLevel_iff.mp htop).2
    intro hcircle
    have hlast : TransGen h.Encloses e _ := hcircle.trans_left hleads
    obtain ⟨outer, -, hencloses⟩ := TransGen.tail'_iff.mp hlast
    rw [hencloses.enclosing] at hnone
    cases hnone
  | nested houter hin ih =>
    -- The circle comes in through the enclosing declaration, of which there is one only.
    have hencloses : h.Encloses _ _ := ⟨houter.mem, (mem_enclosedIn_iff.mp hin).2⟩
    intro hcircle
    have hlast : TransGen h.Encloses e _ := hcircle.trans_left hleads
    obtain ⟨between, hbetween, hencloses'⟩ := TransGen.tail'_iff.mp hlast
    obtain rfl := hencloses'.unique hencloses
    exact ih hbetween hcircle

/-- The declarations that a declaration is nested in, and it itself. -/
def Around (h : Hierarchy) (d : Declaration) : Type :=
  {e // e ∈ h.declarations ∧ ReflTransGen h.Encloses e d}

/-- The second declaration is nested in the first, directly or not. -/
def Outside (h : Hierarchy) (d : Declaration) (outer inner : h.Around d) : Prop :=
  TransGen h.Encloses outer.1 inner.1

/-- There are finitely many declarations, so going outwards ends unless it runs into a circle. -/
theorem wellFounded_outside
    (hacyclic : ∀ e, ReflTransGen h.Encloses e d → ¬TransGen h.Encloses e e) :
    WellFounded (h.Outside d) := by
  have hfinite : Finite (h.Around d) := (List.finite_toSet h.declarations).subset fun e he => he.1
  have htrans : IsTrans (h.Around d) (h.Outside d) := ⟨fun _ _ _ => TransGen.trans⟩
  have hirrefl : Std.Irrefl (h.Outside d) := ⟨fun e => hacyclic e.1 e.2.2⟩
  exact Finite.wellFounded_of_trans_of_irrefl (h.Outside d)

private theorem rooted_of_acyclic (hd : d ∈ h.declarations)
    (hacyclic : ∀ e, ReflTransGen h.Encloses e d → ¬TransGen h.Encloses e e) : h.Rooted d := by
  have hall : ∀ e : h.Around d, h.Rooted e.1 := by
    intro e
    induction e using (wellFounded_outside hacyclic).induction with
    | h e ih =>
      obtain ⟨e, he, hleads⟩ := e
      cases houter : e.enclosing with
      | none => exact .topLevel (mem_topLevel_iff.mpr ⟨he, houter⟩)
      | some name =>
        obtain ⟨outer, hmem, rfl⟩ := List.mem_map.mp (h.enclosed e he name houter)
        have hencloses : h.Encloses outer e := ⟨hmem, houter⟩
        have hrooted : h.Rooted outer :=
          ih ⟨outer, hmem, hleads.head hencloses⟩ (.single hencloses)
        exact .nested hrooted (mem_enclosedIn_iff.mpr ⟨he, houter⟩)
  exact hall ⟨d, hd, .refl⟩

/-- A declaration is led to from the top exactly if no circle leads to it. -/
theorem rooted_iff (hd : d ∈ h.declarations) :
    h.Rooted d ↔ ¬∃ e, TransGen h.Encloses e e ∧ ReflTransGen h.Encloses e d := by
  constructor
  · rintro hrooted ⟨e, hcircle, hleads⟩
    exact hrooted.not_transGen hleads hcircle
  · intro hacyclic
    exact rooted_of_acyclic hd fun e hleads hcircle => hacyclic ⟨e, hcircle, hleads⟩

/-- Only what is led to from the top is visited. -/
theorem Reached.rooted (hd : h.Reached h.roots d) : h.Rooted d := by
  induction hd with
  | root hmem hroot =>
    exact .topLevel (mem_topLevel_iff.mpr ⟨hmem, (name_mem_roots_iff hmem).mp hroot⟩)
  | nested _ _ hmem henclosing ih =>
    exact .nested ih (mem_enclosedIn_iff.mpr ⟨hmem, henclosing⟩)

/-- What is not led to from the top inherits nothing, whatever its ancestors. -/
theorem derive_get?_of_not_rooted (hd : d ∈ h.declarations) (hlost : ¬h.Rooted d)
    (associations : Associations) :
    (derive h associations h.roots).derived.get? d.name = none := by
  cases hget : (derive h associations h.roots).derived.get? d.name with
  | none => rfl
  | some inherited =>
    obtain ⟨e, hreached, hname, -⟩ := derive_get?_iff.mp hget
    obtain rfl := eq_of_name_eq hreached.mem hd hname
    exact absurd hreached.rooted hlost

end Hierarchy

/-- The second entry is nested directly in the type that the first declares. -/
structure Manifest.Encloses (manifest : Manifest) (outer entry : TypeEntry) : Prop where
  listed : outer ∈ manifest.types
  enclosing : entry.enclosing.map trim = some (trim outer.name)

private theorem Manifest.listed_of_transGen {manifest : Manifest} {entry outer : TypeEntry}
    (hleads : TransGen manifest.Encloses outer entry) : outer ∈ manifest.types := by
  obtain ⟨_, hencloses, -⟩ := TransGen.head'_iff.mp hleads
  exact hencloses.listed

namespace Hierarchy

section OfManifest

variable {entry : TypeEntry} (hmade : ofManifest manifest = .ok h)
include hmade

private theorem encloses_said_iff :
    h.Encloses d (.said entry) ↔ ∃ outer, manifest.Encloses outer entry ∧ d = .said outer := by
  constructor
  · rintro ⟨hdeclared, henclosing⟩
    obtain ⟨outer, hlisted, rfl⟩ := (mem_declarations_iff hmade).mp hdeclared
    exact ⟨outer, ⟨hlisted, henclosing⟩, rfl⟩
  · rintro ⟨outer, ⟨hlisted, henclosing⟩, rfl⟩
    exact ⟨(mem_declarations_iff hmade).mpr ⟨outer, hlisted, rfl⟩, henclosing⟩

private theorem transGen_said_iff : TransGen h.Encloses d (.said entry) ↔
    ∃ outer, TransGen manifest.Encloses outer entry ∧ d = .said outer := by
  constructor
  · intro hleads
    induction hleads using TransGen.head_induction_on with
    | single hencloses =>
      obtain ⟨outer, houter, rfl⟩ := (encloses_said_iff hmade).mp hencloses
      exact ⟨outer, .single houter, rfl⟩
    | head hencloses _ ih =>
      obtain ⟨inner, hinner, rfl⟩ := ih
      obtain ⟨outer, houter, rfl⟩ := (encloses_said_iff hmade).mp hencloses
      exact ⟨outer, .head houter hinner, rfl⟩
  · rintro ⟨outer, hleads, rfl⟩
    exact hleads.lift Declaration.said fun _ _ hencloses =>
      (encloses_said_iff hmade).mpr ⟨_, hencloses, rfl⟩

private theorem reflTransGen_said_iff (hentry : entry ∈ manifest.types) :
    ReflTransGen h.Encloses d (.said entry) ↔
      ∃ outer ∈ manifest.types, ReflTransGen manifest.Encloses outer entry ∧ d = .said outer := by
  simp only [Relation.reflTransGen_iff_eq_or_transGen, transGen_said_iff hmade]
  constructor
  · rintro (hsame | ⟨outer, hleads, rfl⟩)
    · exact ⟨entry, hentry, .inl rfl, hsame.symm⟩
    · exact ⟨outer, Manifest.listed_of_transGen hleads, .inr hleads, rfl⟩
  · rintro ⟨outer, -, rfl | hleads, rfl⟩
    · exact .inl rfl
    · exact .inr ⟨outer, hleads, rfl⟩

/-- A listed entry lies on a circle exactly if its declaration does. -/
theorem transGen_said_self_iff (hentry : entry ∈ manifest.types) :
    TransGen h.Encloses (.said entry) (.said entry) ↔ TransGen manifest.Encloses entry entry := by
  rw [transGen_said_iff hmade]
  constructor
  · rintro ⟨outer, hcircle, hsaid⟩
    -- Names are distinct, so entries that declare one type are one entry.
    have hdistinct := (lists_of_ofManifest hmade).1.distinct
    have hname : trim entry.name = trim outer.name := congrArg Declaration.name hsaid
    obtain rfl := List.inj_on_of_nodup_map hdistinct hentry (Manifest.listed_of_transGen hcircle)
      hname
    exact hcircle
  · intro hcircle
    exact ⟨entry, hcircle, rfl⟩

private theorem rooted_said_iff (hentry : entry ∈ manifest.types) : h.Rooted (.said entry) ↔
    ¬∃ outer, TransGen manifest.Encloses outer outer ∧
      ReflTransGen manifest.Encloses outer entry := by
  rw [rooted_iff ((mem_declarations_iff hmade).mpr ⟨entry, hentry, rfl⟩)]
  refine not_congr ⟨?_, ?_⟩
  · rintro ⟨e, hcircle, hleads⟩
    obtain ⟨outer, hlisted, houter, rfl⟩ := (reflTransGen_said_iff hmade hentry).mp hleads
    exact ⟨outer, (transGen_said_self_iff hmade hlisted).mp hcircle, houter⟩
  · rintro ⟨outer, hcircle, hleads⟩
    have hlisted := Manifest.listed_of_transGen hcircle
    exact ⟨.said outer, (transGen_said_self_iff hmade hlisted).mpr hcircle,
      (reflTransGen_said_iff hmade hentry).mpr ⟨outer, hlisted, hleads, rfl⟩⟩

end OfManifest

/-- A manifest that lists a hierarchy may nest types in a circle. Then the types on the circle and
    those nested in them are led to from no top-level type, so they are not visited and inherit
    nothing; these are all that nesting loses. -/
theorem ofManifest_rooted_iff (hmade : ofManifest manifest = .ok h) :
    (∀ entry ∈ manifest.types, (h.Rooted (.said entry) ↔
      ¬∃ outer, TransGen manifest.Encloses outer outer ∧
        ReflTransGen manifest.Encloses outer entry)) ∧
    ((∀ d ∈ h.declarations, h.Rooted d) ↔ ∀ entry, ¬TransGen manifest.Encloses entry entry) ∧
    ∀ d ∈ h.declarations, ¬h.Rooted d → d ∉ h.reach h.roots ∧
      ∀ associations, (derive h associations h.roots).derived.get? d.name = none := by
  refine ⟨fun entry hentry => rooted_said_iff hmade hentry, ⟨?_, ?_⟩, fun d hd hlost =>
    ⟨fun hvisited => hlost (mem_reach_iff.mp hvisited).rooted, derive_get?_of_not_rooted hd hlost⟩⟩
  · intro hall entry hcircle
    have hlisted := Manifest.listed_of_transGen hcircle
    have hrooted : h.Rooted (.said entry) := by
      apply hall
      exact (mem_declarations_iff hmade).mpr ⟨entry, hlisted, rfl⟩
    exact (rooted_said_iff hmade hlisted).mp hrooted ⟨entry, hcircle, .refl⟩
  · intro hacyclic d hd
    obtain ⟨entry, hentry, rfl⟩ := (mem_declarations_iff hmade).mp hd
    apply (rooted_said_iff hmade hentry).mpr
    rintro ⟨outer, hcircle, -⟩
    exact hacyclic outer hcircle

/-- `Ring` extends a type with a retainer, but is nested in itself. -/
def ringManifest : Manifest where
  types := [⟨"Base", .ordinary, none, none⟩, ⟨"Ring", .ordinary, "Base", "Ring"⟩]
  associations := [("Base", "a::B")]

def ringHierarchy : Hierarchy where
  declarations := [⟨"Base", .ordinary, none, none⟩,
    ⟨"Ring", .ordinary, some ⟨"Base", []⟩, some "Ring"⟩]
  distinct := by decide
  enclosed := by decide

private theorem ofManifest_ring : ofManifest ringManifest = .ok ringHierarchy :=
  eq_ok_of_map_toOption (fun _ _ => eq_of_declarations) (by decide +kernel)

/-- `Ring` is declared, but neither visited nor given the retainer of `Base`. -/
theorem ofManifest_rooted_ring : ofManifest ringManifest = .ok ringHierarchy ∧
    ∃ ring ∈ ringHierarchy.declarations, ring.name = "Ring" ∧
      ring ∉ ringHierarchy.reach ringHierarchy.roots ∧ ∀ associations,
        (derive ringHierarchy associations ringHierarchy.roots).derived.get? "Ring" = none := by
  obtain ⟨hrooted, -, hlost⟩ := ofManifest_rooted_iff ofManifest_ring
  have hin : ⟨"Ring", .ordinary, "Base", "Ring"⟩ ∈ ringManifest.types := by simp [ringManifest]
  have hcircle : TransGen ringManifest.Encloses ⟨"Ring", .ordinary, "Base", "Ring"⟩
      ⟨"Ring", .ordinary, "Base", "Ring"⟩ := .single ⟨hin, rfl⟩
  have hdeclared : Declaration.said ⟨"Ring", .ordinary, "Base", "Ring"⟩ ∈
      ringHierarchy.declarations :=
    (mem_declarations_iff ofManifest_ring).mpr ⟨_, hin, rfl⟩
  have hname : (Declaration.said ⟨"Ring", .ordinary, "Base", "Ring"⟩).name = "Ring" := by
    decide +kernel
  have hring := hlost _ hdeclared fun h => (hrooted _ hin).mp h ⟨_, hcircle, .refl⟩
  rw [hname] at hring
  exact ⟨ofManifest_ring, _, hdeclared, hname, hring⟩

/-- Not every declaration of a manifest that lists a hierarchy is led to from the top-level ones. -/
theorem ofManifest_not_rooted : ¬∀ manifest h, ofManifest manifest = .ok h →
    ∀ d ∈ h.declarations, h.Rooted d := by
  intro hall
  have hring := hall ringManifest ringHierarchy ofManifest_ring
    ⟨"Ring", .ordinary, some ⟨"Base", []⟩, some "Ring"⟩ (by simp [ringHierarchy])
  -- The only top-level declaration is `Base`, and nothing is nested in it.
  have htop : ringHierarchy.topLevel = [⟨"Base", .ordinary, none, none⟩] := rfl
  have hinside : ringHierarchy.enclosedIn "Base" = [] := rfl
  have hbase : ∀ d, ringHierarchy.Rooted d → d.name = "Base" := by
    intro d hd
    induction hd with
    | topLevel hd =>
      rw [htop] at hd
      rw [List.mem_singleton.mp hd]
    | nested _ hd ih =>
      rw [ih, hinside] at hd
      cases hd
  have hname := hbase _ hring
  simp at hname

end Hierarchy

end RetainerTable
