import Mathlib.Data.List.Chain
import Mathlib.Data.List.Nodup
import RetainerTable.Proofs.Inheritance.Ancestry

namespace RetainerTable

open Relation (ReflTransGen)

variable {h : Hierarchy} {associations : Associations} {known : Outcomes}

namespace Hierarchy

variable {d e first : Declaration} {ds : List Declaration}

/-- A chain leads on to its last class. -/
theorem passesAll_getLast (hchain : ds.IsChain (h.Passes associations)) (hne : ds ≠ [])
    (hd : d ∈ ds) : ReflTransGen (h.Passes associations) d (ds.getLast hne) := by
  refine hchain.backwards_induction
    (fun d => ReflTransGen (h.Passes associations) d (ds.getLast hne)) ds ?_ ?_ d hd
  · intro d e hpasses he
    exact .head hpasses he
  · intro _
    exact .refl

theorem passesAll_head (hchain : (first :: ds).IsChain (h.Passes associations))
    (hd : d ∈ first :: ds) : ReflTransGen (h.Passes associations) first d := by
  refine hchain.induction (ReflTransGen (h.Passes associations) first) (first :: ds) ?_ ?_ d hd
  · intro d e hpasses he
    exact he.tail hpasses
  · intro _
    exact .refl

/-- A chain goes on from each of its classes but the last. -/
theorem eq_getLast_or_exists_passes (hchain : ds.IsChain (h.Passes associations)) (hne : ds ≠ [])
    (hd : d ∈ ds) : d = ds.getLast hne ∨ ∃ e ∈ ds, h.Passes associations d e := by
  obtain ⟨before, after, rfl⟩ := List.append_of_mem hd
  cases after with
  | nil => exact .inl (by simp)
  | cons next after => exact .inr ⟨next, by simp, hchain.right_of_append.rel⟩

end Hierarchy

/-- What the ending of a climb says of the last class passed. -/
def Ending.Describes (h : Hierarchy) (associations : Associations) (known : Outcomes)
    (passed : List String) (last : Declaration) : Ending → Prop
  | .associated inherited => ∃ a, h.SubclassOf last a ∧
      associations.get? a.name = some inherited.retainer ∧ inherited.ancestor = a.name
  | .decided outcome => ∃ p, h.SubclassOf last p ∧
      associations.get? p.name = none ∧ known.get? p.name = some outcome
  | .top => last.superclass = none
  | .outside typeName reference => typeName = last.name ∧ last.superclass = some reference ∧
      h.find? reference.name = none
  | .notClass => ∃ p, h.SubclassOf last p ∧
      associations.get? p.name = none ∧ p.kind.isClass = false
  | .cycle name => ∃ p, h.Passes associations last p ∧ p.name = name ∧ name ∈ passed

/-- The class that the climb met twice, if that ended it. -/
def Ending.turn? : Ending → Option String
  | .cycle name => some name
  | _ => none

namespace Ending.Describes

variable {passed : List String} {last p : Declaration} {ending : Ending}

/-- A class without an association above the last one was remembered, or else it was passed and the
    climb turned there. -/
theorem known_or_turn (hending : ending.Describes h associations known passed last)
    (hpasses : h.Passes associations last p) :
    ending.turn? = none ∧ known.get? p.name ≠ none ∨
      ending.turn? = some p.name ∧ p.name ∈ passed := by
  cases ending with
  | associated inherited =>
    obtain ⟨a, hsuper, hretainer, -⟩ := hending
    have hassociated := NameMap.contains_of_get? hretainer
    exact absurd hassociated (hpasses.not_associated hsuper)
  | decided outcome =>
    obtain ⟨q, hsuper, -, hget⟩ := hending
    rw [hpasses.eq_superclass hsuper, hget]
    exact .inl ⟨rfl, Option.some_ne_none outcome⟩
  | top => exact absurd hpasses.superclass (Hierarchy.not_subclassOf_of_top hending p)
  | outside typeName reference =>
    exact absurd hpasses.superclass (Hierarchy.not_subclassOf_of_outside hending.2.1 hending.2.2 p)
  | notClass =>
    obtain ⟨q, hsuper, -, hkind⟩ := hending
    rw [← hpasses.eq_superclass hsuper, hpasses.candidate.isClass] at hkind
    cases hkind
  | cycle name =>
    obtain ⟨q, hback, rfl, hin⟩ := hending
    obtain rfl := hpasses.eq_superclass hback.superclass
    exact .inr ⟨rfl, hin⟩

theorem exists_of_turn {name : String} (hending : ending.Describes h associations known passed last)
    (hturn : ending.turn? = some name) :
    ∃ p, h.Passes associations last p ∧ p.name = name ∧ name ∈ passed := by
  cases ending with
  | cycle turned => exact Option.some.inj hturn ▸ hending
  | associated _ | decided _ | top | outside _ _ | notClass => cases hturn

end Ending.Describes

/-- A climb from `current` that goes on at the classes `above`, one after the other, none of them
    passed or decided before. It looks up the superclasses of `current` and of these, counts them, and
    its ending describes the last. -/
structure Way.Climbs (h : Hierarchy) (associations : Associations) (known : Outcomes) (way : Way)
    (current : Declaration) (above : List Declaration) (climbed : Way × Ending) : Prop where
  asked : climbed.1.asked = way.asked ++ current :: above
  queries : climbed.1.queries = way.queries + (current :: above).length
  chain : (current :: above).IsChain (h.Passes associations)
  fresh : ∀ d ∈ above, d.name ∉ way.passed ∧ known.get? d.name = none
  distinct : (above.map Declaration.name).Nodup
  names : climbed.1.passed = (above.map Declaration.name).reverse ++ way.passed
  ending : climbed.2.Describes h associations known climbed.1.passed
    ((current :: above).getLast (List.cons_ne_nil _ _))

namespace Way.Climbs

variable {way : Way} {current parent : Declaration} {above : List Declaration} {ending : Ending}
  {climbed : Way × Ending}

theorem stop (hending : ending.Describes h associations known way.passed current) :
    Climbs h associations known way current [] (way.ask current, ending) where
  asked := rfl
  queries := rfl
  chain := .singleton current
  fresh := by simp
  distinct := .nil
  names := rfl
  ending := hending

theorem step (hpasses : h.Passes associations current parent)
    (hunknown : known.get? parent.name = none) (hpassed : parent.name ∉ way.passed)
    (hclimbs : Climbs h associations known ((way.ask current).pass parent) parent above climbed) :
    Climbs h associations known way current (parent :: above) climbed where
  asked := by simp [hclimbs.asked, ask, pass]
  queries := by
    rw [hclimbs.queries]
    simp only [ask, pass, List.length_cons]
    omega
  chain := .cons_cons hpasses hclimbs.chain
  fresh d hd := by
    rcases List.mem_cons.mp hd with rfl | hd
    · exact ⟨hpassed, hunknown⟩
    · obtain ⟨hnew, hfree⟩ := hclimbs.fresh d hd
      exact ⟨fun hin => hnew (List.mem_cons_of_mem _ hin), hfree⟩
  distinct := by
    rw [List.map_cons, List.nodup_cons]
    refine ⟨fun hin => ?_, hclimbs.distinct⟩
    obtain ⟨d, hd, hname⟩ := List.mem_map.mp hin
    exact (hclimbs.fresh d hd).1 (hname ▸ List.mem_cons_self ..)
  names := by simp [hclimbs.names, ask, pass]
  ending := hclimbs.ending

theorem reaches (hclimbs : Climbs h associations known way current above climbed)
    {d : Declaration} (hd : d ∈ current :: above) :
    ReflTransGen (h.Passes associations) d
      ((current :: above).getLast (List.cons_ne_nil _ _)) :=
  Hierarchy.passesAll_getLast hclimbs.chain _ hd

theorem exists_passes (hclimbs : Climbs h associations known way current above climbed)
    {d : Declaration} (hd : d ∈ above) : ∃ below, h.Passes associations below d := by
  obtain ⟨before, after, rfl⟩ := List.append_of_mem hd
  have hchain : (current :: before ++ d :: after).IsChain (h.Passes associations) := hclimbs.chain
  exact ⟨_, hchain.rel_getLast_head_of_append (by simp) (by simp)⟩

theorem nodup (hclimbs : Climbs h associations known way current above climbed)
    (hpassed : current.name ∈ way.passed) : (current :: above).Nodup := by
  refine List.nodup_cons.mpr ⟨fun hin => ?_, List.Nodup.of_map _ hclimbs.distinct⟩
  exact (hclimbs.fresh current hin).1 hpassed

end Way.Climbs

theorem climb_spec (h : Hierarchy) (associations : Associations) (known : Outcomes) (way : Way)
    (current : Declaration) :
    ∃ above, way.Climbs h associations known current above
      (climb h associations known way current) := by
  fun_induction climb h associations known way current with
  | case1 way current hnone => exact ⟨[], .stop hnone⟩
  | case2 way current reference hsuper hnone => exact ⟨[], .stop ⟨rfl, hsuper, hnone⟩⟩
  | case3 way current reference hsuper parent hparent retainer hretainer =>
    exact ⟨[], .stop ⟨parent, .of_find? hsuper hparent, hretainer, rfl⟩⟩
  | case4 way current reference hsuper parent hparent hfree outcome hknown =>
    exact ⟨[], .stop ⟨parent, .of_find? hsuper hparent, hfree, hknown⟩⟩
  | case5 way current reference hsuper parent hparent hfree hunknown hkind =>
    exact ⟨[], .stop ⟨parent, .of_find? hsuper hparent, hfree, by simpa using hkind⟩⟩
  | case6 way current reference hsuper parent hparent hfree hunknown hkind hpassed =>
    have hpasses : h.Passes associations current parent :=
      ⟨.of_find? hsuper hparent, by simpa using hkind, hfree⟩
    exact ⟨[], .stop ⟨parent, hpasses, rfl, hpassed⟩⟩
  | case7 way current reference hsuper parent hparent hfree hunknown hkind hpassed ih =>
    have hpasses : h.Passes associations current parent :=
      ⟨.of_find? hsuper hparent, by simpa using hkind, hfree⟩
    obtain ⟨above, hclimbs⟩ := ih
    exact ⟨parent :: above, .step hpasses hunknown hpassed hclimbs⟩

end RetainerTable
