import Mathlib.Data.List.Perm.Subperm
import Mathlib.Order.Bounds.Defs
import RetainerTable.Generation
import RetainerTable.Proofs.Inheritance.Derive

/-!
Which superclasses a run looks up.

`consulted` lists the declarations whose superclass a run looks up. After any visits these are the
declarations on the way up from the classes decided, each of them once, and the outcomes remembered are
those of these declarations (`Progress.Accounts`). So the run asks the least set of classes that the
answer may depend on, and the count that it logs is the size of this set (`inherit_queries`).
-/

namespace RetainerTable

open Relation (ReflTransGen)

/-- The declarations whose superclasses a run looks up, in order. -/
def consulted (h : Hierarchy) (associations : Associations) (roots : List String) : List Declaration :=
  (derive h associations roots).progress.asked

variable {h : Hierarchy} {associations : Associations} {decided : List Declaration}
  {progress : Progress} {derivation : Derivation} {d : Declaration}

/-- What was looked up until the classes `decided` were decided. An outcome is remembered for each of
    the declarations asked and for no other, and there is one for whatever lies above them. -/
structure Progress.Accounts (h : Hierarchy) (associations : Associations)
    (decided : List Declaration) (progress : Progress) : Prop where
  declared : ∀ d ∈ progress.asked, d ∈ h.declarations
  candidate : ∀ d ∈ progress.asked, Candidate associations d
  distinct : progress.asked.Nodup
  known : ∀ name, progress.known.get? name = none ↔ name ∉ progress.asked.map Declaration.name
  closed : ∀ d ∈ progress.asked, ∀ e, h.Passes associations d e → e ∈ progress.asked
  complete : ∀ d ∈ decided, d ∈ progress.asked
  below : ∀ e ∈ progress.asked, ∃ d ∈ decided, ReflTransGen (h.Passes associations) d e
  queries : progress.queries = progress.asked.length

namespace Progress

theorem accounts_start : (start h associations).Accounts h associations [] where
  declared := by simp [start]
  candidate := by simp [start]
  distinct := .nil
  known name := by simp [start]
  closed := by simp [start]
  complete := by simp
  below := by simp [start]
  queries := rfl

theorem Accounts.note (haccounts : progress.Accounts h associations decided) (event : Event) :
    (progress.note event).Accounts h associations decided :=
  { haccounts with }

theorem Accounts.mem_iff (haccounts : progress.Accounts h associations decided)
    (hmem : d ∈ h.declarations) : d ∈ progress.asked ↔ progress.known.get? d.name ≠ none := by
  rw [Ne, haccounts.known, not_not]
  constructor
  · exact List.mem_map_of_mem
  · intro hname
    obtain ⟨e, he, hname⟩ := List.mem_map.mp hname
    exact Hierarchy.eq_of_name_eq (haccounts.declared e he) hmem hname ▸ he

/-- A class that is not remembered is decided by a climb, for itself and all classes above it that the
    climb passes. -/
theorem decide_of_unknown (hunknown : progress.known.get? d.name = none) :
    ∃ above climbed, Way.Climbs h associations progress.known
        ⟨[d.name], progress.asked, progress.queries⟩ d above climbed ∧
      climbed.1.passed = ((d :: above).map Declaration.name).reverse ∧
      (progress.decide h associations d).2 =
        { known := ((d :: above).map Declaration.name).reverse.foldl
            (·.insert · climbed.2.outcome) progress.known
          asked := progress.asked ++ d :: above
          queries := progress.queries + (d :: above).length
          log := progress.log ++ climbed.2.events d.name } := by
  obtain ⟨above, hclimbs⟩ :=
    climb_spec h associations progress.known ⟨[d.name], progress.asked, progress.queries⟩ d
  have hpassed := hclimbs.names
  rw [← List.reverse_cons, ← List.map_cons] at hpassed
  refine ⟨above, _, hclimbs, hpassed, ?_⟩
  rw [decide, hunknown, ← hpassed, ← hclimbs.asked, ← hclimbs.queries]

/-- The classes that a climb asks: declared, without an association, and not asked before. -/
theorem Accounts.climbs_fresh {way : Way} {above : List Declaration} {climbed : Way × Ending}
    (haccounts : progress.Accounts h associations decided)
    (hmem : d ∈ h.declarations) (hcandidate : Candidate associations d)
    (hunknown : progress.known.get? d.name = none)
    (hclimbs : way.Climbs h associations progress.known d above climbed) :
    ∀ e ∈ d :: above, e ∈ h.declarations ∧ Candidate associations e ∧ e ∉ progress.asked := by
  intro e he
  rcases List.mem_cons.mp he with rfl | he
  · exact ⟨hmem, hcandidate, fun hin => (haccounts.mem_iff hmem).mp hin hunknown⟩
  · obtain ⟨below, hpasses⟩ := hclimbs.exists_passes he
    have hdeclared := hpasses.superclass.declared
    exact ⟨hdeclared, hpasses.candidate, fun hin =>
      (haccounts.mem_iff hdeclared).mp hin (hclimbs.fresh e he).2⟩

/-- Whatever lies above a class that a climb asks was asked by it or before. -/
theorem Accounts.climbs_closed {way : Way} {above : List Declaration} {climbed : Way × Ending}
    (haccounts : progress.Accounts h associations decided)
    (hdeclared : ∀ e ∈ d :: above, e ∈ h.declarations)
    (hclimbs : way.Climbs h associations progress.known d above climbed)
    (hpassed : climbed.1.passed = ((d :: above).map Declaration.name).reverse)
    {e p : Declaration} (he : e ∈ d :: above) (hpasses : h.Passes associations e p) :
    p ∈ progress.asked ∨ p ∈ d :: above := by
  have hp := hpasses.superclass.declared
  rcases Hierarchy.eq_getLast_or_exists_passes hclimbs.chain (List.cons_ne_nil _ _) he with
    rfl | ⟨next, hnext, hpasses'⟩
  · rcases hclimbs.ending.known_or_turn hpasses with ⟨-, hknown⟩ | ⟨-, hname⟩
    · exact .inl ((haccounts.mem_iff hp).mpr hknown)
    · rw [hpassed] at hname
      obtain ⟨x, hx, hname⟩ := List.mem_map.mp (List.mem_reverse.mp hname)
      exact .inr (Hierarchy.eq_of_name_eq (hdeclared x hx) hp hname ▸ hx)
  · exact .inr (hpasses.eq_superclass hpasses'.superclass ▸ hnext)

/-- Deciding a class asks those on the way up from it that were not asked before. -/
theorem Accounts.decide (haccounts : progress.Accounts h associations decided)
    (hmem : d ∈ h.declarations) (hcandidate : Candidate associations d) :
    (progress.decide h associations d).2.Accounts h associations (decided ++ [d]) := by
  cases hknown : progress.known.get? d.name with
  | some outcome =>
    have hin : d ∈ progress.asked := (haccounts.mem_iff hmem).mpr (by simp [hknown])
    simp only [Progress.decide, hknown]
    exact { haccounts with
      complete := by simpa [or_imp, forall_and] using And.intro haccounts.complete hin
      below := fun e he => by
        obtain ⟨x, hx, hreach⟩ := haccounts.below e he
        exact ⟨x, List.mem_append_left _ hx, hreach⟩ }
  | none =>
    obtain ⟨above, climbed, hclimbs, hpassed, hdecide⟩ := decide_of_unknown hknown
    have hfresh := haccounts.climbs_fresh hmem hcandidate hknown hclimbs
    rw [hdecide]
    exact {
      declared := by
        intro e he
        rcases List.mem_append.mp he with he | he
        · exact haccounts.declared e he
        · exact (hfresh e he).1
      candidate := by
        intro e he
        rcases List.mem_append.mp he with he | he
        · exact haccounts.candidate e he
        · exact (hfresh e he).2.1
      distinct := List.nodup_append'.mpr ⟨haccounts.distinct,
        hclimbs.nodup (List.mem_singleton_self _), fun e he hin => (hfresh e hin).2.2 he⟩
      known := by
        intro name
        simp only [NameMap.get?_foldl_insert, List.mem_reverse, List.map_append, List.mem_append,
          not_or, ← haccounts.known]
        split
        next hin => simp only [hin, not_true_eq_false, and_false, reduceCtorEq]
        next hnotin => simp only [hnotin, not_false_eq_true, and_true]
      closed := by
        intro e he p hpasses
        rcases List.mem_append.mp he with he | he
        · exact List.mem_append_left _ (haccounts.closed e he p hpasses)
        · exact List.mem_append.mpr
            (haccounts.climbs_closed (fun x hx => (hfresh x hx).1) hclimbs hpassed he hpasses)
      complete := by
        intro e he
        rcases List.mem_append.mp he with he | he
        · exact List.mem_append_left _ (haccounts.complete e he)
        · obtain rfl := List.mem_singleton.mp he
          exact List.mem_append_right _ (List.mem_cons_self ..)
      below := by
        intro e he
        rcases List.mem_append.mp he with he | he
        · obtain ⟨x, hx, hreach⟩ := haccounts.below e he
          exact ⟨x, List.mem_append_left _ hx, hreach⟩
        · exact ⟨d, by simp, Hierarchy.passesAll_head hclimbs.chain he⟩
      queries := by rw [List.length_append, haccounts.queries] }

end Progress

/-- The classes among the declarations that have no association. -/
def Associations.candidates (associations : Associations) (ds : List Declaration) :
    List Declaration :=
  ds.filter fun d => d.kind.isClass && !associations.contains d.name

theorem Associations.mem_candidates_iff {ds : List Declaration} :
    d ∈ associations.candidates ds ↔ d ∈ ds ∧ Candidate associations d := by
  rw [candidates, List.mem_filter, isClass_and_not_contains_iff]

private theorem Associations.candidates_cons_of_candidate (hcandidate : Candidate associations d)
    (ds : List Declaration) :
    associations.candidates (d :: ds) = d :: associations.candidates ds :=
  List.filter_cons_of_pos (isClass_and_not_contains_iff.mpr hcandidate)

private theorem Associations.candidates_cons_of_not_candidate (hcandidate : ¬Candidate associations d)
    (ds : List Declaration) :
    associations.candidates (d :: ds) = associations.candidates ds :=
  List.filter_cons_of_neg (mt isClass_and_not_contains_iff.mp hcandidate)

namespace Derivation

/-- What holds of the classes decided and the progress before the first visit, and is kept whenever a
    class is decided and this is noted, holds after a run. -/
theorem foldl_visit_induction {holds : List Declaration → Progress → Prop}
    (hdecide : ∀ decided progress d, d ∈ h.declarations → Candidate associations d →
      holds decided progress → holds (decided ++ [d])
        ((progress.decide h associations d).2.note
          (verdict d.name (progress.decide h associations d).1)))
    (ds : List Declaration) (hds : ∀ d ∈ ds, d ∈ h.declarations)
    (hstart : holds decided derivation.progress) :
    holds (decided ++ associations.candidates ds)
      (ds.foldl (visit h associations) derivation).progress := by
  induction ds generalizing derivation decided with
  | nil => simpa [Associations.candidates] using hstart
  | cons d ds ih =>
    have hds' : ∀ e ∈ ds, e ∈ h.declarations := fun e he => hds e (List.mem_cons_of_mem _ he)
    rw [List.foldl_cons]
    by_cases hcandidate : Candidate associations d
    · have hstep := hdecide _ _ d (hds d (List.mem_cons_self ..)) hcandidate hstart
      rw [Associations.candidates_cons_of_candidate hcandidate, List.append_cons]
      refine ih hds' ?_
      rw [progress_visit hcandidate]
      exact hstep
    · rw [Associations.candidates_cons_of_not_candidate hcandidate]
      refine ih hds' ?_
      rw [visit_of_not_candidate hcandidate]
      exact hstart

end Derivation

theorem derive_induction {holds : List Declaration → Progress → Prop}
    (hstart : holds [] (.start h associations))
    (hdecide : ∀ decided progress d, d ∈ h.declarations → Candidate associations d →
      holds decided progress → holds (decided ++ [d])
        ((progress.decide h associations d).2.note
          (Derivation.verdict d.name (progress.decide h associations d).1)))
    (roots : List String) :
    holds (associations.candidates (h.reach roots)) (derive h associations roots).progress := by
  have hbefore : holds [] (Derivation.start h associations).progress := hstart
  exact Derivation.foldl_visit_induction hdecide (h.reach roots)
    (fun d hd => (Hierarchy.mem_reach_iff.mp hd).mem) hbefore

theorem derive_accounts (h : Hierarchy) (associations : Associations) (roots : List String) :
    (derive h associations roots).progress.Accounts h associations
      (associations.candidates (h.reach roots)) := by
  refine derive_induction Progress.accounts_start ?_ roots
  intro decided progress d hmem hcandidate haccounts
  exact (haccounts.decide hmem hcandidate).note _

/-- What is reported of a log without summaries are the cycles that it warns of. -/
theorem Event.filter_isReport {log : List Event} (hlog : ∀ event ∈ log, event.level ≠ .info) :
    log.filter isReport = (log.filterMap cycle?).map ancestorCycle := by
  induction log with
  | nil => rfl
  | cons event log ih =>
    obtain ⟨hevent, hrest⟩ := List.forall_mem_cons.mp hlog
    have hrest := ih hrest
    cases event with
    | ancestorCycle cycle => exact congrArg (.ancestorCycle cycle :: ·) hrest
    | resolved | rendered => exact absurd rfl hevent
    | repeatedAssociation | undeclaredAssociation | outsideSuperclass | noAncestor | derived =>
      exact hrest

private theorem Ending.level_of_mem_events {start : String} {ending : Ending} {event : Event}
    (hevent : event ∈ ending.events start) : event.level ≠ .info := by
  cases ending with
  | outside | cycle =>
    obtain rfl := List.mem_singleton.mp hevent
    simp [Event.level]
  | associated | decided | top | notClass => cases hevent

private theorem Derivation.level_verdict (typeName : String) (outcome : Option Inherited) :
    (verdict typeName outcome).level ≠ .info := by
  cases outcome <;> simp [verdict, Event.level]

private theorem Progress.level_of_mem_log_decide (hlog : ∀ event ∈ progress.log, event.level ≠ .info) :
    ∀ event ∈ (progress.decide h associations d).2.log, event.level ≠ .info := by
  unfold decide
  split
  · exact hlog
  · intro event hevent
    rcases List.mem_append.mp hevent with hevent | hevent
    · exact hlog event hevent
    · exact Ending.level_of_mem_events hevent

/-- A run gives no summary before its end. -/
theorem level_of_mem_log_derive (h : Hierarchy) (associations : Associations) (roots : List String) :
    ∀ event ∈ (derive h associations roots).progress.log, event.level ≠ .info := by
  refine @derive_induction h associations
    (fun _ progress => ∀ event ∈ progress.log, event.level ≠ .info) ?_ ?_ roots
  · intro event hevent
    obtain ⟨name, -, rfl⟩ := List.mem_map.mp hevent
    simp [Event.level]
  · intro decided progress d _ _ hlog event hevent
    rcases List.mem_append.mp hevent with hevent | hevent
    · exact Progress.level_of_mem_log_decide hlog event hevent
    · obtain rfl := List.mem_singleton.mp hevent
      exact Derivation.level_verdict _ _

/-- A run reports the cycles that it warned of, and at its end what it counted. -/
theorem reports_inherit (h : Hierarchy) (associations : Associations) (roots : List String) :
    (inherit true h associations roots).2 =
      (derive h associations roots).progress.cycles.map Event.ancestorCycle ++
        [.resolved (derive h associations roots).visited associations.size
          (derive h associations roots).derived.size
          (derive h associations roots).progress.queries] := by
  have hreports := Event.filter_isReport (level_of_mem_log_derive h associations roots)
  simp only [inherit, inheritNoting, if_true, Prod.map_snd, List.filter_append, hreports]
  rfl

namespace Hierarchy

/-- The set holds every class without an association that the roots lead to, and with each of its
    members the class without an association that is its superclass, if there is one. -/
structure ClosedUpwards (h : Hierarchy) (associations : Associations) (roots : List String)
    (members : Set Declaration) : Prop where
  reached : ∀ d, h.Reached roots d → Candidate associations d → d ∈ members
  above : ∀ d ∈ members, ∀ e, h.Passes associations d e → e ∈ members

theorem ClosedUpwards.of_passesAll {roots : List String} {members : Set Declaration}
    {e : Declaration} (hclosed : h.ClosedUpwards associations roots members) (hd : d ∈ members)
    (hpasses : ReflTransGen (h.Passes associations) d e) : e ∈ members := by
  induction hpasses with
  | refl => exact hd
  | tail _ hlast ih => exact hclosed.above _ ih _ hlast

end Hierarchy

/-- The declarations consulted are the least set that is closed upwards. -/
theorem isLeast_consulted (h : Hierarchy) (associations : Associations) (roots : List String) :
    IsLeast {members : Set Declaration | h.ClosedUpwards associations roots members}
      {d | d ∈ consulted h associations roots} := by
  have haccounts := derive_accounts h associations roots
  constructor
  · exact {
      reached := fun d hd hcandidate => haccounts.complete d
        (Associations.mem_candidates_iff.mpr ⟨Hierarchy.mem_reach_iff.mpr hd, hcandidate⟩)
      above := haccounts.closed }
  · intro members hclosed e he
    obtain ⟨d, hd, hpasses⟩ := haccounts.below e he
    obtain ⟨hreached, hcandidate⟩ := Associations.mem_candidates_iff.mp hd
    exact hclosed.of_passesAll
      (hclosed.reached d (Hierarchy.mem_reach_iff.mp hreached) hcandidate) hpasses

/-- A run ends and logs as its count of look-ups the size of the least set that holds every class
    without an association that it reaches and is closed under going to a superclass of that kind. It
    looks up the superclass of each member once and of no other declaration, so never more often than
    there are declarations. -/
theorem inherit_queries (h : Hierarchy) (associations : Associations) (roots : List String) :
    ∃ (cycles : List Cycle) (visited derived : Nat),
      (inherit true h associations roots).2 = cycles.map Event.ancestorCycle ++
        [.resolved visited associations.size derived (consulted h associations roots).length] ∧
      IsLeast {members : Set Declaration | h.ClosedUpwards associations roots members}
        {d | d ∈ consulted h associations roots} ∧
      (consulted h associations roots).Nodup ∧
      (consulted h associations roots).length ≤ h.size := by
  have haccounts := derive_accounts h associations roots
  have hlog := reports_inherit h associations roots
  rw [haccounts.queries] at hlog
  have hbound := List.Nodup.subperm haccounts.distinct haccounts.declared
  exact ⟨_, _, _, hlog, isLeast_consulted h associations roots, haccounts.distinct,
    hbound.length_le⟩

end RetainerTable
