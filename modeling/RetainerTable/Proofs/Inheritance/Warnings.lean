import Mathlib.Data.List.Forall2
import RetainerTable.Proofs.Generation.Success
import RetainerTable.Proofs.Inheritance.Cycles
import RetainerTable.Proofs.Inheritance.Extension
import RetainerTable.Proofs.Inheritance.Queries

/-!
The warnings of a run: one for each cycle of classes without an association that it runs into.

The cycles noticed are those that have been asked (`Progress.Notices`). A climb that turns back has run
into one more of them, since all it passed is new; a climb that ends otherwise has run into none, since
whatever leads into a cycle stays on it.
-/

namespace RetainerTable

open Relation (ReflTransGen)

variable {h : Hierarchy} {associations : Associations} {decided : List Declaration}
  {progress : Progress} {d : Declaration} {found : List (Set Declaration)}

/-- The report names one of the classes at which climbs start, and the first declaration of the cycle
    that is met on the way up from it. -/
def Cycle.Reports (h : Hierarchy) (associations : Associations) (starts : Declaration → Prop)
    (cycle : Cycle) (members : Set Declaration) : Prop :=
  ∃ d p, starts d ∧ cycle = ⟨d.name, p.name⟩ ∧ h.Enters associations members d p

theorem Cycle.Reports.mono {starts more : Declaration → Prop} (hmore : ∀ d, starts d → more d)
    {cycle : Cycle} {members : Set Declaration}
    (hreports : cycle.Reports h associations starts members) :
    cycle.Reports h associations more members := by
  obtain ⟨d, p, hd, hcycle, henters⟩ := hreports
  exact ⟨d, p, hmore d hd, hcycle, henters⟩

/-- The cycles found among the declarations asked, and a report of each in turn. -/
structure Progress.Notices (h : Hierarchy) (associations : Associations)
    (decided : List Declaration) (found : List (Set Declaration)) (progress : Progress) :
    Prop where
  distinct : found.Nodup
  mem_iff : ∀ members, members ∈ found ↔
    h.FreeCycle associations members ∧ ∃ d ∈ members, d ∈ progress.asked
  reports : List.Forall₂ (Cycle.Reports h associations (· ∈ decided)) progress.cycles found

namespace Progress

private theorem cycles_start (h : Hierarchy) (associations : Associations) :
    (start h associations).cycles = [] := by
  simp [cycles, start, Event.cycle?]

@[simp] theorem cycles_note_verdict (progress : Progress) (typeName : String)
    (outcome : Option Inherited) :
    (progress.note (Derivation.verdict typeName outcome)).cycles = progress.cycles := by
  cases outcome <;> simp [cycles, note, Derivation.verdict, Event.cycle?]

/-- A climb that turns back warns of where it turned. -/
theorem cycles_append_events (log : List Event) (start : String) (ending : Ending) :
    (log ++ ending.events start).filterMap Event.cycle? =
      log.filterMap Event.cycle? ++ (ending.turn?.map (Cycle.mk start)).toList := by
  cases ending <;> simp [Ending.events, Ending.turn?, Event.cycle?]

private theorem notices_start : (start h associations).Notices h associations [] [] where
  distinct := .nil
  mem_iff := by simp [start]
  reports := by
    rw [cycles_start]
    exact .nil

theorem Notices.note (hnotices : progress.Notices h associations decided found) (typeName : String)
    (outcome : Option Inherited) :
    (progress.note (Derivation.verdict typeName outcome)).Notices h associations decided found where
  distinct := hnotices.distinct
  mem_iff := hnotices.mem_iff
  reports := by
    rw [cycles_note_verdict]
    exact hnotices.reports

private theorem Notices.reports_snoc (hnotices : progress.Notices h associations decided found)
    (d : Declaration) :
    List.Forall₂ (Cycle.Reports h associations (· ∈ decided ++ [d])) progress.cycles found :=
  hnotices.reports.imp fun _ _ hreports =>
    hreports.mono fun _ hin => List.mem_append_left _ hin

/-- A climb that does not turn back runs into no cycle but those found before. -/
theorem Notices.of_no_turn {way : Way} {above : List Declaration} {climbed : Way × Ending}
    (hnotices : progress.Notices h associations decided found)
    (haccounts : progress.Accounts h associations decided)
    (hclimbs : way.Climbs h associations progress.known d above climbed)
    (hturn : climbed.2.turn? = none) (members : Set Declaration) :
    members ∈ found ↔
      h.FreeCycle associations members ∧ ∃ e ∈ members, e ∈ progress.asked ++ d :: above := by
  rw [hnotices.mem_iff]
  refine and_congr_right fun hcycle => ?_
  constructor
  · rintro ⟨e, he, hin⟩
    exact ⟨e, he, List.mem_append_left _ hin⟩
  · rintro ⟨e, he, hin⟩
    rcases List.mem_append.mp hin with hin | hin
    · exact ⟨e, he, hin⟩
    · have hlast := hcycle.mem_of_passesAll he (hclimbs.reaches hin)
      obtain ⟨p, hpasses, hp⟩ := hcycle.exists_passes hlast
      have hdeclared := hpasses.superclass.declared
      rcases hclimbs.ending.known_or_turn hpasses with ⟨-, hknown⟩ | ⟨hturned, -⟩
      · exact ⟨p, hp, (haccounts.mem_iff hdeclared).mpr hknown⟩
      · rw [hturn] at hturned
        cases hturned

/-- A climb that turns back has run into one cycle that was not found before, at the class where it
    turned. -/
theorem Notices.of_turn {way : Way} {above : List Declaration} {climbed : Way × Ending} {name : String}
    (hnotices : progress.Notices h associations decided found)
    (hfresh : ∀ e ∈ d :: above,
      e ∈ h.declarations ∧ Candidate associations e ∧ e ∉ progress.asked)
    (hway : d.name ∈ way.passed)
    (hclimbs : way.Climbs h associations progress.known d above climbed)
    (hpassed : climbed.1.passed = ((d :: above).map Declaration.name).reverse)
    (hturn : climbed.2.turn? = some name) :
    ∃ members, members ∉ found ∧
      (∃ p, p.name = name ∧ h.Enters associations members d p) ∧
      ∀ others, others ∈ found ++ [members] ↔
        h.FreeCycle associations others ∧ ∃ e ∈ others, e ∈ progress.asked ++ d :: above := by
  obtain ⟨p, hback, rfl, hname⟩ := hclimbs.ending.exists_of_turn hturn
  have hp : p ∈ d :: above := by
    rw [hpassed] at hname
    obtain ⟨e, he, hname⟩ := List.mem_map.mp (List.mem_reverse.mp hname)
    exact Hierarchy.eq_of_name_eq (hfresh e he).1 hback.superclass.declared hname ▸ he
  obtain ⟨members, hcycle, henters, hsubset⟩ :=
    Hierarchy.exists_freeCycle_of_isChain hclimbs.chain (hclimbs.nodup hway) hback hp
  refine ⟨members, fun hin => ?_, ⟨p, rfl, henters⟩, fun others => ?_⟩
  · obtain ⟨-, e, he, hasked⟩ := (hnotices.mem_iff members).mp hin
    exact (hfresh e (hsubset e he)).2.2 hasked
  rw [List.mem_append, List.mem_singleton, hnotices.mem_iff]
  constructor
  · rintro (⟨hother, e, he, hin⟩ | rfl)
    · exact ⟨hother, e, he, List.mem_append_left _ hin⟩
    · exact ⟨hcycle, p, henters.mem, List.mem_append_right _ hp⟩
  · rintro ⟨hother, e, he, hin⟩
    rcases List.mem_append.mp hin with hin | hin
    · exact .inl ⟨hother, e, he, hin⟩
    · have hturned := hother.mem_of_passesAll he ((hclimbs.reaches hin).tail hback)
      exact .inr (hother.eq_of_mem hcycle.toSuperclassCycle hturned henters.mem)

/-- Deciding a class notices the cycle that its climb runs into, if it is a new one. -/
theorem Notices.decide (hnotices : progress.Notices h associations decided found)
    (haccounts : progress.Accounts h associations decided)
    (hmem : d ∈ h.declarations) (hcandidate : Candidate associations d) :
    ∃ found', (progress.decide h associations d).2.Notices h associations (decided ++ [d])
      found' := by
  cases hknown : progress.known.get? d.name with
  | some outcome =>
    simp only [Progress.decide, hknown]
    exact ⟨found, hnotices.distinct, hnotices.mem_iff, hnotices.reports_snoc d⟩
  | none =>
    obtain ⟨above, climbed, hclimbs, hpassed, hdecide⟩ := decide_of_unknown hknown
    have hfresh := haccounts.climbs_fresh hmem hcandidate hknown hclimbs
    rw [hdecide]
    cases hturn : climbed.2.turn? with
    | none =>
      refine ⟨found, hnotices.distinct, hnotices.of_no_turn haccounts hclimbs hturn, ?_⟩
      rw [cycles, cycles_append_events, hturn, Option.map_none, Option.toList_none, List.append_nil]
      exact hnotices.reports_snoc d
    | some name =>
      obtain ⟨members, hnew, ⟨p, rfl, henters⟩, hiff⟩ :=
        hnotices.of_turn hfresh (List.mem_singleton_self _) hclimbs hpassed hturn
      have hreport : Cycle.Reports h associations (· ∈ decided ++ [d]) ⟨d.name, p.name⟩ members :=
        ⟨d, p, by simp, rfl, henters⟩
      refine ⟨found ++ [members], ?_, hiff, ?_⟩
      · exact List.nodup_append'.mpr ⟨hnotices.distinct, List.nodup_singleton _,
          List.disjoint_singleton.mpr hnew⟩
      · rw [cycles, cycles_append_events, hturn, Option.map_some, Option.toList_some]
        exact List.rel_append (hnotices.reports_snoc d) (.cons hreport .nil)

end Progress

theorem derive_notices (h : Hierarchy) (associations : Associations) (roots : List String) :
    ∃ found, (derive h associations roots).progress.Notices h associations
      (associations.candidates (h.reach roots)) found := by
  -- That a climb is new rests on what was asked before, so both invariants are carried together.
  have hrun := @derive_induction h associations
    (fun decided progress => progress.Accounts h associations decided ∧
      ∃ found, progress.Notices h associations decided found)
    ⟨Progress.accounts_start, [], Progress.notices_start⟩ ?_ roots
  · exact hrun.2
  · rintro decided progress d hmem hcandidate ⟨haccounts, found, hnotices⟩
    obtain ⟨found', hnotices'⟩ := hnotices.decide haccounts hmem hcandidate
    exact ⟨(haccounts.decide hmem hcandidate).note _, found', hnotices'.note _ _⟩

section Run

variable {roots : List String} {members : Set Declaration} {a : Declaration}

/-- A cycle is among the declarations consulted exactly if the way up from a class that is visited
    leads to it. -/
theorem exists_mem_consulted_iff : (∃ e ∈ members, e ∈ consulted h associations roots) ↔
    ∃ d, h.Reached roots d ∧ Candidate associations d ∧
      ∃ e ∈ members, ReflTransGen (h.Passes associations) d e := by
  obtain ⟨hclosed, -⟩ := isLeast_consulted h associations roots
  constructor
  · rintro ⟨e, he, hin⟩
    obtain ⟨d, hd, hpasses⟩ := (derive_accounts h associations roots).below e hin
    obtain ⟨hreached, hcandidate⟩ := Associations.mem_candidates_iff.mp hd
    exact ⟨d, Hierarchy.mem_reach_iff.mp hreached, hcandidate, e, he, hpasses⟩
  · rintro ⟨d, hreached, hcandidate, e, he, hpasses⟩
    exact ⟨e, he, hclosed.of_passesAll (hclosed.reached d hreached hcandidate) hpasses⟩

/-- Nothing is derived on a cycle of classes without an association or below it. -/
theorem inherit_get?_of_freeCycle {e : Declaration} (hcycle : h.FreeCycle associations members)
    (he : e ∈ members) (hd : d ∈ h.declarations)
    (hpasses : ReflTransGen (h.Passes associations) d e) :
    (inherit true h associations roots).1.get? d.name = none := by
  refine Option.eq_none_iff_forall_not_mem.mpr fun inherited hget => ?_
  obtain ⟨-, d', hreached, hname, -, a, ha, -⟩ := inherit_get?_iff.mp hget
  obtain rfl := Hierarchy.eq_of_name_eq hreached.mem hd hname
  exact hcycle.not_inheritsFrom he hpasses ha

private theorem inherit_get?_of_inheritsFrom (hreached : h.Reached roots d)
    (hcandidate : Candidate associations d) (ha : h.InheritsFrom associations d a) :
    ∃ retainer, associations.get? a.name = some retainer ∧
      (inherit true h associations roots).1.get? d.name = some ⟨retainer, a.name⟩ := by
  obtain ⟨retainer, hretainer⟩ := Option.isSome_iff_exists.mp ha.contains
  exact ⟨retainer, hretainer,
    inherit_get?_iff.mpr ⟨rfl, d, hreached, rfl, hcandidate, a, ha, hretainer, rfl⟩⟩

/-- No report of a cycle of classes without an association is about a cycle with an associated
    member. -/
theorem Cycle.Reports.cycleAt_ne {starts : Declaration → Prop} {cycle : Cycle}
    {others : Set Declaration} (hreports : cycle.Reports h associations starts others)
    (hother : h.FreeCycle associations others) (hcycle : h.SuperclassCycle members)
    (ha : a ∈ members) (hassociated : associations.contains a.name = true) (hd : d ∈ members) :
    cycle.cycleAt ≠ d.name := by
  obtain ⟨start, p, -, rfl, henters⟩ := hreports
  intro hname
  have hp := hother.mem_declarations henters.mem
  obtain rfl := Hierarchy.eq_of_name_eq hp (hcycle.mem_declarations hd) hname
  obtain rfl := hcycle.eq_of_mem hother.toSuperclassCycle hd henters.mem
  rw [NameMap.contains_eq_false_iff.mpr (hother.candidate a ha).unassociated] at hassociated
  cases hassociated

/-- A run warns once of each cycle of classes without an association to which the way up from a class
    that it visits leads, and of nothing else. A warning names such a class, and where the way up from it
    enters the cycle. Nothing is derived on these cycles or below them. Of a cycle with an associated
    member there is no warning; a class without an association on it that inherits at all does so from
    the first associated member above it. -/
theorem inherit_warnings (h : Hierarchy) (associations : Associations) (roots : List String) :
    ∃ (cycles : List Cycle) (found : List (Set Declaration)) (visited derived queries : Nat),
      (inherit true h associations roots).2 = cycles.map Event.ancestorCycle ++
        [.resolved visited associations.size derived queries] ∧
      found.Nodup ∧
      (∀ members, members ∈ found ↔ h.FreeCycle associations members ∧
        ∃ d, h.Reached roots d ∧ Candidate associations d ∧
          ∃ e ∈ members, ReflTransGen (h.Passes associations) d e) ∧
      List.Forall₂ (Cycle.Reports h associations fun d =>
        h.Reached roots d ∧ Candidate associations d) cycles found ∧
      (∀ members, h.FreeCycle associations members → ∀ e ∈ members, ∀ d ∈ h.declarations,
        ReflTransGen (h.Passes associations) d e →
        (inherit true h associations roots).1.get? d.name = none) ∧
      ∀ members, h.SuperclassCycle members →
        ∀ a ∈ members, associations.contains a.name = true →
        (∀ cycle ∈ cycles, ∀ d ∈ members, cycle.cycleAt ≠ d.name) ∧
        ∀ d ∈ members, h.Reached roots d → Candidate associations d →
          ∀ b, h.InheritsFrom associations d b → b ∈ members ∧
            ∃ retainer, associations.get? b.name = some retainer ∧
              (inherit true h associations roots).1.get? d.name = some ⟨retainer, b.name⟩ := by
  obtain ⟨found, hnotices⟩ := derive_notices h associations roots
  have hreports : List.Forall₂ (Cycle.Reports h associations fun d =>
      h.Reached roots d ∧ Candidate associations d)
      (derive h associations roots).progress.cycles found := by
    refine hnotices.reports.imp fun cycle members hreports => hreports.mono fun d hd => ?_
    obtain ⟨hreached, hcandidate⟩ := Associations.mem_candidates_iff.mp hd
    exact ⟨Hierarchy.mem_reach_iff.mp hreached, hcandidate⟩
  refine ⟨_, found, _, _, _, reports_inherit h associations roots, hnotices.distinct, fun members => ?_, hreports, ?_, ?_⟩
  · exact (hnotices.mem_iff members).trans (and_congr_right fun _ => exists_mem_consulted_iff)
  · intro members hcycle e he d hd hpasses
    exact inherit_get?_of_freeCycle hcycle he hd hpasses
  · intro members hcycle a ha hassociated
    refine ⟨fun cycle hin d hd => ?_, fun d hd hreached hcandidate b hb => ?_⟩
    · obtain ⟨i, hi, rfl⟩ := List.getElem_of_mem hin
      have hi' : i < found.length := hreports.length_eq ▸ hi
      have hreport := hreports.get hi hi'
      obtain ⟨hother, -⟩ := (hnotices.mem_iff _).mp (List.getElem_mem hi')
      exact hreport.cycleAt_ne hother hcycle ha hassociated hd
    · exact ⟨hcycle.mem_of_inheritsFrom hd hb,
        inherit_get?_of_inheritsFrom hreached hcandidate hb⟩

end Run

/-- A class below a cycle of two classes without an association, and a cycle of which `Y`, nested in
    `X`, may be associated. -/
def cyclicHierarchy : Hierarchy where
  declarations :=
    [⟨"Tail", .ordinary, some ⟨"A", []⟩, none⟩, ⟨"A", .ordinary, some ⟨"B", []⟩, none⟩,
      ⟨"B", .ordinary, some ⟨"A", []⟩, none⟩, ⟨"X", .ordinary, some ⟨"Y", []⟩, none⟩,
      ⟨"Y", .ordinary, some ⟨"X", []⟩, some "X"⟩]
  distinct := by decide
  enclosed := by decide

/-- `Y` alone is associated. -/
def cyclicAssociations : Associations :=
  ⟨[("Y", ⟨false, [⟨false, "y"⟩]⟩)], List.pairwise_singleton ..⟩

private theorem freeCycle_sample : cyclicHierarchy.FreeCycle cyclicAssociations
    {d | d ∈ [⟨"A", .ordinary, some ⟨"B", []⟩, none⟩, ⟨"B", .ordinary, some ⟨"A", []⟩, none⟩]} :=
  Hierarchy.freeCycle_of_isChain (List.isChain_pair.mpr ⟨.of_find? rfl rfl, rfl, rfl⟩)
    ⟨.of_find? rfl rfl, rfl, rfl⟩

private theorem superclassCycle_sample : cyclicHierarchy.SuperclassCycle
    {⟨"X", .ordinary, some ⟨"Y", []⟩, none⟩, ⟨"Y", .ordinary, some ⟨"X", []⟩, some "X"⟩} where
  nonempty := ⟨_, .inl rfl⟩
  closed := by
    rintro d (rfl | rfl)
    · exact ⟨_, .inr rfl, .of_find? rfl rfl⟩
    · exact ⟨_, .inl rfl, .of_find? rfl rfl⟩
  connected := by
    rintro d (rfl | rfl) e (rfl | rfl)
    · exact .refl
    · exact .single (.of_find? rfl rfl)
    · exact .single (.of_find? rfl rfl)
    · exact .refl

theorem inherit_warnings_sample :
    (∃ cycle, Event.ancestorCycle cycle ∈
      (inherit true cyclicHierarchy cyclicAssociations ["Tail", "X"]).2) ∧
    (∀ cycle, Event.ancestorCycle cycle ∈
      (inherit true cyclicHierarchy cyclicAssociations ["Tail", "X"]).2 → cycle.cycleAt ≠ "X") ∧
    (inherit true cyclicHierarchy cyclicAssociations ["Tail", "X"]).1.get? "Tail" = none ∧
    (inherit true cyclicHierarchy cyclicAssociations ["Tail", "X"]).1.get? "X" =
      some ⟨⟨false, [⟨false, "y"⟩]⟩, "Y"⟩ := by
  obtain ⟨cycles, found, visited, derived, queries, hlog, -, hfound, hreports, hfree, hmixed⟩ :=
    inherit_warnings cyclicHierarchy cyclicAssociations ["Tail", "X"]
  have htail : cyclicHierarchy.Reached ["Tail", "X"] ⟨"Tail", .ordinary, some ⟨"A", []⟩, none⟩ :=
    .root (by decide) (by decide)
  have hx : cyclicHierarchy.Reached ["Tail", "X"] ⟨"X", .ordinary, some ⟨"Y", []⟩, none⟩ :=
    .root (by decide) (by decide)
  have hup : ReflTransGen (cyclicHierarchy.Passes cyclicAssociations)
      ⟨"Tail", .ordinary, some ⟨"A", []⟩, none⟩ ⟨"A", .ordinary, some ⟨"B", []⟩, none⟩ :=
    .single ⟨.of_find? rfl rfl, rfl, rfl⟩
  have hin := (hfound _).mpr
    ⟨freeCycle_sample, _, htail, ⟨rfl, rfl⟩, _, List.mem_cons_self .., hup⟩
  obtain ⟨hsilent, hinherits⟩ := hmixed _ superclassCycle_sample
    ⟨"Y", .ordinary, some ⟨"X", []⟩, some "X"⟩ (.inr rfl) rfl
  obtain ⟨-, retainer, hretainer, hderived⟩ :=
    hinherits _ (.inl rfl) hx ⟨rfl, rfl⟩ _ (.superclass (.of_find? rfl rfl) rfl)
  refine ⟨?_, fun cycle hcycle => ?_, ?_, ?_⟩
  · have hnonempty : cycles ≠ [] := by
      rintro rfl
      cases hreports
      cases hin
    obtain ⟨cycle, hcycle⟩ := List.exists_mem_of_ne_nil cycles hnonempty
    exact ⟨cycle, by simp [hlog, hcycle]⟩
  · have hcycle : cycle ∈ cycles := by simpa [hlog] using hcycle
    exact hsilent cycle hcycle _ (.inl rfl)
  · exact hfree _ freeCycle_sample _ (List.mem_cons_self ..) _ htail.mem hup
  · obtain rfl := Option.some.inj hretainer
    exact hderived

end RetainerTable
