import RetainerTable.Associations
import RetainerTable.Proofs.NameMap

/-!
Which pairs are collected, and what they make.

`Associations.Made` says what a collection holds after some pairs; `add_made` is the step and
`addAll_made` the run that keeps it. Pairs are collected exactly if they are `Collectible`, a
condition on the set of pairs alone (`exists_collect_iff`), and the result is fixed by the set too
(`collect_made`).
-/

namespace RetainerTable.Associations

open RetainerTable.Text

variable {associations result : Associations} {pairs done : List (String × String)}
  {pair : String × String}

/-- All pairs name a type and spell a path, and pairs of one type spell one path. -/
structure Collectible (pairs : List (String × String)) : Prop where
  named : ∀ pair ∈ pairs, trim pair.1 ≠ ""
  spelled : ∀ pair ∈ pairs, ∃ retainer, retainer? pair.2 = some retainer
  consistent : ∀ first ∈ pairs, ∀ second ∈ pairs, trim first.1 = trim second.1 →
    retainer? first.2 = retainer? second.2

/-- The associations are those that the pairs make. -/
structure Made (pairs : List (String × String)) (associations : Associations) : Prop where
  collectible : Collectible pairs
  get? : ∀ name retainer, associations.get? name = some retainer ↔
    ∃ pair ∈ pairs, trim pair.1 = name ∧ retainer? pair.2 = some retainer

theorem made_nil : Made [] .empty where
  collectible := ⟨by simp, by simp, by simp⟩
  get? := by simp

theorem Collectible.of_subset {fewer : List (String × String)} (hpairs : Collectible pairs)
    (hsub : fewer ⊆ pairs) : Collectible fewer where
  named pair hpair := hpairs.named pair (hsub hpair)
  spelled pair hpair := hpairs.spelled pair (hsub hpair)
  consistent first hfirst second hsecond := hpairs.consistent first (hsub hfirst) second (hsub hsecond)

/-- One pair is added exactly if its type is named, its path is spelled and no earlier pair gave the
    type another retainer. -/
theorem add_eq_ok_iff {typeName path : String} : associations.add typeName path = .ok result ↔
    trim typeName ≠ "" ∧ ∃ incoming, retainer? path = some incoming ∧
      ((associations.get? (trim typeName) = none ∧
          result = associations.insert (trim typeName) incoming) ∨
        (associations.get? (trim typeName) = some incoming ∧ result = associations)) := by
  unfold add readRetainer
  by_cases hblank : trim typeName = ""
  · simp [hblank]
  · cases hspelled : retainer? path with
    | none => simp [hblank]
    | some incoming =>
      cases hget : associations.get? (trim typeName) with
      | none => simp [hblank, hget, eq_comm]
      | some existing =>
        by_cases hsame : existing = incoming
        · simp [hblank, hget, hsame, eq_comm]
        · simp [hblank, hget, hsame]

/-- What one more pair makes. -/
theorem add_made {typeName path : String} (hmade : Made done associations)
    (hadd : associations.add typeName path = .ok result) :
    Made (done ++ [(typeName, path)]) result := by
  obtain ⟨hnamed, incoming, hspelled, hcase⟩ := add_eq_ok_iff.mp hadd
  -- Earlier pairs of this type give it the incoming retainer, whichever case applies.
  have hagree : ∀ pair ∈ done, trim pair.1 = trim typeName → retainer? pair.2 = some incoming := by
    intro pair hpair hname
    obtain ⟨retainer, hretainer⟩ := hmade.collectible.spelled pair hpair
    have hget := (hmade.get? (trim typeName) retainer).mpr ⟨pair, hpair, hname, hretainer⟩
    rcases hcase with ⟨hnone, -⟩ | ⟨hsome, -⟩
    · rw [hnone] at hget
      cases hget
    · rw [hretainer, ← hget, hsome]
  refine ⟨⟨?_, ?_, ?_⟩, fun name retainer => ?_⟩
  · intro pair hpair
    rcases List.mem_append.mp hpair with hpair | hpair
    · exact hmade.collectible.named pair hpair
    · exact List.mem_singleton.mp hpair ▸ hnamed
  · intro pair hpair
    rcases List.mem_append.mp hpair with hpair | hpair
    · exact hmade.collectible.spelled pair hpair
    · exact List.mem_singleton.mp hpair ▸ ⟨incoming, hspelled⟩
  · intro first hfirst second hsecond hname
    rcases List.mem_append.mp hfirst with hfirst | hfirst <;>
      rcases List.mem_append.mp hsecond with hsecond | hsecond
    · exact hmade.collectible.consistent first hfirst second hsecond hname
    · obtain rfl := List.mem_singleton.mp hsecond
      exact (hagree first hfirst hname).trans hspelled.symm
    · obtain rfl := List.mem_singleton.mp hfirst
      exact hspelled.trans (hagree second hsecond hname.symm).symm
    · rw [List.mem_singleton.mp hfirst, List.mem_singleton.mp hsecond]
  · have hsplit : (∃ pair ∈ done ++ [(typeName, path)],
        trim pair.1 = name ∧ retainer? pair.2 = some retainer) ↔
        associations.get? name = some retainer ∨ trim typeName = name ∧ incoming = retainer := by
      rw [hmade.get?]
      simp [or_and_right, exists_or, hspelled]
    rw [hsplit]
    rcases hcase with ⟨hnone, rfl⟩ | ⟨hsome, rfl⟩
    · rw [NameMap.get?_insert]
      by_cases heq : name = trim typeName
      · simp [heq, hnone]
      · simp [heq, Ne.symm heq]
    · constructor
      · exact .inl
      · rintro (hget | ⟨rfl, rfl⟩)
        · exact hget
        · exact hsome

theorem addAll_made {log noted : List Event} (hmade : Made done associations)
    (hadd : addAll associations log pairs = .ok (result, noted)) : Made (done ++ pairs) result := by
  induction pairs generalizing done associations log with
  | nil =>
    cases hadd
    simpa using hmade
  | cons pair pairs ih =>
    unfold addAll at hadd
    split at hadd
    next added hadded => simpa using ih (add_made hmade hadded) hadd
    next => cases hadd

/-- Pairs that may be collected with those before them are added. -/
theorem exists_addAll (log : List Event) (hmade : Made done associations)
    (hpairs : Collectible (done ++ pairs)) :
    ∃ result noted, addAll associations log pairs = .ok (result, noted) := by
  induction pairs generalizing done associations log with
  | nil => exact ⟨associations, log, rfl⟩
  | cons pair pairs ih =>
    have hin : pair ∈ done ++ pair :: pairs := by simp
    obtain ⟨incoming, hspelled⟩ := hpairs.spelled pair hin
    have hadd : ∃ result, associations.add pair.1 pair.2 = .ok result := by
      cases hget : associations.get? (trim pair.1) with
      | none =>
        exact ⟨_, add_eq_ok_iff.mpr
          ⟨hpairs.named pair hin, incoming, hspelled, .inl ⟨hget, rfl⟩⟩⟩
      | some existing =>
        obtain ⟨earlier, hearlier, hname, hretainer⟩ := (hmade.get? _ _).mp hget
        have hagree := hpairs.consistent earlier (List.mem_append_left _ hearlier) pair hin hname
        rw [hretainer, hspelled] at hagree
        obtain rfl := Option.some.inj hagree
        exact ⟨_, add_eq_ok_iff.mpr
          ⟨hpairs.named pair hin, existing, hspelled, .inr ⟨hget, rfl⟩⟩⟩
    obtain ⟨added, hadded⟩ := hadd
    obtain ⟨result, noted, hresult⟩ := ih _ (add_made hmade hadded) (by simpa using hpairs)
    exact ⟨result, noted, by rw [addAll, hadded]; exact hresult⟩

/-- Whether and what is collected does not depend on what is noted. -/
theorem collect_eq_ok_iff_noting :
    collect pairs = .ok associations ↔ ∃ noted, collectNoting pairs = .ok (associations, noted) := by
  unfold collect
  cases hcollect : collectNoting pairs with
  | error error => simp [Except.map]
  | ok made => simp [Except.map, Prod.ext_iff]

theorem collect_eq_error_iff_noting {error : Error} :
    collect pairs = .error error ↔ collectNoting pairs = .error error := by
  unfold collect
  cases hcollect : collectNoting pairs <;> simp [Except.map]

/-- What is collected is what the pairs make. -/
theorem collect_made (hcollect : collect pairs = .ok associations) : Made pairs associations := by
  obtain ⟨noted, hnoting⟩ := collect_eq_ok_iff_noting.mp hcollect
  exact addAll_made made_nil hnoting

/-- Pairs are collected exactly if the set of them may be. -/
theorem exists_collect_iff :
    (∃ associations, collect pairs = .ok associations) ↔ Collectible pairs := by
  constructor
  · rintro ⟨associations, hcollect⟩
    exact (collect_made hcollect).collectible
  · intro hpairs
    obtain ⟨associations, noted, hnoting⟩ := exists_addAll [] made_nil hpairs
    exact ⟨associations, collect_eq_ok_iff_noting.mpr ⟨noted, hnoting⟩⟩

/-- Collections of the same set of pairs are equal. -/
theorem Made.eq_of_mem_iff {others : List (String × String)} {associations' : Associations}
    (hmade : Made pairs associations) (hothers : Made others associations')
    (hmem : ∀ pair, pair ∈ pairs ↔ pair ∈ others) : associations = associations' := by
  refine NameMap.ext_get? fun name => Option.ext fun retainer => ?_
  rw [hmade.get?, hothers.get?]
  simp only [hmem]

end RetainerTable.Associations
