import RetainerTable.Inheritance
import RetainerTable.Proofs.Hierarchy

/-!
What a traversal reaches.

`Hierarchy.Reached` says it by steps from the roots, each of which enters a class; `mem_reach_iff`
shows that the traversal lists exactly these declarations. From the top-level declarations they are
those nested in classes only (`reached_roots_iff`), so what lies on an enclosing cycle is not listed.
-/

namespace RetainerTable

namespace Hierarchy

variable {h : Hierarchy} {d e outer : Declaration} {roots seen pending : List String}

private theorem mem_entered_iff : e ∈ h.entered d ↔
    d.kind.isClass = true ∧ e ∈ h.declarations ∧ e.enclosing = some d.name := by
  unfold entered
  split
  next hclass => simp [hclass, mem_enclosedIn_iff]
  next hclass => simp [hclass]

theorem reachFrom_of_find?_none {name : String} (hnew : name ∉ seen)
    (hfound : h.find? name = none) :
    h.reachFrom seen (name :: pending) = h.reachFrom seen pending := by
  rw [reachFrom, dif_neg hnew]
  split
  · rfl
  next d hsome =>
    rw [hfound] at hsome
    cases hsome

theorem reachFrom_of_find? {name : String} (hnew : name ∉ seen) (hfound : h.find? name = some d) :
    h.reachFrom seen (name :: pending) =
      d :: h.reachFrom (name :: seen) ((h.entered d).map Declaration.name ++ pending) := by
  rw [reachFrom, dif_neg hnew]
  split
  next hnone =>
    rw [hfound] at hnone
    cases hnone
  next d' hsome =>
    rw [hfound] at hsome
    cases hsome
    rfl

/-- A declaration that the names lead to, by nesting steps that each start at a class. -/
inductive Reached (h : Hierarchy) (roots : List String) : Declaration → Prop
  | root {d : Declaration} (hmem : d ∈ h.declarations) (hroot : d.name ∈ roots) :
      h.Reached roots d
  | nested {outer d : Declaration} (houter : h.Reached roots outer)
      (hclass : outer.kind.isClass = true) (hmem : d ∈ h.declarations)
      (henclosing : d.enclosing = some outer.name) : h.Reached roots d

theorem Reached.mem (hd : h.Reached roots d) : d ∈ h.declarations := by
  cases hd with
  | root hmem _ => exact hmem
  | nested _ _ hmem _ => exact hmem

private theorem Reached.of_mem_entered (houter : h.Reached roots outer) (hentered : d ∈ h.entered outer) :
    h.Reached roots d := by
  obtain ⟨hclass, hmem, henclosing⟩ := mem_entered_iff.mp hentered
  exact .nested houter hclass hmem henclosing

/-- Roots that are reached from other roots reach no more than those. -/
theorem Reached.of_roots {roots' : List String}
    (hroots : ∀ e ∈ h.declarations, e.name ∈ roots → h.Reached roots' e)
    (hd : h.Reached roots d) : h.Reached roots' d := by
  induction hd with
  | root hmem hroot => exact hroots _ hmem hroot
  | nested _ hclass hmem henclosing ih => exact .nested ih hclass hmem henclosing

/-- The traversal lists only what the pending names lead to. -/
theorem reached_of_mem_reachFrom (hd : d ∈ h.reachFrom seen pending) : h.Reached pending d := by
  fun_induction reachFrom h seen pending with
  | case1 => cases hd
  | case2 seen name pending hseen ih =>
    exact (ih hd).of_roots fun e hmem hroot => .root hmem (List.mem_cons_of_mem _ hroot)
  | case3 seen name pending hseen hfound ih =>
    exact (ih hd).of_roots fun e hmem hroot => .root hmem (List.mem_cons_of_mem _ hroot)
  | case4 seen name pending hseen first hfound ih =>
    obtain ⟨hmem, rfl⟩ := mem_of_find? hfound
    have hfirst : h.Reached (first.name :: pending) first := .root hmem (List.mem_cons_self ..)
    rcases List.mem_cons.mp hd with rfl | hd
    · exact hfirst
    · refine (ih hd).of_roots fun e hmem hroot => ?_
      rcases List.mem_append.mp hroot with hroot | hroot
      · obtain ⟨e', hentered, hname⟩ := List.mem_map.mp hroot
        obtain rfl := eq_of_name_eq (mem_entered_iff.mp hentered).2.1 hmem hname
        exact hfirst.of_mem_entered hentered
      · exact .root hmem (List.mem_cons_of_mem _ hroot)

/-- The traversal leaves out no pending name and nothing nested in a class that it lists, except
    what was seen before. -/
theorem reachFrom_closed (h : Hierarchy) (seen pending : List String) :
    (∀ e ∈ h.declarations, e.name ∈ pending → e.name ∈ seen ∨ e ∈ h.reachFrom seen pending) ∧
      ∀ d ∈ h.reachFrom seen pending, ∀ e ∈ h.entered d,
        e.name ∈ seen ∨ e ∈ h.reachFrom seen pending := by
  fun_induction reachFrom h seen pending with
  | case1 seen => simp
  | case2 seen name pending hseen ih =>
    refine ⟨fun e hmem hname => ?_, ih.2⟩
    rcases List.mem_cons.mp hname with rfl | hname
    · exact .inl hseen
    · exact ih.1 e hmem hname
  | case3 seen name pending hseen hfound ih =>
    refine ⟨fun e hmem hname => ?_, ih.2⟩
    rcases List.mem_cons.mp hname with rfl | hname
    · rw [find?_of_mem hmem] at hfound
      cases hfound
    · exact ih.1 e hmem hname
  | case4 seen name pending hseen first hfound ih =>
    obtain ⟨hfirst, rfl⟩ := mem_of_find? hfound
    -- What the rest of the traversal misses for having seen `first` is `first` itself.
    have hlist : ∀ e ∈ h.declarations,
        (e.name ∈ first.name :: seen ∨ e ∈ h.reachFrom (first.name :: seen)
          ((h.entered first).map Declaration.name ++ pending)) →
        e.name ∈ seen ∨ e ∈ first :: h.reachFrom (first.name :: seen)
          ((h.entered first).map Declaration.name ++ pending) := by
      intro e hmem he
      rcases he with he | he
      · rcases List.mem_cons.mp he with hname | he
        · obtain rfl := eq_of_name_eq hmem hfirst hname
          exact .inr (List.mem_cons_self ..)
        · exact .inl he
      · exact .inr (List.mem_cons_of_mem _ he)
    refine ⟨fun e hmem hname => hlist e hmem ?_, fun d hd e hentered =>
      hlist e (mem_entered_iff.mp hentered).2.1 ?_⟩
    · rcases List.mem_cons.mp hname with hname | hname
      · exact .inl (hname ▸ List.mem_cons_self ..)
      · exact ih.1 e hmem (List.mem_append_right _ hname)
    · rcases List.mem_cons.mp hd with rfl | hd
      · exact ih.1 e (mem_entered_iff.mp hentered).2.1
          (List.mem_append_left _ (List.mem_map_of_mem hentered))
      · exact ih.2 d hd e hentered

/-- The traversal lists exactly the declarations that the roots lead to. -/
theorem mem_reach_iff : d ∈ h.reach roots ↔ h.Reached roots d := by
  constructor
  · exact reached_of_mem_reachFrom
  · obtain ⟨hroots, hnested⟩ := reachFrom_closed h [] roots
    intro hd
    induction hd with
    | root hmem hroot => exact (hroots _ hmem hroot).resolve_left List.not_mem_nil
    | nested _ hclass hmem henclosing ih =>
      have hentered := mem_entered_iff.mpr ⟨hclass, hmem, henclosing⟩
      exact (hnested _ ih _ hentered).resolve_left List.not_mem_nil

/-- The traversal lists nothing that was seen, and nothing twice. -/
theorem nodup_reachFrom (h : Hierarchy) (seen pending : List String) :
    (∀ d ∈ h.reachFrom seen pending, d.name ∉ seen) ∧ (h.reachFrom seen pending).Nodup := by
  fun_induction reachFrom h seen pending with
  | case1 => simp
  | case2 seen name pending hseen ih => exact ih
  | case3 seen name pending hseen hfound ih => exact ih
  | case4 seen name pending hseen first hfound ih =>
    obtain ⟨-, rfl⟩ := mem_of_find? hfound
    obtain ⟨hfresh, hdistinct⟩ := ih
    refine ⟨fun d hd => ?_, List.nodup_cons.mpr ⟨fun hin => ?_, hdistinct⟩⟩
    · rcases List.mem_cons.mp hd with rfl | hd
      · exact hseen
      · exact fun hin => hfresh d hd (List.mem_cons_of_mem _ hin)
    · exact hfresh first hin (List.mem_cons_self ..)

theorem nodup_reach (h : Hierarchy) (roots : List String) : (h.reach roots).Nodup :=
  (nodup_reachFrom h [] roots).2

theorem reached_congr {roots' : List String} (hroots : ∀ name, name ∈ roots ↔ name ∈ roots') :
    h.Reached roots d ↔ h.Reached roots' d := by
  constructor
  · intro hd
    exact hd.of_roots fun e hmem hroot => .root hmem ((hroots e.name).mp hroot)
  · intro hd
    exact hd.of_roots fun e hmem hroot => .root hmem ((hroots e.name).mpr hroot)

/-- Two lists of roots lead to what one of them leads to. -/
theorem reached_append_iff {first second : List String} :
    h.Reached (first ++ second) d ↔ h.Reached first d ∨ h.Reached second d := by
  constructor
  · intro hd
    induction hd with
    | root hmem hroot =>
      rcases List.mem_append.mp hroot with hroot | hroot
      · exact .inl (.root hmem hroot)
      · exact .inr (.root hmem hroot)
    | nested _ hclass hmem henclosing ih =>
      rcases ih with houter | houter
      · exact .inl (.nested houter hclass hmem henclosing)
      · exact .inr (.nested houter hclass hmem henclosing)
  · rintro (hd | hd)
    · exact hd.of_roots fun e hmem hroot => .root hmem (List.mem_append_left _ hroot)
    · exact hd.of_roots fun e hmem hroot => .root hmem (List.mem_append_right _ hroot)

/-- The enclosing types of a declaration are declared classes, up to a top-level one. -/
inductive EnclosedByClasses (h : Hierarchy) : Declaration → Prop
  | topLevel {d : Declaration} (hnone : d.enclosing = none) : h.EnclosedByClasses d
  | nested {outer d : Declaration} (hmem : outer ∈ h.declarations)
      (hname : d.enclosing = some outer.name) (hclass : outer.kind.isClass = true)
      (houter : h.EnclosedByClasses outer) : h.EnclosedByClasses d

theorem name_mem_roots_iff (hmem : d ∈ h.declarations) :
    d.name ∈ h.roots ↔ d.enclosing = none := by
  rw [roots, List.mem_map]
  simp only [mem_topLevel_iff]
  constructor
  · rintro ⟨e, ⟨he, hnone⟩, hname⟩
    exact eq_of_name_eq he hmem hname ▸ hnone
  · intro hnone
    exact ⟨d, ⟨hmem, hnone⟩, rfl⟩

/-- The top-level declarations lead to the declarations that are nested in classes only. -/
theorem reached_roots_iff :
    h.Reached h.roots d ↔ d ∈ h.declarations ∧ h.EnclosedByClasses d := by
  constructor
  · intro hd
    induction hd with
    | root hmem hroot => exact ⟨hmem, .topLevel ((name_mem_roots_iff hmem).mp hroot)⟩
    | nested _ hclass hmem henclosing ih => exact ⟨hmem, .nested ih.1 henclosing hclass ih.2⟩
  · rintro ⟨hmem, hd⟩
    induction hd with
    | topLevel hnone => exact .root hmem ((name_mem_roots_iff hmem).mpr hnone)
    | nested houter hname hclass _ ih => exact .nested (ih houter) hclass hmem hname

end Hierarchy

end RetainerTable
