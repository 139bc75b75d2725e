import Mathlib.Logic.Relation
import RetainerTable.Proofs.Inheritance.Reach

/-!
The order in which a traversal lists declarations.

`Hierarchy.preorder` is the traversal as a recursion: a declaration, then all that is nested in it,
then the next one. The traversal that runs keeps no calls open but only a list of names. `Traversal`
takes it step by step, with a stack on which the names are put last first. `reachFrom_append` ties
the pending names to the calls that the recursion has open, and `reaches_reachFrom` the stack to the
pending names: all three list the same declarations in the same order.
-/

namespace RetainerTable

open Relation (ReflTransGen)

namespace Hierarchy

variable {h : Hierarchy} {seen : List String}

/-- The names seen after the declarations have been listed as well, the latest first. -/
def seenAfter (seen : List String) (ds : List Declaration) : List String :=
  (ds.map Declaration.name).reverse ++ seen

@[simp] theorem seenAfter_nil (seen : List String) : seenAfter seen [] = seen := rfl

@[simp] theorem seenAfter_cons (seen : List String) (d : Declaration) (ds : List Declaration) :
    seenAfter seen (d :: ds) = seenAfter (d.name :: seen) ds := by
  simp [seenAfter]

@[simp] theorem seenAfter_append (seen : List String) (first second : List Declaration) :
    seenAfter seen (first ++ second) = seenAfter (seenAfter seen first) second := by
  simp [seenAfter]

private theorem length_unseen_seenAfter_le (h : Hierarchy) (seen : List String) (ds : List Declaration) :
    (h.unseen (seenAfter seen ds)).length ≤ (h.unseen seen).length := by
  refine List.Sublist.length_le (List.monotone_filter_right _ fun d hd => ?_)
  simp only [seenAfter, List.contains_eq_mem, Bool.not_eq_true', decide_eq_false_iff_not] at hd ⊢
  exact fun hin => hd (List.mem_append_right _ hin)

private theorem length_unseen_lt_of_find? {name : String} {d : Declaration} (hnew : name ∉ seen)
    (hfound : h.find? name = some d) :
    (h.unseen (name :: seen)).length < (h.unseen seen).length := by
  obtain ⟨hmem, rfl⟩ := mem_of_find? hfound
  exact length_unseen_cons_lt hmem hnew

/-- The names of the declarations that name the type as their enclosing one, in order. -/
def namesWithin (h : Hierarchy) (outer : String) : List String :=
  (h.declarations.filter fun d => d.enclosing = some outer).map Declaration.name

private theorem names_entered (h : Hierarchy) (d : Declaration) : (h.entered d).map Declaration.name =
    if d.kind.isClass then h.namesWithin d.name else [] := by
  unfold entered enclosedIn namesWithin
  split
  · simp only [beq_eq_decide]
  · rfl

/-- The declarations of the names in order, each followed by what is nested in it if it is a class.
    What was seen is left out, and with it what is nested in it. -/
def preorder (h : Hierarchy) (seen : List String) : List String → List Declaration
  | [] => []
  | name :: names =>
    if _hseen : name ∈ seen then preorder h seen names
    else
      match _hfound : h.find? name with
      | none => preorder h seen names
      | some d =>
        let inner :=
          if d.kind.isClass then preorder h (name :: seen) (h.namesWithin d.name) else []
        d :: inner ++ preorder h (seenAfter (name :: seen) inner) names
termination_by names => ((h.unseen seen).length, names.length)
decreasing_by
  · exact Prod.Lex.right _ (by simp)
  · exact Prod.Lex.right _ (by simp)
  · exact Prod.Lex.left _ _ (length_unseen_lt_of_find? _hseen _hfound)
  · exact Prod.Lex.left _ _ (Nat.lt_of_le_of_lt (h.length_unseen_seenAfter_le _ _)
      (length_unseen_lt_of_find? _hseen _hfound))

/-- The recursion lists what its names lead to, and the traversal then goes on with the names behind
    them: the pending names are those of the calls that are still open. -/
theorem reachFrom_append (h : Hierarchy) (seen names pending : List String) :
    h.reachFrom seen (names ++ pending) =
      h.preorder seen names ++ h.reachFrom (seenAfter seen (h.preorder seen names)) pending := by
  fun_induction preorder h seen names generalizing pending with
  | case1 seen => rfl
  | case2 seen name names hseen ih =>
    rw [List.cons_append, reachFrom, dif_pos hseen]
    exact ih pending
  | case3 seen name names hseen hfound ih =>
    rw [List.cons_append, reachFrom_of_find?_none hseen hfound]
    exact ih pending
  | case4 seen name names hseen d hfound inner ihinner ihnext =>
    obtain ⟨-, rfl⟩ := mem_of_find? hfound
    have hinner : h.reachFrom (d.name :: seen)
        ((if d.kind.isClass then h.namesWithin d.name else []) ++ (names ++ pending)) =
          inner ++ h.reachFrom (seenAfter (d.name :: seen) inner) (names ++ pending) := by
      by_cases hclass : d.kind.isClass = true
      · simpa only [inner, if_pos hclass, dif_pos hclass] using ihinner (names ++ pending)
      · simp only [inner, if_neg hclass, dif_neg hclass, List.nil_append, seenAfter_nil]
    rw [List.cons_append, reachFrom_of_find? hseen hfound, names_entered, hinner, ihnext]
    simp [inner]

private theorem reach_eq_preorder (h : Hierarchy) (roots : List String) :
    h.reach roots = h.preorder [] roots := by
  have happend := h.reachFrom_append [] roots []
  rwa [reachFrom, List.append_nil, List.append_nil] at happend

end Hierarchy

/-- A traversal under way. -/
structure Traversal where
  seen : List String
  /-- The names that wait to be visited, the next one last. One name may wait several times. -/
  stack : List String
  /-- The declarations listed so far. -/
  listed : List Declaration

namespace Traversal

/-- Nothing visited yet; the first of the roots is on top of the stack. -/
def start (roots : List String) : Traversal := ⟨[], roots.reverse, []⟩

/-- Takes the last name off the stack. Only now does it count as seen: if it was not seen before, its
    declaration is listed, and what is nested in it is put on the stack if it is a class. -/
def step (h : Hierarchy) (t : Traversal) : Option Traversal :=
  t.stack.getLast?.map fun name =>
    if name ∈ t.seen then { t with stack := t.stack.dropLast }
    else
      match h.find? name with
      | none => { t with stack := t.stack.dropLast }
      | some d =>
        { seen := name :: t.seen
          stack := t.stack.dropLast ++
            if d.kind.isClass then (h.namesWithin d.name).reverse else []
          listed := t.listed ++ [d] }

/-- One traversal is the next step of the other. -/
def Steps (h : Hierarchy) (t next : Traversal) : Prop := t.step h = some next

variable {h : Hierarchy} {seen pending : List String} {listed : List Declaration} {name : String}

private theorem step_eq_none_iff {t : Traversal} : t.step h = none ↔ t.stack = [] := by
  simp [step]

private theorem steps_of_seen (hseen : name ∈ seen) :
    Steps h ⟨seen, (name :: pending).reverse, listed⟩ ⟨seen, pending.reverse, listed⟩ := by
  simp [Steps, step, hseen]

private theorem steps_of_find?_none (hnew : name ∉ seen) (hfound : h.find? name = none) :
    Steps h ⟨seen, (name :: pending).reverse, listed⟩ ⟨seen, pending.reverse, listed⟩ := by
  simp [Steps, step, hnew, hfound]

/-- What is nested in a new declaration comes to lie on top of the names that wait. -/
theorem steps_of_find? {d : Declaration} (hnew : name ∉ seen) (hfound : h.find? name = some d) :
    Steps h ⟨seen, (name :: pending).reverse, listed⟩
      ⟨name :: seen, ((h.entered d).map Declaration.name ++ pending).reverse, listed ++ [d]⟩ := by
  rw [Hierarchy.names_entered]
  by_cases hclass : d.kind.isClass = true
  · simp [Steps, step, hnew, hfound, hclass]
  · simp [Steps, step, hnew, hfound, hclass]

/-- Step by step the stack is worked off, and lists what the traversal of its names does. -/
theorem reaches_reachFrom (h : Hierarchy) (seen pending : List String) (listed : List Declaration) :
    ReflTransGen (Steps h) ⟨seen, pending.reverse, listed⟩
      ⟨Hierarchy.seenAfter seen (h.reachFrom seen pending), [],
        listed ++ h.reachFrom seen pending⟩ := by
  fun_induction Hierarchy.reachFrom h seen pending generalizing listed with
  | case1 seen =>
    rw [Hierarchy.seenAfter_nil, List.append_nil]
    exact .refl
  | case2 seen name pending hseen ih =>
    exact .head (steps_of_seen hseen) (ih listed)
  | case3 seen name pending hseen hfound ih =>
    exact .head (steps_of_find?_none hseen hfound) (ih listed)
  | case4 seen name pending hseen d hfound ih =>
    obtain ⟨-, rfl⟩ := Hierarchy.mem_of_find? hfound
    have hrest := ih (listed ++ [d])
    rw [List.append_assoc, List.singleton_append] at hrest
    rw [Hierarchy.seenAfter_cons]
    exact .head (steps_of_find? hseen hfound) hrest

end Traversal

/-- A traversal comes to an end, however types are nested and whatever the roots are. It lists what
    the recursion lists, in its order: no declaration twice, and exactly those that the roots lead to
    by nesting steps that each start at a class. -/
theorem Hierarchy.traversal_preorder (h : Hierarchy) (roots : List String) :
    (∃ last, ReflTransGen (Traversal.Steps h) (.start roots) last ∧ last.step h = none ∧
      last.listed = h.preorder [] roots) ∧
    h.reach roots = h.preorder [] roots ∧
    (h.reach roots).Nodup ∧
    ∀ d, d ∈ h.reach roots ↔ h.Reached roots d := by
  refine ⟨⟨_, Traversal.reaches_reachFrom h [] roots [], ?_, ?_⟩, h.reach_eq_preorder roots,
    h.nodup_reach roots, fun d => mem_reach_iff⟩
  · exact Traversal.step_eq_none_iff.mpr rfl
  · exact h.reach_eq_preorder roots

/-- A class with an interface and a class in it, each of which has a class in it, and two classes that
    are nested in each other. -/
def nestedHierarchy : Hierarchy where
  declarations :=
    [⟨"A", .ordinary, none, none⟩, ⟨"I", .interface, none, some "A"⟩,
      ⟨"C", .ordinary, none, some "I"⟩, ⟨"B", .ordinary, none, some "A"⟩,
      ⟨"D", .ordinary, none, some "B"⟩, ⟨"P", .ordinary, none, some "Q"⟩,
      ⟨"Q", .ordinary, none, some "P"⟩]
  distinct := by decide
  enclosed := by decide

/-- `D` is listed once, although `A` leads to it again; the class in the interface is not listed; the
    cycle is listed once round. -/
theorem Hierarchy.traversal_preorder_nested :
    (∃ last, ReflTransGen (Traversal.Steps nestedHierarchy) (.start ["D", "A", "P", "A"]) last ∧
      last.step nestedHierarchy = none ∧
      last.listed.map Declaration.name = ["D", "A", "I", "B", "P", "Q"]) ∧
    ⟨"Q", .ordinary, none, some "P"⟩ ∈ nestedHierarchy.reach ["D", "A", "P", "A"] ∧
    ¬nestedHierarchy.Reached ["D", "A", "P", "A"] ⟨"C", .ordinary, none, some "I"⟩ := by
  obtain ⟨⟨last, hsteps, hend, hlisted⟩, hreach, -, hmem⟩ :=
    traversal_preorder nestedHierarchy ["D", "A", "P", "A"]
  have hnames : (nestedHierarchy.preorder [] ["D", "A", "P", "A"]).map Declaration.name =
      ["D", "A", "I", "B", "P", "Q"] := by cbv
  refine ⟨⟨last, hsteps, hend, hlisted ▸ hnames⟩, ?_, fun hin => ?_⟩
  · have hp : nestedHierarchy.Reached ["D", "A", "P", "A"] ⟨"P", .ordinary, none, some "Q"⟩ :=
      .root (by decide) (by decide)
    exact (hmem _).mpr (.nested hp rfl (by decide) rfl)
  · have hlist := List.mem_map_of_mem (f := Declaration.name) ((hmem _).mpr hin)
    rw [hreach, hnames] at hlist
    revert hlist
    decide

end RetainerTable
