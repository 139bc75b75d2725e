import RetainerTable.Associations
import RetainerTable.Hierarchy

/-!
Inherited retainers: a class without an association takes the retainer of its nearest associated
ancestor.

* `Hierarchy.reach` lists the declarations that a list of roots leads to. Only classes are entered.
* `climb` follows superclasses from a class up to the first ancestor that decides it.
* `derive` climbs from every class reached that has no association. What a climb decides holds for
  every class it passed, and is remembered, so that no superclass is looked up twice.

Hierarchies may be malformed: superclasses and enclosing types may form cycles. Every traversal ends
because it never passes a declaration twice.
-/

namespace RetainerTable

namespace Hierarchy

/-- The types nested in a declaration that a traversal enters: those of a class. -/
def entered (h : Hierarchy) (d : Declaration) : List Declaration :=
  if d.kind.isClass then h.enclosedIn d.name else []

/-- The declarations reached from the names still to be visited, in depth-first pre-order, each at
    its first visit. -/
def reachFrom (h : Hierarchy) (seen : List String) : List String → List Declaration
  | [] => []
  | name :: pending =>
    if _hseen : name ∈ seen then reachFrom h seen pending
    else
      match _hfound : h.find? name with
      | none => reachFrom h seen pending
      | some d =>
        d :: reachFrom h (name :: seen) ((h.entered d).map Declaration.name ++ pending)
termination_by pending => ((h.unseen seen).length, pending.length)
decreasing_by
  · exact Prod.Lex.right _ (by simp)
  · exact Prod.Lex.right _ (by simp)
  · obtain ⟨hmem, rfl⟩ := mem_of_find? _hfound
    exact Prod.Lex.left _ _ (length_unseen_cons_lt hmem _hseen)

/-- The declarations reached from the roots, each once. -/
def reach (h : Hierarchy) (roots : List String) : List Declaration :=
  h.reachFrom [] roots

end Hierarchy

/-- A retainer taken from an ancestor. -/
structure Inherited where
  retainer : Source.Path
  /-- The name of the associated ancestor. -/
  ancestor : String
  deriving Repr, DecidableEq

/-- What stopped a climb. -/
inductive Ending
  /-- The superclass is associated. -/
  | associated (inherited : Inherited)
  /-- The superclass was decided before. -/
  | decided (outcome : Option Inherited)
  /-- There is no superclass. -/
  | top
  /-- The superclass of the named class is not declared. -/
  | outside (typeName : String) (reference : TypeReference)
  /-- The superclass is no class. -/
  | notClass
  /-- The superclass was passed already. -/
  | cycle (name : String)
  deriving Repr, DecidableEq

namespace Ending

/-- What the ending decides for every class passed. -/
def outcome : Ending → Option Inherited
  | associated inherited => some inherited
  | decided outcome => outcome
  | top | outside .. | notClass | cycle _ => none

/-- What is noted of the ending of a climb that began at the named class. -/
def events (start : String) : Ending → List Event
  | outside typeName reference => [.outsideSuperclass typeName reference]
  | cycle name => [.ancestorCycle ⟨start, name⟩]
  | associated _ | decided _ | top | notClass => []

end Ending

/-- Outcomes known so far, by class name. -/
abbrev Outcomes := NameMap (Option Inherited)

/-- The way a climb has taken. -/
structure Way where
  /-- The names of the classes passed, the last one first. -/
  passed : List String
  /-- The declarations whose superclass was looked up, by this climb and those before it, in order. -/
  asked : List Declaration
  /-- How often a superclass was looked up. -/
  queries : Nat

namespace Way

/-- Looks up one superclass more. -/
def ask (way : Way) (d : Declaration) : Way :=
  { way with asked := way.asked ++ [d], queries := way.queries + 1 }

/-- Passes one class more. -/
def pass (way : Way) (d : Declaration) : Way :=
  { way with passed := d.name :: way.passed }

end Way

/-- Climbs from `current`, the last of the classes passed, to the first superclass that decides
    them. -/
def climb (h : Hierarchy) (associations : Associations) (known : Outcomes) (way : Way)
    (current : Declaration) : Way × Ending :=
  match current.superclass with
  | none => (way.ask current, .top)
  | some reference =>
    match _hparent : h.find? reference.name with
    | none => (way.ask current, .outside current.name reference)
    | some parent =>
      match associations.get? parent.name with
      | some retainer => (way.ask current, .associated ⟨retainer, parent.name⟩)
      | none =>
        match known.get? parent.name with
        | some outcome => (way.ask current, .decided outcome)
        | none =>
          if !parent.kind.isClass then (way.ask current, .notClass)
          else if _hpassed : parent.name ∈ way.passed then (way.ask current, .cycle parent.name)
          else climb h associations known ((way.ask current).pass parent) parent
termination_by (h.unseen way.passed).length
decreasing_by exact Hierarchy.length_unseen_cons_lt (Hierarchy.mem_of_find? _hparent).1 _hpassed

/-- What the climbs so far have decided, asked and noted. -/
structure Progress where
  known : Outcomes
  /-- The declarations whose superclass was looked up, in order. -/
  asked : List Declaration
  /-- How often a superclass was looked up. -/
  queries : Nat
  log : List Event

namespace Progress

/-- Nothing decided yet. Associations of types that are not declared are noted, since no climb comes
    to them. -/
def start (h : Hierarchy) (associations : Associations) : Progress :=
  ⟨.empty, [], 0, (associations.names.filter fun name => (h.find? name).isNone).map
    .undeclaredAssociation⟩

/-- The cycles warned of, the latest last. -/
def cycles (progress : Progress) : List Cycle := progress.log.filterMap Event.cycle?

/-- Puts an event at the end of the log. -/
def note (progress : Progress) (event : Event) : Progress :=
  { progress with log := progress.log ++ [event] }

/-- Decides a class: by memory, or by a climb whose outcome is then remembered for all classes it
    passed. -/
def decide (h : Hierarchy) (associations : Associations) (progress : Progress) (d : Declaration) :
    Option Inherited × Progress :=
  match progress.known.get? d.name with
  | some outcome => (outcome, progress)
  | none =>
    let (way, ending) :=
      climb h associations progress.known ⟨[d.name], progress.asked, progress.queries⟩ d
    (ending.outcome,
      { known := way.passed.foldl (·.insert · ending.outcome) progress.known
        asked := way.asked
        queries := way.queries
        log := progress.log ++ ending.events d.name })

end Progress

/-- The derived retainers of a run, and what the run counted and noted. -/
structure Derivation where
  derived : NameMap Inherited
  /-- How many declarations were reached. -/
  visited : Nat
  progress : Progress

namespace Derivation

/-- What is noted of a class once it is decided. -/
def verdict (typeName : String) : Option Inherited → Event
  | some inherited => .derived typeName inherited.ancestor inherited.retainer
  | none => .noAncestor typeName

/-- Visits a declaration: a class without an association gets its entry, if a climb decides it. -/
def visit (h : Hierarchy) (associations : Associations) (derivation : Derivation)
    (d : Declaration) : Derivation :=
  if d.kind.isClass && !associations.contains d.name then
    let (outcome, progress) := derivation.progress.decide h associations d
    { derived := match outcome with
        | some inherited => derivation.derived.insert d.name inherited
        | none => derivation.derived
      visited := derivation.visited + 1
      progress := progress.note (verdict d.name outcome) }
  else { derivation with visited := derivation.visited + 1 }

/-- Nothing visited yet. -/
def start (h : Hierarchy) (associations : Associations) : Derivation :=
  ⟨.empty, 0, .start h associations⟩

end Derivation

/-- The retainers that the classes reached from the roots inherit. -/
def derive (h : Hierarchy) (associations : Associations) (roots : List String) : Derivation :=
  (h.reach roots).foldl (Derivation.visit h associations) (.start h associations)

end RetainerTable
