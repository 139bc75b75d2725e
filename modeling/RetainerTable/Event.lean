import RetainerTable.Source.Path
import RetainerTable.TypeReference

/-!
Events: what a run notes on its way, first to last.

Warnings and summaries are reported to whoever runs the program; the finer levels are for following
a run step by step. Nothing that a run yields depends on its events.
-/

namespace RetainerTable

/-- An ancestor cycle that a climb ran into. -/
structure Cycle where
  /-- The class at which the climb began. -/
  typeName : String
  /-- The class that was met twice. -/
  cycleAt : String
  deriving Repr, DecidableEq

/-- How much an event matters. -/
inductive Level
  | trace
  | debug
  | info
  | warn
  deriving Repr, DecidableEq

/-- What a run notes on its way. -/
inductive Event
  /-- A pair says of a type what an earlier pair has said already. -/
  | repeatedAssociation (typeName : String) (retainer : Source.Path)
  /-- An associated type is not declared, so nothing can inherit from it. -/
  | undeclaredAssociation (typeName : String)
  /-- A climb came to a class whose superclass is not declared. The reference is quoted as it was
      spelled, with its arguments. -/
  | outsideSuperclass (typeName : String) (reference : TypeReference)
  /-- A class has no associated ancestor. -/
  | noAncestor (typeName : String)
  /-- A class takes the retainer of an ancestor. -/
  | derived (typeName ancestor : String) (retainer : Source.Path)
  /-- A climb met a class twice, so the classes it passed stay without a retainer. -/
  | ancestorCycle (cycle : Cycle)
  /-- Inheritance is resolved: the numbers of declarations reached, of associations, of derived
      retainers and of superclasses looked up. -/
  | resolved (visited explicit derived queries : Nat)
  /-- The table is rendered: the numbers of its rows and of the bytes of its source. -/
  | rendered (entries explicit derived bytes : Nat)
  deriving Repr, DecidableEq

namespace Event

def level : Event → Level
  | outsideSuperclass .. | noAncestor _ => .trace
  | repeatedAssociation .. | undeclaredAssociation _ | derived .. => .debug
  | resolved .. | rendered .. => .info
  | ancestorCycle _ => .warn

/-- The event is a warning: something that was asked for does not come about. -/
def isWarning (event : Event) : Bool := event.level = .warn

/-- The event is for whoever runs the program, and not only for following a run. -/
def isReport (event : Event) : Bool := event.level = .info || event.level = .warn

/-- What has happened, in words. -/
def message : Event → String
  | repeatedAssociation .. => "repeated association"
  | undeclaredAssociation _ => "explicit type not in graph; cannot be an ancestor"
  | outsideSuperclass .. => "superclass outside graph"
  | noAncestor _ => "no associated ancestor"
  | derived .. => "derived retainer"
  | ancestorCycle _ => "ancestor cycle; leaving chain unresolved"
  | resolved .. => "inheritance resolution complete"
  | rendered .. => "emitted retainer table"

/-- The cycle that the event warns of. -/
def cycle? : Event → Option Cycle
  | ancestorCycle cycle => some cycle
  | _ => none

end Event

end RetainerTable
