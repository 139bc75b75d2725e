import RetainerTable.Proofs.Inheritance.Ancestry
import RetainerTable.Proofs.Inheritance.Reach

namespace RetainerTable.Hierarchy

variable {part whole : Hierarchy} {associations : Associations} {d a : Declaration}

/-- What the part declares, the whole declares too, and what the part calls a superclass is declared
    by the part, or by neither. -/
structure PartOf (part whole : Hierarchy) : Prop where
  subset : part.declarations ⊆ whole.declarations
  closed : ∀ d ∈ part.declarations, ∀ reference, d.superclass = some reference →
    ∀ e ∈ whole.declarations, e.name = reference.name → e ∈ part.declarations

namespace PartOf

private theorem subclassOf_iff (hpart : part.PartOf whole) (hd : d ∈ part.declarations) :
    whole.SubclassOf d a ↔ part.SubclassOf d a := by
  constructor
  · rintro ⟨⟨reference, hsuper, hname⟩, hmem⟩
    exact ⟨⟨reference, hsuper, hname⟩, hpart.closed d hd reference hsuper a hmem hname.symm⟩
  · rintro ⟨hnamed, hmem⟩
    exact ⟨hnamed, hpart.subset hmem⟩

theorem inheritsFrom_iff (hpart : part.PartOf whole) (hd : d ∈ part.declarations) :
    whole.InheritsFrom associations d a ↔ part.InheritsFrom associations d a := by
  constructor
  · intro ha
    induction ha with
    | superclass hsuper hassociated =>
      exact .superclass ((hpart.subclassOf_iff hd).mp hsuper) hassociated
    | above hpasses _ ih =>
      have hsuper := (hpart.subclassOf_iff hd).mp hpasses.superclass
      exact .above ⟨hsuper, hpasses.candidate⟩ (ih hsuper.declared)
  · intro ha
    induction ha with
    | superclass hsuper hassociated =>
      exact .superclass ((hpart.subclassOf_iff hd).mpr hsuper) hassociated
    | above hpasses _ ih =>
      have hsuper := (hpart.subclassOf_iff hd).mpr hpasses.superclass
      exact .above ⟨hsuper, hpasses.candidate⟩ (ih hpasses.superclass.declared)

/-- The part declares the types that its declarations are nested in. -/
theorem enclosedByClasses_iff (hpart : part.PartOf whole) (hd : d ∈ part.declarations) :
    whole.EnclosedByClasses d ↔ part.EnclosedByClasses d := by
  constructor
  · intro henclosed
    induction henclosed with
    | topLevel hnone => exact .topLevel hnone
    | @nested outer d hmem hname hclass _ ih =>
      -- The part declares a type of this name too, which is `outer` since names are distinct.
      obtain ⟨own, hown, howner⟩ := List.mem_map.mp (part.enclosed d hd outer.name hname)
      obtain rfl := eq_of_name_eq (hpart.subset hown) hmem howner
      exact .nested hown hname hclass (ih hown)
  · intro henclosed
    induction henclosed with
    | topLevel hnone => exact .topLevel hnone
    | nested hmem hname hclass _ ih => exact .nested (hpart.subset hmem) hname hclass (ih hmem)

end PartOf

end RetainerTable.Hierarchy
