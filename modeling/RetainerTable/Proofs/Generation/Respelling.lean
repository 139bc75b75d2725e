import Mathlib
import RetainerTable.Proofs.Generation.Rows
import RetainerTable.Proofs.Inheritance.Erasure

/-!
Superclasses spelled otherwise.

What a manifest generates depends on the names of its superclasses only. Two spellings of one name,
with whatever arguments, brackets and blanks, make declarations that are equal without their
arguments (`Hierarchy.map_erased_ofManifest`), and a generation does not look at those.
-/

namespace RetainerTable

variable {settings : Settings} {types types' : List TypeEntry} {pairs : List (String × String)}

namespace Declaration

variable {entry entry' : TypeEntry}

end Declaration

namespace Hierarchy

end Hierarchy

/-- A trace tells two spellings of an undeclared superclass apart. -/
example : ((inheritNoting true ⟨[⟨"Leaf", .ordinary, some ⟨"Base", ["P"]⟩, none⟩], by simp, by simp⟩
      .empty ["Leaf"]).2.filter (·.level = .trace),
    (inheritNoting true ⟨[⟨"Leaf", .ordinary, some ⟨"Base", ["Q"]⟩, none⟩], by simp, by simp⟩
      .empty ["Leaf"]).2.filter (·.level = .trace)) =
    ([.outsideSuperclass "Leaf" ⟨"Base", ["P"]⟩, .noAncestor "Leaf"],
      [.outsideSuperclass "Leaf" ⟨"Base", ["Q"]⟩, .noAncestor "Leaf"]) := by
  cbv

end RetainerTable
