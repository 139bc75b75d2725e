import RetainerTable.Registry
import RetainerTable.Table.Basic

namespace RetainerTable

variable {α : Type}

namespace RegistryBuilder

/-- Enters the retainers in order, up to the first duplicate. -/
def insertAll (builder : RegistryBuilder α) :
    List (String × α) → Except DuplicateRetainer (RegistryBuilder α)
  | [] => .ok builder
  | (typeName, retainer) :: rows =>
    match builder.insert typeName retainer with
    | (builder, .ok ()) => builder.insertAll rows
    | (_, .error error) => .error error

end RegistryBuilder

namespace Table

/-- What is entered for the table: type names and the paths of their retainers, in table order. -/
def registrations (table : Table) : List (String × Source.Path) :=
  table.rows.toList.map fun row => (row.typeName, row.retainer)

/-- The registry of the table's retainers, each known by its path. -/
def registry (table : Table) : Except DuplicateRetainer (Registry Source.Path) :=
  match RegistryBuilder.empty.insertAll table.registrations with
  | .ok builder => .ok builder.build
  | .error error => .error error

end Table

end RetainerTable
