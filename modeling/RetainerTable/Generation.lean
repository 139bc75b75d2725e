import RetainerTable.Table.Render

/-!
Generation: from settings, a hierarchy and associations to a rendered table.

`generate` checks the settings, collects the associations, derives what is inherited if the settings
ask for it, merges and renders. The first failure ends the run; there is no partial table.
-/

namespace RetainerTable

/-- A rendered table and the log of its making. -/
structure Generation where
  table : Table
  source : String
  log : List Event

/-- The retainers inherited from the roots downwards, with the log; none unless enabled. -/
def inheritNoting (enabled : Bool) (h : Hierarchy) (associations : Associations)
    (roots : List String) : NameMap Inherited × List Event :=
  if enabled then
    let derivation := derive h associations roots
    (derivation.derived,
      derivation.progress.log ++
        [.resolved derivation.visited associations.size derivation.derived.size
          derivation.progress.queries])
  else (.empty, [])

/-- The retainers inherited from the roots downwards, with what the run reports of them. -/
def inherit (enabled : Bool) (h : Hierarchy) (associations : Associations) (roots : List String) :
    NameMap Inherited × List Event :=
  (inheritNoting enabled h associations roots).map id (List.filter Event.isReport)

/-- Merges both maps and renders the table, once the settings are valid. -/
def tabulate (settings : Settings) (associations : Associations) (derived : NameMap Inherited) :
    Except Error Generation :=
  match settings.validate with
  | .error error => .error error
  | .ok () =>
    match Table.merge associations derived with
    | .error error => .error error
    | .ok table =>
      let source := table.render settings
      .ok ⟨table, source,
        [.rendered table.size table.explicitCount table.derivedCount source.utf8ByteSize]⟩

/-- The table of the pairs and of all that the roots lead to. -/
def generate (settings : Settings) (h : Hierarchy) (roots : List String)
    (pairs : List (String × String)) : Except Error Generation :=
  match settings.validate with
  | .error error => .error error
  | .ok () =>
    match Associations.collectNoting pairs with
    | .error error => .error error
    | .ok (associations, noted) =>
      let (derived, log) := inheritNoting settings.vectorizeInheritance h associations roots
      match tabulate settings associations derived with
      | .error error => .error error
      | .ok generation => .ok { generation with log := noted ++ log ++ generation.log }

/-- The table of a manifest: of its associations and of all its top-level types lead to. -/
def generateFromManifest (settings : Settings) (manifest : Manifest) : Except Error Generation :=
  match Hierarchy.ofManifest manifest with
  | .error error => .error error
  | .ok h => generate settings h h.roots manifest.associations

end RetainerTable
