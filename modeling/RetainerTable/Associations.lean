import RetainerTable.Error
import RetainerTable.Event
import RetainerTable.NameMap
import RetainerTable.Text.Blank

/-!
Associations: the retainer that each type was given.

`collect` gathers pairs of a type name and a path. Names are trimmed and paths compared by what they
spell, so a repeated pair is harmless; two different retainers for one type are refused, since no
choice between them would be safe.
-/

namespace RetainerTable

open RetainerTable.Text

/-- The retainer of each associated type, by type name. -/
abbrev Associations := NameMap Source.Path

namespace Associations

/-- The retainer's path, if the text spells a plain one. -/
def retainer? (path : String) : Option Source.Path :=
  Source.Path.parse? (trim path)

/-- The retainer's path, or the complaint that the type was given none. -/
def readRetainer (typeName path : String) : Except Error Source.Path :=
  match retainer? path with
  | some retainer => .ok retainer
  | none => .error (.invalidRetainer typeName path)

/-- Adds one pair. A missing type name is reported before an invalid path, and that before a
    conflict with an earlier pair. -/
def add (associations : Associations) (typeName path : String) : Except Error Associations :=
  let name := trim typeName
  if name = "" then .error (.emptyTypeName path)
  else
    match readRetainer name path with
    | .error error => .error error
    | .ok incoming =>
      match associations.get? name with
      | none => .ok (associations.insert name incoming)
      | some existing =>
        if existing = incoming then .ok associations
        else .error (.conflictingRetainers name existing incoming)

/-- What is noted of a pair that is added: that its type was associated before. -/
def repetition (associations : Associations) (typeName : String) : List Event :=
  match associations.get? (trim typeName) with
  | none => []
  | some retainer => [.repeatedAssociation (trim typeName) retainer]

/-- Adds all pairs in order, up to the first that is refused, and goes on with the log. -/
def addAll (associations : Associations) (log : List Event) :
    List (String × String) → Except Error (Associations × List Event)
  | [] => .ok (associations, log)
  | (typeName, path) :: pairs =>
    match associations.add typeName path with
    | .ok added => addAll added (log ++ associations.repetition typeName) pairs
    | .error error => .error error

/-- The associations that the pairs make, and what there was to note. -/
def collectNoting (pairs : List (String × String)) : Except Error (Associations × List Event) :=
  addAll .empty [] pairs

/-- The associations that the pairs make. -/
def collect (pairs : List (String × String)) : Except Error Associations :=
  (collectNoting pairs).map Prod.fst

end Associations

end RetainerTable
