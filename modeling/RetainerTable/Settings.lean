import RetainerTable.Error
import RetainerTable.Source.GenericPath

namespace RetainerTable

/-- The choices of a run. -/
structure Settings where
  /-- Classes without an association inherit from their nearest associated ancestor. -/
  vectorizeInheritance : Bool
  /-- The identifier of the static that holds the table. -/
  staticName : String
  /-- The identifier of the look-up function. -/
  accessorName : String
  /-- The identifier of the unit type that gives the type-erased view. -/
  cacheTypeName : String
  /-- The path under which the rendered source finds the run-time library. -/
  runtimePath : String
  deriving Repr, DecidableEq

namespace Settings

/-- The settings of a run that is told nothing. -/
def standard : Settings where
  vectorizeInheritance := false
  staticName := "RETAINER_CACHE"
  accessorName := "get_cached"
  cacheTypeName := "RetainerCacheImpl"
  runtimePath := "::keepsake_retain"

/-- The settings that name something, each with the test that its value has to pass. The test of paths
    is given. -/
def spliced (isPath : String → Bool) (settings : Settings) :
    List (String × String × (String → Bool)) :=
  [("static_name", settings.staticName, Source.isNameText),
   ("accessor_name", settings.accessorName, Source.isNameText),
   ("cache_type_name", settings.cacheTypeName, Source.isNameText),
   ("runtime_path", settings.runtimePath, isPath)]

/-- Accepts settings whose names are identifiers and whose path is a path by the test; otherwise
    reports the first that is not. -/
def validateWith (isPath : String → Bool) (settings : Settings) : Except Error Unit :=
  match (settings.spliced isPath).find? fun (_, value, test) => !test value with
  | some (name, value, _) => .error (.invalidSetting name value)
  | none => .ok ()

/-- Accepts settings whose names are identifiers and whose path is a path, with generic arguments or
    without. -/
def validate (settings : Settings) : Except Error Unit :=
  settings.validateWith Source.GenericPath.isPathText

end Settings

end RetainerTable
