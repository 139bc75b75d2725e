import RetainerTable.Files.Fault
import RetainerTable.Source.Path
import RetainerTable.Text.Escape

namespace RetainerTable

/-- Why a run stopped. -/
inductive Error
  /-- One type was given two retainers. -/
  | conflictingRetainers (typeName : String) (existing incoming : Source.Path)
  /-- One type is in both maps that are to be merged. -/
  | mergeConflict (typeName : String) (associated derived : Source.Path)
  /-- The retainer given to the type is no plain path. -/
  | invalidRetainer (typeName path : String)
  /-- An association names no type. -/
  | emptyTypeName (path : String)
  /-- The setting's value cannot stand in the rendered source. -/
  | invalidSetting (setting value : String)
  | unreadableSettings (path : String) (fault : Fault)
  /-- The text is no settings document. -/
  | malformedSettings
  | unreadableManifest (path : String) (fault : Fault)
  /-- The text is no manifest document. -/
  | malformedManifest
  | duplicateType (name : String)
  /-- The type is nested in one that is not listed. -/
  | unknownEnclosing (name enclosing : String)
  | emptyName
  /-- The superclass of the type is no type reference. -/
  | malformedReference (name reference : String)
  | missingVariable (name : String)
  | unwritableTable (path : String) (fault : Fault)
  deriving Repr, DecidableEq

namespace Error

/-- The error in one sentence. Names stand as they are; texts that were refused stand as string
    literals. -/
def message : Error → String
  | conflictingRetainers typeName existing incoming =>
    "conflicting retainers for " ++ typeName ++ ": " ++ existing.text ++ " vs " ++ incoming.text
  | mergeConflict typeName associated derived =>
    "type " ++ typeName ++ " has both an explicit (" ++ associated.text ++ ") and a derived ("
      ++ derived.text ++ ") retainer"
  | invalidRetainer typeName path =>
    "retainer for " ++ typeName ++ " is not a plain Rust path: " ++ Text.literal path
  | emptyTypeName path => "association for retainer " ++ path ++ " has an empty type name"
  | invalidSetting setting value => "invalid " ++ setting ++ ": " ++ Text.literal value
  | unreadableSettings path fault => "I/O error reading " ++ path ++ ": " ++ fault.message
  | malformedSettings => "config parse error"
  | unreadableManifest path fault => "I/O error reading " ++ path ++ ": " ++ fault.message
  | malformedManifest => "manifest parse error"
  | duplicateType name => "type " ++ name ++ " is declared more than once"
  | unknownEnclosing name enclosing =>
    "type " ++ name ++ " is enclosed by undeclared type " ++ enclosing
  | emptyName => "type declaration with an empty name"
  | malformedReference name reference =>
    "malformed type reference " ++ Text.literal reference ++ " on " ++ name
  | missingVariable name =>
    "environment variable " ++ name ++ " is not set (not running under cargo?)"
  | unwritableTable path fault => "I/O error writing " ++ path ++ ": " ++ fault.message

end Error

end RetainerTable
