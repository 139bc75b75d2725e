import RetainerTable.Settings
import RetainerTable.Toml.Document
import RetainerTable.Toml.Record

namespace RetainerTable

open RetainerTable.Toml

namespace Settings

/-- The settings by their names in a document, in order. -/
def fields : List String :=
  ["vectorize_inheritance", "static_name", "accessor_name", "cache_type_name", "runtime_path"]

/-- The settings that a value gives; one that it leaves out has its standard value. -/
def ofToml? (value : Value) : Option Settings := do
  let rows ← value.record? fields
  let name (field standard : String) := rows.fieldD field standard Value.text?
  return {
    vectorizeInheritance :=
      ← rows.fieldD "vectorize_inheritance" standard.vectorizeInheritance Value.flag?
    staticName := ← name "static_name" standard.staticName
    accessorName := ← name "accessor_name" standard.accessorName
    cacheTypeName := ← name "cache_type_name" standard.cacheTypeName
    runtimePath := ← name "runtime_path" standard.runtimePath }

/-- The settings that a document's top-level table holds. Of its other values only the numbers
    matter: each must be in range. -/
def ofTable? (rows : Table) : Option Settings :=
  if rows.all fun row => row.1 == "lut" || row.2.isReadable then
    rows.fieldD "lut" standard ofToml?
  else none

/-- Reads settings from the text of a document. -/
def parse? (text : String) : Option Settings :=
  (Toml.parse? text).bind ofTable?

/-- Reads settings, or says that the text holds none. -/
def read (text : String) : Except Error Settings :=
  match parse? text with
  | some settings => .ok settings
  | none => .error .malformedSettings

end Settings

end RetainerTable
