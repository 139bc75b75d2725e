import RetainerTable.Error
import RetainerTable.Manifest
import RetainerTable.Toml.Document
import RetainerTable.Toml.Record

namespace RetainerTable

open RetainerTable.Toml

/-- A kind: its word, or a table whose one key is the word and whose value is void. -/
def TypeKind.ofToml? : Value → Option TypeKind
  | .string word => ofWord? word
  | .table [(word, value)] => if value.isVoid then ofWord? word else none
  | _ => none

/-- The fields of a type entry, in order. -/
def TypeEntry.fields : List String :=
  ["name", "kind", "extends", "enclosing"]

def TypeEntry.ofToml? (value : Value) : Option TypeEntry := do
  let rows ← value.record? fields
  return {
    name := ← rows.field? "name" Value.text?
    kind := ← rows.fieldD "kind" .ordinary TypeKind.ofToml?
    superclass := ← rows.textField? "extends"
    enclosing := ← rows.textField? "enclosing" }

/-- An association: the fields `type` and `handler`. -/
def associationOfToml? (value : Value) : Option (String × String) := do
  let rows ← value.record? ["type", "handler"]
  return (← rows.field? "type" Value.text?, ← rows.field? "handler" Value.text?)

/-- A list whose items the reader understands. -/
def listOfToml? {α : Type} (read : Value → Option α) : Value → Option (List α)
  | .array items => items.mapM read
  | _ => none

namespace Manifest

/-- The manifest that a document's top-level table holds. -/
def ofTable? (rows : Table) : Option Manifest := do
  let rows ← (Value.table rows).record? ["types", "associations"]
  return {
    types := ← rows.fieldD "types" [] (listOfToml? TypeEntry.ofToml?)
    associations := ← rows.fieldD "associations" [] (listOfToml? associationOfToml?) }

/-- Reads a manifest from the text of a document. -/
def parse? (text : String) : Option Manifest :=
  (Toml.parse? text).bind ofTable?

/-- Reads a manifest, or says that the text holds none. -/
def read (text : String) : Except Error Manifest :=
  match parse? text with
  | some manifest => .ok manifest
  | none => .error .malformedManifest

end Manifest

end RetainerTable
