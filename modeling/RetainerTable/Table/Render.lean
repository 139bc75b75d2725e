import RetainerTable.Settings
import RetainerTable.Table.Basic
import RetainerTable.Text.Lines

/-!
The two written forms of a table.

`render` writes the source text to be included by the program that owns the retainers: a static
filled on first use with one statement for each row, a look-up function, and a type-erased view.
`describe` lists the rows for a reader. Both depend on the table and the settings alone, so unchanged
input gives unchanged text.
-/

namespace RetainerTable

open RetainerTable.Text

namespace Row

/-- The statement that enters the row. A derived row names its ancestor in a comment, escaped so that
    it cannot end the line. -/
def statement (row : Row) : String :=
  "\ttable.insert(" ++ literal row.typeName ++ ", &" ++ row.retainer.text ++ ");" ++
    match row.origin with
    | .explicit => ""
    | .derived ancestor => " // inherited from " ++ inComment ancestor

/-- The row for a reader. -/
def description (row : Row) : String :=
  row.typeName ++ " -> " ++ row.retainer.text ++
    match row.origin with
    | .explicit => ""
    | .derived ancestor => " (inherited from " ++ ancestor ++ ")"

end Row

namespace Table

/-- The marker of generated files, and how many rows there are. -/
def headerLines (table : Table) : List String :=
  ["// @generated by keepsake-lut. Do not edit.",
   "// entries: " ++ toString table.size ++ " (explicit: " ++ toString table.explicitCount
     ++ ", derived: " ++ toString table.derivedCount ++ ")",
   ""]

/-- The definition of the static. -/
def staticLines (settings : Settings) (table : Table) : List String :=
  let opening := "static " ++ settings.staticName ++ ": ::std::sync::LazyLock<"
    ++ settings.runtimePath ++ "::HandlerTable> = ::std::sync::LazyLock::new(|| "
  if table.isEmpty then [opening ++ settings.runtimePath ++ "::HandlerTable::builder().build());"]
  else
    [opening ++ "\x7b", "\tlet mut table = " ++ settings.runtimePath ++ "::HandlerTable::builder();"]
      ++ table.rows.toList.map Row.statement
      ++ ["\ttable.build()", "\x7d);"]

/-- The look-up function. -/
def accessorLines (settings : Settings) : List String :=
  ["",
   "/// Returns the retainer registered for `type_name`, narrowed to `H`.",
   "///",
   "/// `None` if the type has no retainer or its retainer is not an `H`.",
   "pub fn " ++ settings.accessorName ++ "<H: ::std::any::Any>(type_name: &str) -> "
     ++ "::std::option::Option<&'static H> \x7b",
   "\t" ++ settings.staticName ++ ".get::<H>(type_name)",
   "\x7d"]

/-- The type-erased view. -/
def viewLines (settings : Settings) : List String :=
  ["",
   "/// Type-erased view of the generated table.",
   "pub struct " ++ settings.cacheTypeName ++ ";",
   "",
   "impl " ++ settings.runtimePath ++ "::RetainerCache for " ++ settings.cacheTypeName ++ " \x7b",
   "\tfn handler(&self, type_name: &str) -> ::std::option::Option<" ++ settings.runtimePath
     ++ "::Handler> \x7b",
   "\t\t" ++ settings.staticName ++ ".get_raw(type_name)",
   "\t\x7d",
   "\x7d"]

/-- The source text of the table. -/
def render (settings : Settings) (table : Table) : String :=
  unlines (headerLines table ++ staticLines settings table ++ accessorLines settings
    ++ viewLines settings)

/-- One line for each row: the type, its retainer and, if it inherits, from where. -/
def describe (table : Table) : String :=
  unlines (table.rows.toList.map Row.description)

end Table

end RetainerTable
