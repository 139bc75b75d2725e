import RetainerTable.Toml.Value

namespace RetainerTable.Toml

namespace Value

def text? : Value → Option String
  | string text => some text
  | _ => none

def flag? : Value → Option Bool
  | boolean value => some value
  | _ => none

/-- A table or an array with nothing in it. -/
def isVoid : Value → Bool
  | table [] => true
  | array [] => true
  | _ => false

/-- The value's fields. A table may have no others; of an array, what goes beyond the fields is not
    looked at. -/
def record? (fields : List String) : Value → Option Table
  | table rows => if rows.all fun row => fields.contains row.1 then some rows else none
  | array items => some (fields.zip items)
  | _ => none

end Value

namespace Table

/-- What the reader makes of the field, or the default if there is no such field. -/
def fieldD {α : Type} (rows : Table) (name : String) (default : α) (read : Value → Option α) :
    Option α :=
  match List.lookup name rows with
  | none => some default
  | some value => read value

/-- What the reader makes of the field, which has to be there. -/
def field? {α : Type} (rows : Table) (name : String) (read : Value → Option α) : Option α :=
  (List.lookup name rows).bind read

/-- The text of the field, if there is such a field. -/
def textField? (rows : Table) (name : String) : Option (Option String) :=
  fieldD rows name none fun value => value.text?.map some

end Table

end RetainerTable.Toml
