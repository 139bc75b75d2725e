import RetainerTable.Toml.Value

/-!
Documents under construction. A draft remembers how each table came about, since that decides what
may still be added to it:

* a table opened by its own header is complete when the next header comes;
* a table implied by the header of a table within it may still be opened once;
* a table made by a dotted key takes further dotted keys, but no header;
* a value written in brackets, a table or an array, takes nothing.
-/

namespace RetainerTable.Toml

/-- How a table came about. -/
inductive Standing
  | opened | implied | dotted
  deriving Repr, DecidableEq

/-- A value, a table that may be added to, or an array of tables with the latest in front. -/
inductive Draft
  | value (value : Value)
  | table (standing : Standing) (rows : List (String × Draft))
  | tables (elements : List (List (String × Draft)))

/-- The rows of a table under construction. -/
abbrev Rows := List (String × Draft)

namespace Rows

/-- Binds the key to the draft; a key that is bound keeps its place. -/
def bind (key : String) (draft : Draft) : Rows → Rows
  | [] => [(key, draft)]
  | row :: rows => if row.1 = key then (key, draft) :: rows else row :: bind key draft rows

/-- Adds a value under a dotted key to the table of the given standing. The tables on the way are
    made where there are none, and must not have been opened by a header; the last of them must be
    made by dotted keys alone. -/
def add (standing : Standing) (nested : Bool) (key : String) (value : Value) :
    List String → Rows → Option Rows
  | [], rows =>
    if decide (standing = .dotted) = nested ∧ rows.lookup key = none then
      some (rows ++ [(key, .value value)])
    else none
  | step :: path, rows =>
    match rows.lookup step with
    | none => (add .dotted true key value path []).map fun inner =>
        bind step (.table .dotted inner) rows
    | some (.table found inner) =>
      if found = .opened then none
      else (add found true key value path inner).map fun inner => bind step (.table found inner) rows
    | some (.tables (latest :: earlier)) =>
      (add .opened true key value path latest).map fun latest =>
        bind step (.tables (latest :: earlier)) rows
    | _ => none

/-- Adds a key and its value as they are written in one place. -/
def addEntry (rows : Rows) (path : List String) (key : String) (value : Value) : Option Rows :=
  add .opened false key value path rows

/-- Changes the table that a header's path leads to. Tables on the way are implied where there are
    none; an array of tables stands for its latest element. -/
def within (change : Rows → Option Rows) : List String → Rows → Option Rows
  | [], rows => change rows
  | step :: path, rows =>
    match rows.lookup step with
    | none => (within change path []).map fun inner => bind step (.table .implied inner) rows
    | some (.table standing inner) =>
      (within change path inner).map fun inner => bind step (.table standing inner) rows
    | some (.tables (latest :: earlier)) =>
      (within change path latest).map fun latest => bind step (.tables (latest :: earlier)) rows
    | _ => none

/-- Opens the table of a key and fills it. Only a table that was implied may be there already. -/
def openTable (fill : Rows → Option Rows) (key : String) (rows : Rows) : Option Rows :=
  match rows.lookup key with
  | none => (fill []).map fun inner => bind key (.table .opened inner) rows
  | some (.table .implied inner) =>
    (fill inner).map fun inner => bind key (.table .opened inner) rows
  | _ => none

/-- Appends a table to the array of tables of a key and fills it. -/
def appendTable (fill : Rows → Option Rows) (key : String) (rows : Rows) : Option Rows :=
  match rows.lookup key with
  | none => (fill []).map fun inner => bind key (.tables [inner]) rows
  | some (.tables elements) =>
    (fill []).map fun inner => bind key (.tables (inner :: elements)) rows
  | _ => none

end Rows

mutual

/-- The finished value. -/
def Draft.finish : Draft → Value
  | .value value => value
  | .table _ rows => .table (finishRows rows)
  | .tables elements => .array (finishElements elements [])

/-- The finished rows. -/
def finishRows : Rows → Table
  | [] => []
  | (key, draft) :: rows => (key, draft.finish) :: finishRows rows

/-- The finished elements, put in front of the given ones; the latest element was in front. -/
def finishElements : List Rows → List Value → List Value
  | [], later => later
  | rows :: earlier, later => finishElements earlier (.table (finishRows rows) :: later)

end

end RetainerTable.Toml
