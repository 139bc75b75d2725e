import RetainerTable.Text.Blank

/-!
References to types: a qualified name and, for a generic type, its arguments.

The arguments are kept as text; they tell two uses of a type apart, not two types.
-/

namespace RetainerTable

open RetainerTable.Text

/-- A use of a type. -/
structure TypeReference where
  name : String
  arguments : List String
  deriving Repr, DecidableEq

namespace TypeReference

/-- Cuts a text at the commas that stand outside all brackets; `depth` brackets are open before it.
    There is no cut if a bracket closes that was not opened, or one stays open. -/
def pieces? : Nat → List Char → Option (List (List Char))
  | 0, [] => some [[]]
  | _ + 1, [] => none
  | depth, c :: cs =>
    if c = '<' then grow c (pieces? (depth + 1) cs)
    else if c = '>' then
      match depth with
      | 0 => none
      | depth + 1 => grow c (pieces? depth cs)
    else if c = ',' ∧ depth = 0 then (pieces? 0 cs).map ([] :: ·)
    else grow c (pieces? depth cs)
where
  /-- Puts a character in front of the first piece. -/
  grow (c : Char) : Option (List (List Char)) → Option (List (List Char))
    | some (piece :: rest) => some ((c :: piece) :: rest)
    | _ => none

/-- The text in front of a final closing bracket. -/
def beforeClosing? (cs : List Char) : Option (List Char) :=
  if cs.getLast? = some '>' then some cs.dropLast else none

/-- The trimmed pieces between the brackets, none of which may be blank. -/
def arguments? (inner : List Char) : Option (List String) :=
  match pieces? 0 inner with
  | none => none
  | some pieces =>
    let trimmed := pieces.map trimChars
    if trimmed.any List.isEmpty then none else some (trimmed.map String.ofList)

/-- Reads `app.Base`, `app.Base<String>` or `app.Map<K, List<V>>`. -/
def parse? (text : String) : Option TypeReference :=
  let cs := trimChars text.toList
  match cs.dropWhile (· ≠ '<') with
  | [] => if cs.isEmpty ∨ '>' ∈ cs then none else some ⟨String.ofList cs, []⟩
  | _ :: rest =>
    let name := trimChars (cs.takeWhile (· ≠ '<'))
    if name.isEmpty then none
    else ((beforeClosing? rest).bind arguments?).map (⟨String.ofList name, ·⟩)

/-- The written form, with one space behind each comma between arguments. -/
def text (ref : TypeReference) : String :=
  if ref.arguments.isEmpty then ref.name
  else ref.name ++ "<" ++ String.intercalate ", " ref.arguments ++ ">"

end TypeReference

end RetainerTable
