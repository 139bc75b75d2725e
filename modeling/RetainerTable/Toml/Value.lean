namespace RetainerTable.Toml

/-- A value. Of numbers only their range is kept, and of dates and times only that they are well
    formed: no setting and no manifest field holds one. -/
inductive Value
  | string (text : String)
  | boolean (value : Bool)
  /-- A number; the flag says that it is in the range of numbers that can be read. -/
  | number (inRange : Bool)
  | moment
  | array (items : List Value)
  | table (rows : List (String × Value))
  deriving Repr, Inhabited

mutual

/-- Whether two values are the same. -/
def Value.decEq : (first second : Value) → Decidable (first = second)
  | .string first => fun
    | .string second => decidable_of_iff (first = second) (by simp)
    | .boolean _ | .number _ | .moment | .array _ | .table _ => isFalse nofun
  | .boolean first => fun
    | .boolean second => decidable_of_iff (first = second) (by simp)
    | .string _ | .number _ | .moment | .array _ | .table _ => isFalse nofun
  | .number first => fun
    | .number second => decidable_of_iff (first = second) (by simp)
    | .string _ | .boolean _ | .moment | .array _ | .table _ => isFalse nofun
  | .moment => fun
    | .moment => isTrue rfl
    | .string _ | .boolean _ | .number _ | .array _ | .table _ => isFalse nofun
  | .array first => fun
    | .array second =>
      have := decEqItems first second
      decidable_of_iff (first = second) (by simp)
    | .string _ | .boolean _ | .number _ | .moment | .table _ => isFalse nofun
  | .table first => fun
    | .table second =>
      have := decEqRows first second
      decidable_of_iff (first = second) (by simp)
    | .string _ | .boolean _ | .number _ | .moment | .array _ => isFalse nofun

def decEqItems : (first second : List Value) → Decidable (first = second)
  | [] => fun
    | [] => isTrue rfl
    | _ :: _ => isFalse nofun
  | item :: items => fun
    | [] => isFalse nofun
    | item' :: items' =>
      have := item.decEq item'
      have := decEqItems items items'
      decidable_of_iff (item = item' ∧ items = items') (by simp)

def decEqRows : (first second : List (String × Value)) → Decidable (first = second)
  | [] => fun
    | [] => isTrue rfl
    | _ :: _ => isFalse nofun
  | (key, item) :: rows => fun
    | [] => isFalse nofun
    | (key', item') :: rows' =>
      have := item.decEq item'
      have := decEqRows rows rows'
      decidable_of_iff ((key = key' ∧ item = item') ∧ rows = rows') (by simp)

end

instance : DecidableEq Value := Value.decEq

/-- A table: values under distinct keys. -/
abbrev Table := List (String × Value)

mutual

/-- No number in the value is out of range. -/
def Value.isReadable : Value → Bool
  | .number inRange => inRange
  | .array items => areReadable items
  | .table rows => areRowsReadable rows
  | _ => true

def areReadable : List Value → Bool
  | [] => true
  | item :: items => item.isReadable && areReadable items

def areRowsReadable : List (String × Value) → Bool
  | [] => true
  | (_, item) :: rows => item.isReadable && areRowsReadable rows

end

end RetainerTable.Toml
