import RetainerTable.Inheritance

/-!
Tables: every type that has a retainer, its own or an inherited one, in ascending order of names.

`merge` makes a table of associations and derived retainers; `row?` finds a row by bisection, and
`row?_eq_some_iff` says that it finds exactly the rows of the table.
-/

namespace RetainerTable

/-- Where a row's retainer comes from. -/
inductive Origin
  /-- The type was associated with it. -/
  | explicit
  /-- The type inherits it from the ancestor. -/
  | derived (ancestor : String)
  deriving Repr, DecidableEq

/-- A type and its retainer. -/
structure Row where
  typeName : String
  retainer : Source.Path
  origin : Origin
  deriving Repr, DecidableEq

/-- Rows in strictly ascending order of type names. -/
structure Table where
  rows : Array Row
  ascending : rows.toList.Pairwise fun a b => a.typeName < b.typeName

namespace Table

def size (table : Table) : Nat := table.rows.size

def isEmpty (table : Table) : Bool := table.rows.isEmpty

/-- The number of rows whose type is associated. -/
def explicitCount (table : Table) : Nat := table.rows.toList.countP (·.origin = .explicit)

/-- The number of rows whose type inherits. -/
def derivedCount (table : Table) : Nat := table.size - table.explicitCount

/-- Finds the row of a name among the rows from `lo` up to `hi`: the middle row is the one, or tells
    which half to search. -/
def bisect (rows : Array Row) (name : String) (lo hi : Nat) (hhi : hi ≤ rows.size) : Option Row :=
  if hlt : lo < hi then
    have hmid : (lo + hi) / 2 < rows.size := by omega
    let row := rows[(lo + hi) / 2]
    if row.typeName = name then some row
    else if row.typeName < name then bisect rows name ((lo + hi) / 2 + 1) hi hhi
    else bisect rows name lo ((lo + hi) / 2) (by omega)
  else none
termination_by hi - lo

/-- The row of a name. -/
def row? (table : Table) (name : String) : Option Row :=
  bisect table.rows name 0 table.rows.size (Nat.le_refl _)

/-- The retainer of a name. -/
def get? (table : Table) (name : String) : Option Source.Path :=
  (table.row? name).map Row.retainer

/-- The rows of a map from type names. -/
def ofMap (m : NameMap (Source.Path × Origin)) : Table where
  rows := (m.toList.map fun (name, retainer, origin) => ⟨name, retainer, origin⟩).toArray
  ascending := by simpa [List.pairwise_map] using m.ascending

/-- Both maps in one: every associated type and every type that inherits. -/
def combine (associations : Associations) (derived : NameMap Inherited) :
    NameMap (Source.Path × Origin) :=
  let own := NameMap.ofList (associations.toList.map fun row => (row.1, row.2, .explicit))
  derived.toList.foldl
    (fun m row => m.insert row.1 (row.2.retainer, .derived row.2.ancestor)) own

/-- The first derived type that is associated too, with its own retainer and the derived one. -/
def overlap? (associations : Associations) (derived : NameMap Inherited) :
    Option (String × Source.Path × Source.Path) :=
  derived.toList.findSome? fun (name, inherited) =>
    (associations.get? name).map fun own => (name, own, inherited.retainer)

/-- The table of both maps. No type may be in both, since neither retainer could be preferred. -/
def merge (associations : Associations) (derived : NameMap Inherited) : Except Error Table :=
  match overlap? associations derived with
  | some (name, own, inherited) => .error (.mergeConflict name own inherited)
  | none => .ok (ofMap (combine associations derived))

/-- In ascending rows, the row of a name is the one that bisection finds. -/
theorem bisect_eq_some_iff {rows : Array Row}
    (hasc : rows.toList.Pairwise fun a b => a.typeName < b.typeName) {name : String} {row : Row}
    (lo hi : Nat) (hhi : hi ≤ rows.size) :
    bisect rows name lo hi hhi = some row ↔
      row.typeName = name ∧ ∃ i, lo ≤ i ∧ i < hi ∧ rows[i]? = some row := by
  have hlt : ∀ {i j : Nat} (_ : i < j) (hi : i < rows.size) (hj : j < rows.size),
      rows[i].typeName < rows[j].typeName := by
    intro i j hij hi hj
    have h := List.pairwise_iff_getElem.mp hasc i j (by simpa using hi) (by simpa using hj) hij
    simpa using h
  fun_induction bisect rows name lo hi hhi with
  | case1 lo hi hhi hlohi hmid mid heq =>
    constructor
    · intro h
      refine ⟨Option.some.inj h ▸ heq, (lo + hi) / 2, by omega, by omega, ?_⟩
      rw [← h, Array.getElem?_eq_getElem (by omega)]
    · rintro ⟨hname, i, -, hi', hrow⟩
      obtain ⟨his, hrow⟩ := Array.getElem?_eq_some_iff.mp hrow
      rcases Nat.lt_trichotomy i ((lo + hi) / 2) with h | h | h
      · have hrows := hlt h his (by omega)
        rw [hrow, hname] at hrows
        exact absurd (heq ▸ hrows) (String.lt_irrefl _)
      · subst h
        rw [← hrow]
      · have hrows := hlt h (by omega) his
        rw [hrow, hname] at hrows
        exact absurd (heq ▸ hrows) (String.lt_irrefl _)
  | case2 lo hi hhi hlohi hmid mid hne hless ih =>
    refine ih.trans ?_
    refine and_congr_right fun hname => ⟨?_, ?_⟩
    · rintro ⟨i, hlo, hhi', hrow⟩
      exact ⟨i, by omega, hhi', hrow⟩
    · rintro ⟨i, hlo, hhi', hrow⟩
      refine ⟨i, Nat.lt_of_not_le fun hle => ?_, hhi', hrow⟩
      obtain ⟨his, hrow⟩ := Array.getElem?_eq_some_iff.mp hrow
      rcases Nat.lt_or_eq_of_le hle with h | h
      · have hrows := hlt h his (by omega)
        rw [hrow, hname] at hrows
        exact String.lt_asymm hrows hless
      · subst h
        exact hne (by rw [← hname, ← hrow])
  | case3 lo hi hhi hlohi hmid mid hne hless ih =>
    have hgreater := NameMap.lt_of_not_lt_of_ne hless hne
    refine ih.trans ?_
    refine and_congr_right fun hname => ⟨?_, ?_⟩
    · rintro ⟨i, hlo, hhi', hrow⟩
      exact ⟨i, hlo, by omega, hrow⟩
    · rintro ⟨i, hlo, hhi', hrow⟩
      refine ⟨i, hlo, Nat.lt_of_not_le fun hle => ?_, hrow⟩
      obtain ⟨his, hrow⟩ := Array.getElem?_eq_some_iff.mp hrow
      rcases Nat.lt_or_eq_of_le hle with h | h
      · have hrows := hlt h (by omega) his
        rw [hrow, hname] at hrows
        exact String.lt_asymm hrows hgreater
      · subst h
        exact hne (by rw [← hname, ← hrow])
  | case4 lo hi hhi hlohi =>
    constructor
    · intro h
      cases h
    · rintro ⟨-, i, hlo, hhi', -⟩
      omega

/-- Bisection finds exactly the rows of the table. -/
theorem row?_eq_some_iff {table : Table} {name : String} {row : Row} :
    table.row? name = some row ↔ row ∈ table.rows ∧ row.typeName = name := by
  rw [row?, bisect_eq_some_iff table.ascending]
  constructor
  · rintro ⟨hname, i, -, -, hrow⟩
    exact ⟨Array.mem_of_getElem? hrow, hname⟩
  · rintro ⟨hmem, hname⟩
    obtain ⟨i, hi, hrow⟩ := Array.mem_iff_getElem.mp hmem
    exact ⟨hname, i, Nat.zero_le _, hi, Array.getElem?_eq_some_iff.mpr ⟨hi, hrow⟩⟩

end Table

end RetainerTable
