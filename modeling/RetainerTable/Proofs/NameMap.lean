import RetainerTable.NameMap

namespace RetainerTable.NameMap

variable {α β : Type}

theorem contains_of_get? {m : NameMap α} {name : String} {value : α}
    (hget : m.get? name = some value) : m.contains name = true := by
  simp [contains, hget]

theorem contains_eq_false_iff {m : NameMap α} {name : String} :
    m.contains name = false ↔ m.get? name = none := by
  simp [contains]

/-- The names are those that the map gives something. -/
theorem mem_names_iff {m : NameMap α} {name : String} :
    name ∈ m.names ↔ ∃ value, m.get? name = some value := by
  rw [names, List.mem_map]
  constructor
  · rintro ⟨⟨name, value⟩, hrow, rfl⟩
    exact ⟨value, mem_toList_iff.mp hrow⟩
  · rintro ⟨value, hget⟩
    exact ⟨(name, value), mem_toList_iff.mpr hget, rfl⟩

/-- The names of a map are distinct. -/
theorem nodup_names (m : NameMap α) : (m.toList.map (·.1)).Nodup := by
  rw [List.Nodup, List.pairwise_map]
  refine m.ascending.imp fun {a b} hlt heq => ?_
  rw [heq] at hlt
  exact String.lt_irrefl _ hlt

/-- Inserting one value under several names changes the answers for these names only. -/
theorem get?_foldl_insert (value : α) (query : String) (names : List String) (m : NameMap α) :
    (names.foldl (·.insert · value) m).get? query =
      if query ∈ names then some value else m.get? query := by
  induction names generalizing m with
  | nil => simp
  | cons name names ih =>
    rw [List.foldl_cons, ih, get?_insert]
    by_cases hquery : query = name <;> simp [hquery]

private theorem lookup_eq_none_of_not_mem {rows : List (String × α)} {query : String}
    (hquery : query ∉ rows.map (·.1)) : rows.lookup query = none := by
  induction rows with
  | nil => rfl
  | cons row rows ih =>
    obtain ⟨hne, hrows⟩ : query ≠ row.1 ∧ query ∉ rows.map (·.1) := by simpa using hquery
    rw [AssociationList.lookup_cons_eq, if_neg hne, ih hrows]

/-- Inserting rows of distinct names puts their answers in front of the map's. -/
theorem get?_foldl_insertRows (f : β → α) (query : String) (rows : List (String × β))
    (hdistinct : (rows.map (·.1)).Nodup) (m : NameMap α) :
    (rows.foldl (fun m row => m.insert row.1 (f row.2)) m).get? query =
      ((rows.lookup query).map f).or (m.get? query) := by
  induction rows generalizing m with
  | nil => simp
  | cons row rows ih =>
    rw [List.map_cons, List.nodup_cons] at hdistinct
    rw [List.foldl_cons, ih hdistinct.2, get?_insert, AssociationList.lookup_cons_eq]
    by_cases hquery : query = row.1
    · subst hquery
      simp [lookup_eq_none_of_not_mem hdistinct.1]
    · simp [hquery]

/-- A map is made of its rows. -/
theorem ofList_toList (m : NameMap α) : ofList m.toList = m := by
  refine ext_get? fun name => ?_
  have hrows := get?_foldl_insertRows id name m.toList m.nodup_names empty
  rw [get?_empty, Option.or_none, Option.map_id] at hrows
  exact hrows

end RetainerTable.NameMap
