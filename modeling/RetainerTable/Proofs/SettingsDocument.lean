import RetainerTable.AssociationList
import RetainerTable.SettingsDocument

/-!
What settings depend on.

A table gives settings if every key in it is an option with a value of its type, and each option is then
what the table says or, where the table says nothing, what it is in the standard settings
(`Settings.ofToml?_table_eq_some_iff`). Of a document only the value under `lut` counts; of everything
else in it, only whether the numbers can be represented.
-/

namespace RetainerTable

open RetainerTable.Toml

namespace Toml

variable {α : Type} {rows : Table} {name : String} {value : Value}

private theorem Value.text?_eq_some_iff {text : String} : value.text? = some text ↔ value = .string text := by
  cases value <;> simp [Value.text?]

private theorem Value.flag?_eq_some_iff {flag : Bool} : value.flag? = some flag ↔ value = .boolean flag := by
  cases value <;> simp [Value.flag?]

private theorem Value.record?_table_eq_some_iff {fields : List String} {options : Table} :
    (Value.table options).record? fields = some rows ↔
      (∀ row ∈ options, row.1 ∈ fields) ∧ options = rows := by
  simp only [Value.record?, Option.ite_none_right_eq_some, Option.some_inj, List.all_eq_true,
    List.contains_iff_mem]

/-- Where a reader undoes a way to write, a field is given as the written result, or is not given and
    the result is the default. -/
theorem Table.fieldD_eq_some_iff {read : Value → Option α} {write : α → Value} {default result : α}
    (hread : ∀ {value result}, read value = some result ↔ value = write result) :
    rows.fieldD name default read = some result ↔
      (List.lookup name rows).or (some (write default)) = some (write result) := by
  unfold fieldD
  cases List.lookup name rows with
  | none =>
    rw [Option.none_or, Option.some_inj, Option.some_inj, ← hread, hread.mpr rfl, Option.some_inj]
  | some value => rw [Option.some_or, Option.some_inj, hread]

/-- A field can be read if what is given can be. -/
theorem Table.exists_fieldD {read : Value → Option α} (default : α)
    (hread : ∀ value, List.lookup name rows = some value → ∃ result, read value = some result) :
    ∃ result, rows.fieldD name default read = some result := by
  unfold fieldD
  cases hlookup : List.lookup name rows with
  | none => exact ⟨default, rfl⟩
  | some value => exact hread value hlookup

end Toml

namespace Settings

variable {options rows : Table} {settings : Settings} {key text : String} {value : Value}

/-- The table that gives the settings. -/
def toTable (settings : Settings) : Table :=
  [("vectorize_inheritance", .boolean settings.vectorizeInheritance),
   ("static_name", .string settings.staticName),
   ("accessor_name", .string settings.accessorName),
   ("cache_type_name", .string settings.cacheTypeName),
   ("runtime_path", .string settings.runtimePath)]

/-- The key is an option, and the value is of its type. -/
def Suits (key : String) : Value → Prop
  | .boolean _ => key = "vectorize_inheritance"
  | .string _ => key ∈ ["static_name", "accessor_name", "cache_type_name", "runtime_path"]
  | _ => False

instance (key : String) : (value : Value) → Decidable (Suits key value)
  | .boolean _ => inferInstanceAs (Decidable (_ = _))
  | .string _ => inferInstanceAs (Decidable (_ ∈ _))
  | .number _ | .moment | .array _ | .table _ => isFalse id

private theorem ofToml?_table_eq_some_iff_fields :
    ofToml? (.table options) = some settings ↔
      (∀ row ∈ options, row.1 ∈ fields) ∧
        options.fieldD "vectorize_inheritance" standard.vectorizeInheritance Value.flag? =
          some settings.vectorizeInheritance ∧
        options.fieldD "static_name" standard.staticName Value.text? = some settings.staticName ∧
        options.fieldD "accessor_name" standard.accessorName Value.text? =
          some settings.accessorName ∧
        options.fieldD "cache_type_name" standard.cacheTypeName Value.text? =
          some settings.cacheTypeName ∧
        options.fieldD "runtime_path" standard.runtimePath Value.text? =
          some settings.runtimePath := by
  simp only [ofToml?, Option.bind_eq_bind, Option.bind_eq_some_iff,
    Value.record?_table_eq_some_iff, Option.pure_def, Option.some_inj]
  constructor
  · rintro ⟨_, ⟨hknown, rfl⟩, _, hvectorize, _, hstatic, _, haccessor, _, hcacheType, _, hruntime, rfl⟩
    exact ⟨hknown, hvectorize, hstatic, haccessor, hcacheType, hruntime⟩
  · rintro ⟨hknown, hvectorize, hstatic, haccessor, hcacheType, hruntime⟩
    exact ⟨options, ⟨hknown, rfl⟩, _, hvectorize, _, hstatic, _, haccessor, _, hcacheType, _, hruntime,
      rfl⟩

/-- A table gives the settings in which every option is what the table says, or else standard. -/
theorem ofToml?_table_eq_some_iff :
    ofToml? (.table options) = some settings ↔
      (∀ row ∈ options, row.1 ∈ fields) ∧
        ∀ key ∈ fields, (options.lookup key).or (standard.toTable.lookup key) =
          settings.toTable.lookup key := by
  rw [ofToml?_table_eq_some_iff_fields]
  simp only [Table.fieldD_eq_some_iff Value.flag?_eq_some_iff,
    Table.fieldD_eq_some_iff Value.text?_eq_some_iff, fields, List.forall_mem_cons]
  simp [toTable, List.lookup_cons]

/-- Whatever settings are, their table gives them. -/
theorem ofToml?_toTable (settings : Settings) : ofToml? (.table settings.toTable) = some settings := by
  simp [ofToml?_table_eq_some_iff, toTable, fields, List.lookup_cons]

private theorem suits_of_lookup_toTable (hlookup : settings.toTable.lookup key = some value) :
    Suits key value := by
  have hrow := AssociationList.mem_of_lookup hlookup
  simp only [toTable, List.mem_cons, Prod.mk.injEq, List.not_mem_nil, or_false] at hrow
  rcases hrow with ⟨rfl, rfl⟩ | ⟨rfl, rfl⟩ | ⟨rfl, rfl⟩ | ⟨rfl, rfl⟩ | ⟨rfl, rfl⟩ <;> simp [Suits]

private theorem mem_fields_of_suits (hsuits : Suits key value) : key ∈ fields := by
  cases value <;> simp_all [Suits, fields]

private theorem Suits.exists_text (hsuits : Suits key value) (hkey : key ≠ "vectorize_inheritance") :
    ∃ text, value.text? = some text := by
  cases value with
  | string text => exact ⟨text, rfl⟩
  | boolean flag => exact absurd hsuits hkey
  | _ => exact hsuits.elim

private theorem Suits.exists_flag (hsuits : Suits "vectorize_inheritance" value) :
    ∃ flag, value.flag? = some flag := by
  cases value with
  | boolean flag => exact ⟨flag, rfl⟩
  | string text => simp [Suits] at hsuits
  | _ => exact hsuits.elim

/-- A table gives settings exactly if what it gives are options with values of their types. -/
theorem exists_ofToml?_table_iff :
    (∃ settings, ofToml? (.table options) = some settings) ↔
      ∀ key value, options.lookup key = some value → Suits key value := by
  constructor
  · rintro ⟨settings, hgiven⟩ key value hlookup
    obtain ⟨hknown, hoptions⟩ := ofToml?_table_eq_some_iff.mp hgiven
    have hkey : key ∈ fields := hknown (key, value) (AssociationList.mem_of_lookup hlookup)
    have hsettings : settings.toTable.lookup key = some value := by
      rw [← hoptions key hkey, hlookup, Option.some_or]
    exact suits_of_lookup_toTable hsettings
  · intro hsuits
    have hknown : ∀ row ∈ options, row.1 ∈ fields := by
      intro row hrow
      obtain ⟨value, hvalue⟩ := Option.isSome_iff_exists.mp
        (List.lookup_isSome_iff.mpr ⟨row, hrow, beq_self_eq_true row.1⟩)
      exact mem_fields_of_suits (hsuits row.1 value hvalue)
    have hname : ∀ key (default : String), key ≠ "vectorize_inheritance" →
        ∃ text, Table.fieldD options key default Value.text? = some text :=
      fun key default hkey => Table.exists_fieldD default fun value hvalue =>
        (hsuits key value hvalue).exists_text hkey
    obtain ⟨flag, hflag⟩ := Table.exists_fieldD standard.vectorizeInheritance
      fun value hvalue => (hsuits "vectorize_inheritance" value hvalue).exists_flag
    obtain ⟨staticName, hstatic⟩ := hname "static_name" standard.staticName (by decide)
    obtain ⟨accessorName, haccessor⟩ := hname "accessor_name" standard.accessorName (by decide)
    obtain ⟨cacheTypeName, hcacheType⟩ := hname "cache_type_name" standard.cacheTypeName (by decide)
    obtain ⟨runtimePath, hruntime⟩ := hname "runtime_path" standard.runtimePath (by decide)
    exact ⟨⟨flag, staticName, accessorName, cacheTypeName, runtimePath⟩,
      ofToml?_table_eq_some_iff_fields.mpr
        ⟨hknown, hflag, hstatic, haccessor, hcacheType, hruntime⟩⟩

/-- Outside the value under `lut` every number can be represented. -/
def RestIsReadable (rows : Table) : Prop :=
  ∀ row ∈ rows, row.1 ≠ "lut" → row.2.isReadable = true

instance (rows : Table) : Decidable (RestIsReadable rows) :=
  inferInstanceAs (Decidable (∀ _ ∈ _, _ → _))

private theorem ofTable?_eq (rows : Table) :
    ofTable? rows = if RestIsReadable rows then rows.fieldD "lut" standard ofToml? else none := by
  have hiff : (rows.all fun row => row.1 == "lut" || row.2.isReadable) = true ↔
      RestIsReadable rows := by
    simp only [List.all_eq_true, Bool.or_eq_true, beq_iff_eq, RestIsReadable,
      Decidable.or_iff_not_imp_left, ne_eq]
  unfold ofTable?
  split
  next hall => rw [if_pos (hiff.mp hall)]
  next hall => rw [if_neg (mt hiff.mpr hall)]

private theorem read_eq_ok_iff : read text = .ok settings ↔ parse? text = some settings := by
  unfold read
  cases parse? text <;> simp

/-- A number that cannot be represented is not passed over, though nothing asks for it. -/
theorem read_of_not_restIsReadable (hparse : Toml.parse? text = some rows)
    (hrest : ¬RestIsReadable rows) : read text = .error .malformedSettings := by
  rw [read, parse?, hparse, Option.bind_some, ofTable?_eq, if_neg hrest]

/-- Of a document whose numbers can be represented only the value under `lut` counts. -/
theorem parse?_of_restIsReadable (hparse : Toml.parse? text = some rows)
    (hrest : RestIsReadable rows) : parse? text = rows.fieldD "lut" standard ofToml? := by
  rw [parse?, hparse, Option.bind_some, ofTable?_eq, if_pos hrest]

/-- Documents that agree under `lut` give the same settings or the same error. A table under `lut` gives
    settings exactly if its keys are options with values of their types; each option is then as given
    or standard, and a key that is no option is an error. -/
theorem read_of_restIsReadable (hparse : Toml.parse? text = some rows)
    (hrest : RestIsReadable rows) :
    (∀ other others, Toml.parse? other = some others → RestIsReadable others →
      others.lookup "lut" = rows.lookup "lut" → read other = read text) ∧
    ∀ options, rows.lookup "lut" = some (.table options) →
      ((∃ settings, read text = .ok settings) ↔
        ∀ key value, options.lookup key = some value → Suits key value) ∧
      (∀ settings, read text = .ok settings → ∀ key ∈ fields,
        settings.toTable.lookup key = (options.lookup key).or (standard.toTable.lookup key)) ∧
      ((∃ row ∈ options, row.1 ∉ fields) → read text = .error .malformedSettings) := by
  have hsettings := parse?_of_restIsReadable hparse hrest
  refine ⟨fun other others hother hothers hsame => ?_, fun options hlut => ?_⟩
  · rw [read, read, hsettings, parse?_of_restIsReadable hother hothers, Table.fieldD, Table.fieldD,
      hsame]
  · replace hsettings : parse? text = ofToml? (.table options) := by
      rw [hsettings, Table.fieldD, hlut]
    simp only [read_eq_ok_iff, hsettings]
    refine ⟨exists_ofToml?_table_iff, fun settings hgiven key hkey => ?_, ?_⟩
    · exact ((ofToml?_table_eq_some_iff.mp hgiven).2 key hkey).symm
    · rintro ⟨row, hrow, hunknown⟩
      have hnone : ofToml? (.table options) = none := by
        rw [Option.eq_none_iff_forall_ne_some]
        intro settings hgiven
        exact hunknown ((ofToml?_table_eq_some_iff.mp hgiven).1 row hrow)
      rw [read, hsettings, hnone]

/-- Settings in a file of their own. -/
def aloneDocument : String := "[lut]\naccessor_name = \"retainer_for\"\n"

/-- The same settings among those of others. -/
def sharedDocument : String :=
  "name = \"app\"\nlut.accessor_name = \"retainer_for\"\n[build]\nlevel = 3\n"

/-- Settings with an option that does not exist. -/
def misspeltDocument : String := "[lut]\nvectorise = true\n"

theorem read_of_restIsReadable_shared :
    read sharedDocument = read aloneDocument ∧
      (∃ settings, read aloneDocument = .ok settings ∧
        settings.toTable.lookup "accessor_name" = some (.string "retainer_for")) ∧
      read misspeltDocument = .error .malformedSettings := by
  have halone : Toml.parse? aloneDocument =
      some [("lut", .table [("accessor_name", .string "retainer_for")])] := by decide +kernel
  have hshared : Toml.parse? sharedDocument =
      some [("name", .string "app"), ("lut", .table [("accessor_name", .string "retainer_for")]),
        ("build", .table [("level", .number true)])] := by decide +kernel
  have hmisspelt : Toml.parse? misspeltDocument =
      some [("lut", .table [("vectorise", .boolean true)])] := by decide +kernel
  obtain ⟨hsame, htable⟩ := read_of_restIsReadable halone (by decide)
  obtain ⟨hreads, hgiven, -⟩ := htable [("accessor_name", .string "retainer_for")] (by decide +kernel)
  obtain ⟨-, -, hunknown⟩ := (read_of_restIsReadable hmisspelt (by decide)).2
    [("vectorise", .boolean true)] (by decide +kernel)
  refine ⟨hsame _ _ hshared (by decide) (by decide +kernel), ?_, hunknown (by decide)⟩
  obtain ⟨settings, hsettings⟩ := hreads.mpr fun key value hlookup => by
    obtain ⟨rfl, rfl⟩ := by simpa using AssociationList.mem_of_lookup hlookup
    decide
  exact ⟨settings, hsettings, hgiven settings hsettings "accessor_name" (by decide)⟩

/-- A document with a number that cannot be represented. -/
def hugeDocument : String := "x = 9999999999999999999999999999999999999999\n"

/-- It has nothing under `lut`, like the empty document, and yet it gives no settings. -/
theorem read_hugeDocument :
    ∃ rows others, Toml.parse? hugeDocument = some rows ∧ Toml.parse? "" = some others ∧
      rows.lookup "lut" = others.lookup "lut" ∧
      read hugeDocument = .error .malformedSettings ∧ read "" = .ok standard := by
  have hparse : Toml.parse? hugeDocument = some [("x", .number false)] := by decide +kernel
  refine ⟨_, [], hparse, by decide +kernel, by decide +kernel, ?_, ?_⟩
  · exact read_of_not_restIsReadable hparse (by decide)
  · exact read_eq_ok_iff.mpr (by decide +kernel)

end Settings

end RetainerTable
