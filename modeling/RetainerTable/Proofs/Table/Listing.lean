import RetainerTable.Proofs.Registration

/-!
Listings of tables.

A listing has a line for each row, and one more for each line feed in the names that the rows hold, since
it takes names as they are (`length_lines_describe`). Where no name has a line feed the lines are those of
the rows, and where no ancestor's name has a `>` no line is also that of another row
(`Row.eq_of_description_eq`).
-/

namespace RetainerTable

open RetainerTable.Text

/-- The part of an ended text behind its last stop, and the part in front of that. -/
theorem eq_of_append_stop {stop : Char} {front front' behind behind' : List Char}
    (hbehind : stop ∉ behind) (hbehind' : stop ∉ behind')
    (heq : front ++ stop :: behind = front' ++ stop :: behind') :
    front = front' ∧ behind = behind' := by
  have htail : ∀ (front : List Char) {behind : List Char}, stop ∉ behind →
      (front ++ stop :: behind).reverse.takeWhile (· ≠ stop) = behind.reverse := by
    intro front behind hnone
    have hstop := forall_ne_of_notMem (mt List.mem_reverse.mp hnone)
    rw [List.reverse_append, List.reverse_cons, List.append_assoc,
      List.takeWhile_append_of_pos hstop]
    simp
  have hreverse : behind.reverse = behind'.reverse := by
    rw [← htail front hbehind, heq, htail front' hbehind']
  obtain rfl := List.reverse_injective hreverse
  exact ⟨List.append_cancel_right heq, rfl⟩

/-- The number of line feeds in the names. -/
def newlines (names : List String) : Nat := (names.map fun name => name.toList.count '\n').sum

private theorem newlines_eq_zero_iff {names : List String} :
    newlines names = 0 ↔ ∀ name ∈ names, '\n' ∉ name.toList := by
  simp [newlines, List.sum_eq_zero_iff_forall_eq_nat, List.count_eq_zero]

/-- What the line of a row says behind its retainer. -/
def Origin.note : Origin → String
  | .explicit => ""
  | .derived ancestor => " (inherited from " ++ ancestor ++ ")"

private theorem Origin.note_explicit : note .explicit = "" := rfl

private theorem Origin.note_derived (ancestor : String) :
    note (.derived ancestor) = " (inherited from " ++ ancestor ++ ")" := rfl

private theorem Origin.count_newline_note (origin : Origin) :
    origin.note.toList.count '\n' = newlines origin.ancestor?.toList := by
  cases origin with
  | explicit => rfl
  | derived ancestor => simp [note_derived, newlines, ancestor?]

private theorem Origin.greater_notMem_note {origin : Origin}
    (hancestor : ∀ ancestor, origin = .derived ancestor → '>' ∉ ancestor.toList) :
    '>' ∉ origin.note.toList := by
  cases origin with
  | explicit => exact List.not_mem_nil
  | derived ancestor => simp [note_derived, hancestor ancestor rfl]

private theorem Origin.note_injective {origin origin' : Origin} (hnote : origin.note = origin'.note) :
    origin = origin' := by
  have hlist := congrArg String.toList hnote
  cases origin <;> cases origin' <;> simp_all [note_explicit, note_derived]

namespace Row

/-- The names that a row holds, as they are. -/
def names (row : Row) : List String := row.typeName :: row.origin.ancestor?.toList

variable {row other : Row}

private theorem toList_description (row : Row) : row.description.toList =
    (row.typeName.toList ++ [' ', '-']) ++
      '>' :: ' ' :: (row.retainer.text.toList ++ row.origin.note.toList) := by
  have hdescription : row.description =
      row.typeName ++ (" -> " ++ (row.retainer.text ++ row.origin.note)) := by
    unfold description Origin.note
    cases row.origin <;> simp [String.append_assoc]
  rw [hdescription]
  simp

/-- A line feed in the line of a row is one of its names'. -/
theorem count_newline_description (hrow : row.retainer.WellSpelled) :
    row.description.toList.count '\n' = newlines row.names := by
  have htext : row.retainer.text.toList.count '\n' = 0 :=
    List.count_eq_zero.mpr (newline_notMem_text hrow)
  simp [toList_description, names, newlines, Origin.count_newline_note, htext]

private theorem newline_notMem_description_iff (hrow : row.retainer.WellSpelled) :
    '\n' ∉ row.description.toList ↔ ∀ name ∈ row.names, '\n' ∉ name.toList := by
  rw [← List.count_eq_zero, count_newline_description hrow, newlines_eq_zero_iff]

private theorem space_notMem_text {path : Source.Path} (hpath : path.WellSpelled) :
    ' ' ∉ path.text.toList := by
  have hcontinue : isIdentContinue ' ' = false := by decide +kernel
  exact Source.Path.notMem_text hpath hcontinue (by simp) (by simp)

private theorem greater_notMem_text {path : Source.Path} (hpath : path.WellSpelled) :
    '>' ∉ path.text.toList := by
  have hcontinue : isIdentContinue '>' = false := by decide +kernel
  exact Source.Path.notMem_text hpath hcontinue (by simp) (by simp)

private theorem takeWhile_text_note {path : Source.Path} (hpath : path.WellSpelled) (origin : Origin) :
    (path.text.toList ++ origin.note.toList).takeWhile (· ≠ ' ') = path.text.toList := by
  rw [List.takeWhile_append_of_pos (forall_ne_of_notMem (space_notMem_text hpath))]
  cases origin with
  | explicit => simp [Origin.note_explicit]
  | derived ancestor => simp [Origin.note_derived]

/-- No line is that of two rows, provided that their ancestors' names have no `>`. -/
theorem eq_of_description_eq (hrow : row.retainer.WellSpelled) (hother : other.retainer.WellSpelled)
    (hancestor : ∀ ancestor, row.origin = .derived ancestor → '>' ∉ ancestor.toList)
    (hancestor' : ∀ ancestor, other.origin = .derived ancestor → '>' ∉ ancestor.toList)
    (heq : other.description = row.description) : other = row := by
  -- The last `>` of a line is that of its arrow, since there is none behind it.
  have hbehind : ∀ {row : Row}, row.retainer.WellSpelled →
      (∀ ancestor, row.origin = .derived ancestor → '>' ∉ ancestor.toList) →
      '>' ∉ ' ' :: (row.retainer.text.toList ++ row.origin.note.toList) := by
    intro row hrow hancestor
    simp [greater_notMem_text hrow, Origin.greater_notMem_note hancestor]
  have hlist := congrArg String.toList heq
  rw [toList_description, toList_description] at hlist
  obtain ⟨hname, hrest⟩ :=
    eq_of_append_stop (hbehind hother hancestor') (hbehind hrow hancestor) hlist
  have hrest := (List.cons.inj hrest).2
  have htext : other.retainer.text = row.retainer.text := by
    rw [← String.toList_inj, ← takeWhile_text_note hother other.origin, hrest,
      takeWhile_text_note hrow]
  rw [htext] at hrest
  have hnote := String.toList_inj.mp (List.append_cancel_left hrest)
  have htypeName := String.toList_inj.mp (List.append_cancel_right hname)
  obtain ⟨typeName, retainer, origin⟩ := other
  obtain rfl : typeName = row.typeName := htypeName
  obtain rfl := Source.Path.text_injective hother hrow htext
  obtain rfl := Origin.note_injective hnote
  rfl

/-- An ancestor's name with an arrow can take in the end of another type's name. -/
example : description ⟨"A", sampleRetainer, .derived "B -> a::B (inherited from C"⟩ =
    description ⟨"A -> a::B (inherited from B", sampleRetainer, .derived "C"⟩ := by rfl

end Row

namespace Table

/-- The names that the rows hold. -/
def names (table : Table) : List String := table.rows.toList.flatMap Row.names

variable {table : Table}

private theorem length_lines_describe (htable : table.WellSpelled) :
    (lines table.describe.toList).length = table.size + newlines table.names := by
  have hcounts : (table.rows.toList.map Row.description).map (fun line => line.toList.count '\n') =
      table.rows.toList.map fun row => newlines row.names := by
    rw [List.map_map]
    exact List.map_congr_left fun row hrow =>
      Row.count_newline_description (htable row (Array.mem_toList_iff.mp hrow))
  rw [describe, length_lines_unlines, hcounts, List.length_map, Array.length_toList, size, newlines,
    names, List.map_flatMap, List.flatMap, List.sum_flatten, List.map_map]
  rfl

/-- The lines of a listing are those of the rows if no name has a line feed. -/
theorem lines_describe (htable : table.WellSpelled)
    (hnames : ∀ name ∈ table.names, '\n' ∉ name.toList) :
    lines table.describe.toList = table.rows.toList.map fun row => row.description.toList := by
  have hlines : ∀ line ∈ table.rows.toList.map Row.description, '\n' ∉ line.toList := by
    intro line hline
    obtain ⟨row, hrow, rfl⟩ := List.mem_map.mp hline
    have hspelled := htable row (Array.mem_toList_iff.mp hrow)
    exact (Row.newline_notMem_description_iff hspelled).mpr fun name hname =>
      hnames name (List.mem_flatMap.mpr ⟨row, hrow, hname⟩)
  rw [describe, lines_unlines hlines, List.map_map]
  rfl

end Table

variable {settings : Settings} {manifest : Manifest} {generation : Generation}

/-- A generated table is listed with a line for each row and one more for each line feed in a type's or
    an ancestor's name. So there is exactly one line for each row if and only if no name has a line feed,
    and then each row is on its line. Unless the name of an ancestor has a `>`, no line of a row is also
    that of another. -/
theorem generateFromManifest_listing
    (hgenerated : generateFromManifest settings manifest = .ok generation) :
    (lines generation.table.describe.toList).length =
      generation.table.size + newlines generation.table.names ∧
    ((lines generation.table.describe.toList).length = generation.table.size ↔
      ∀ name ∈ generation.table.names, '\n' ∉ name.toList) ∧
    (lines generation.table.describe.toList =
        generation.table.rows.toList.map (fun row => row.description.toList) ↔
      ∀ name ∈ generation.table.names, '\n' ∉ name.toList) ∧
    ∀ row ∈ generation.table.rows, ∀ other : Row, other.retainer.WellSpelled →
      (∀ ancestor, row.origin = .derived ancestor → '>' ∉ ancestor.toList) →
      (∀ ancestor, other.origin = .derived ancestor → '>' ∉ ancestor.toList) →
      other.description = row.description → other = row := by
  have htable := (read_of_generate hgenerated).wellSpelled
  have hlength := Table.length_lines_describe htable
  have hcount : (lines generation.table.describe.toList).length = generation.table.size ↔
      ∀ name ∈ generation.table.names, '\n' ∉ name.toList := by
    rw [hlength, ← newlines_eq_zero_iff]
    omega
  refine ⟨hlength, hcount, ⟨fun hlines => ?_, Table.lines_describe htable⟩, ?_⟩
  · rw [← hcount, hlines, List.length_map]
    rfl
  · intro row hrow other hother hancestor hancestor' heq
    exact Row.eq_of_description_eq (htable row hrow) hother hancestor hancestor' heq

/-- Types need not be declared to be given retainers. -/
theorem generateFromManifest_undeclared {pairs : List (String × String)}
    {associations : Associations} (hcollect : Associations.collect pairs = .ok associations) :
    generateFromManifest .standard ⟨[], pairs⟩ =
      .ok (generated .standard ⟨[], .nil, by simp⟩ [] associations (Associations.notes pairs)) := by
  have hmanifest : Hierarchy.ofManifest ⟨[], pairs⟩ = .ok ⟨[], .nil, by simp⟩ := rfl
  have hvalid : Settings.standard.validate = .ok () :=
    eq_ok_of_map_toOption Function.injective_id (by decide +kernel)
  exact generateFromManifest_eq_ok_iff.mpr ⟨_, hmanifest, hvalid, _, hcollect, rfl⟩

/-- A manifest that gives each of two types a retainer. -/
def pairManifest : Manifest := ⟨[], [("Base", "a::B"), ("Leaf", "a::B")]⟩

def pairAssociations : Associations :=
  ⟨[("Base", sampleRetainer), ("Leaf", sampleRetainer)], by decide +kernel⟩

private theorem generateFromManifest_pair : generateFromManifest .standard pairManifest =
    .ok (generated .standard ⟨[], .nil, by simp⟩ [] pairAssociations
      (Associations.notes pairManifest.associations)) :=
  generateFromManifest_undeclared
    (eq_ok_of_map_toOption (fun _ _ => NameMap.ext) (by decide +kernel))

/-- Both rows are on their lines, and no other explicit row would be on the first of them. -/
theorem generateFromManifest_listing_pair : ∃ generation,
    generateFromManifest .standard pairManifest = .ok generation ∧
    lines generation.table.describe.toList = ["Base -> a::B".toList, "Leaf -> a::B".toList] ∧
    ∀ other : Row, other.retainer.WellSpelled → other.origin = .explicit →
      other.description = "Base -> a::B" → other = ⟨"Base", sampleRetainer, .explicit⟩ := by
  obtain ⟨-, -, hlines, hrows⟩ := generateFromManifest_listing generateFromManifest_pair
  refine ⟨_, generateFromManifest_pair, ?_, fun other hother horigin hline => ?_⟩
  · have hnames : ∀ name ∈ (tableOf .standard ⟨[], .nil, by simp⟩ []
        pairAssociations).names, '\n' ∉ name.toList := by decide +kernel
    rw [hlines.mpr hnames]
    decide +kernel
  · refine hrows _ (mem_rows_tableOf.mpr (.inl ⟨rfl, rfl⟩)) other hother ?_ ?_ hline
    · intro ancestor hderived
      cases hderived
    · intro ancestor hderived
      rw [horigin] at hderived
      cases hderived

/-- A manifest that gives one type a retainer, whose name has a line feed. -/
def forgedManifest : Manifest := ⟨[], [("Base -> a::B\nLeaf", "a::B")]⟩

def forgedAssociations : Associations :=
  ⟨[("Base -> a::B\nLeaf", sampleRetainer)], List.pairwise_singleton ..⟩

private theorem generateFromManifest_forged : generateFromManifest .standard forgedManifest =
    .ok (generated .standard ⟨[], .nil, by simp⟩ [] forgedAssociations
      (Associations.notes forgedManifest.associations)) :=
  generateFromManifest_undeclared
    (eq_ok_of_map_toOption (fun _ _ => NameMap.ext) (by decide +kernel))

/-- One row is listed on two lines, which are those of the rows of another table. -/
theorem describe_forged : ∃ forged pair,
    generateFromManifest .standard forgedManifest = .ok forged ∧
    generateFromManifest .standard pairManifest = .ok pair ∧
    forged.table.size = 1 ∧ (lines forged.table.describe.toList).length = 2 ∧
    pair.table.size = 2 ∧ forged.table.describe = pair.table.describe := by
  refine ⟨_, _, generateFromManifest_forged, generateFromManifest_pair, ?_, ?_, ?_, ?_⟩
  · decide +kernel
  · decide +kernel
  · decide +kernel
  · decide +kernel

end RetainerTable
