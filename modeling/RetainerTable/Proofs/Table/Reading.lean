import RetainerTable.Proofs.Source.Quoted
import RetainerTable.Proofs.Source.Spelling
import RetainerTable.Proofs.Table.Merge
import RetainerTable.Proofs.Text.Lines
import RetainerTable.Table.Render

/-!
Rendered tables read back.

`Statement.read?` reads one line and admits nothing on it but a statement and its comment; `block?`
finds the lines between the one that makes the builder and the one that builds the table. Every row
is read back from its line (`read?_statement`), so a rendered table is read back row by row
(`map_read?_lines`, `statements?_render`).
-/

namespace RetainerTable

open RetainerTable.Text

/-- What a statement enters: a type name, the spelling of a retainer and, in the comment, the
    ancestor it is inherited from. -/
structure Statement where
  typeName : String
  retainer : String
  ancestor : Option String
  deriving Repr, DecidableEq

/-- The ancestor that a derived row names. -/
def Origin.ancestor? : Origin → Option String
  | .explicit => none
  | .derived ancestor => some ancestor

/-- What the row's statement is to enter. -/
def Row.said (row : Row) : Statement :=
  ⟨row.typeName, row.retainer.text, row.origin.ancestor?⟩

namespace Statement

/-- The ancestor named at the end of a line, where nothing or one comment stands. -/
def readAncestor? (comment : List Char) : Option (Option String) :=
  if comment = [] then some none
  else do
    let escaped ← after? " // inherited from ".toList comment
    let ancestor ← Source.unescape? escaped
    some (some ancestor)

/-- The statement on a line. The type name is what its literal spells, the retainer all that stands
    between the ampersand and the closing parenthesis. -/
def read? (line : List Char) : Option Statement := do
  let rest ← after? "\ttable.insert(".toList line
  let (typeName, rest) ← Source.textLiteral? rest
  let rest ← after? ", &".toList rest
  let retainer := rest.takeWhile (· ≠ ')')
  let rest ← after? ");".toList (rest.drop retainer.length)
  let ancestor ← readAncestor? rest
  some ⟨typeName, String.ofList retainer, ancestor⟩

end Statement

namespace Settings

/-- The static up to the body of its initializer. -/
def initializer (settings : Settings) : String :=
  "static " ++ settings.staticName ++ ": ::std::sync::LazyLock<" ++ settings.runtimePath
    ++ "::HandlerTable> = ::std::sync::LazyLock::new(|| "

/-- The lines before the statements, from the header on. -/
def openingLines (settings : Settings) : List String :=
  [settings.initializer ++ "\x7b",
   "\tlet mut table = " ++ settings.runtimePath ++ "::HandlerTable::builder();"]

def closingLines (settings : Settings) : List String :=
  ["\ttable.build()", "\x7d);"] ++ Table.accessorLines settings ++ Table.viewLines settings

/-- The text between the line that makes the builder and the line that builds the table; `none` if
    the source has no such lines. -/
def block? (settings : Settings) (source : String) : Option (List Char) := do
  let opening := (unlines settings.openingLines).toList
  let closing := (unlines settings.closingLines).toList
  let rest ← after? opening (afterLines 3 source.toList)
  if closing <:+ rest then some (rest.take (rest.length - closing.length)) else none

/-- The statements of a rendered table in their order; `none` if a line of its block is no statement.
    A source without a block has no statements. -/
def statements? (settings : Settings) (source : String) : Option (List Statement) :=
  match settings.block? source with
  | some block => (lines block).mapM Statement.read?
  | none => some []

end Settings

variable {row : Row} {table : Table}

private theorem closingParenthesis_notMem_text {path : Source.Path} (hpath : path.WellSpelled) :
    ')' ∉ path.text.toList := by
  have hcontinue : isIdentContinue ')' = false := by decide +kernel
  exact Source.Path.notMem_text hpath hcontinue (by simp) (by simp)

theorem newline_notMem_text {path : Source.Path} (hpath : path.WellSpelled) :
    '\n' ∉ path.text.toList := by
  have hcontinue : isIdentContinue '\n' = false := by decide +kernel
  exact Source.Path.notMem_text hpath hcontinue (by simp) (by simp)

def Origin.comment : Origin → String
  | .explicit => ""
  | .derived ancestor => " // inherited from " ++ inComment ancestor

private theorem Row.statement_eq (row : Row) : row.statement =
    "\ttable.insert(" ++ (literal row.typeName ++ (", &" ++ (row.retainer.text ++ (");" ++
      row.origin.comment)))) := by
  unfold statement Origin.comment
  cases row.origin <;> simp [String.append_assoc]

private theorem Statement.readAncestor?_comment (origin : Origin) :
    readAncestor? origin.comment.toList = some origin.ancestor? := by
  cases origin with
  | explicit => rfl
  | derived ancestor =>
    have hsome : " // inherited from ".toList ++ (inComment ancestor).toList ≠ [] := by simp
    unfold Origin.comment
    rw [String.toList_append, readAncestor?, if_neg hsome, after?_append]
    simp only [Option.bind_eq_bind, Option.bind_some, Source.unescape?_inComment, Origin.ancestor?]

private theorem newline_notMem_comment (origin : Origin) : '\n' ∉ origin.comment.toList := by
  cases origin with
  | explicit => decide
  | derived ancestor =>
    have hancestor := newline_notMem_inComment ancestor
    unfold Origin.comment
    simp only [String.toList_append, List.mem_append, hancestor, or_false]
    decide

theorem newline_notMem_statement (hrow : row.retainer.WellSpelled) :
    '\n' ∉ row.statement.toList := by
  have hname := newline_notMem_literal row.typeName
  have hretainer := newline_notMem_text hrow
  have hcomment := newline_notMem_comment row.origin
  rw [Row.statement_eq]
  simp only [String.toList_append, List.mem_append, hname, hretainer, hcomment, or_false, false_or]
  decide

/-- The line of a row is one statement: it enters the row's type name and retainer and, in its
    comment, names the ancestor of a derived row. -/
theorem Statement.read?_statement (hrow : row.retainer.WellSpelled) :
    read? row.statement.toList = some row.said := by
  have hstop := forall_ne_of_notMem (closingParenthesis_notMem_text hrow)
  have hretainer : (row.retainer.text.toList ++ (");".toList ++ row.origin.comment.toList)).takeWhile
      (· ≠ ')') = row.retainer.text.toList := by
    rw [List.takeWhile_append_of_pos hstop]
    simp
  rw [Row.statement_eq]
  simp only [String.toList_append]
  unfold read?
  simp only [after?_append, Source.textLiteral?_literal, Option.bind_eq_bind, Option.bind_some,
    hretainer, List.drop_left, readAncestor?_comment, String.ofList_toList, Row.said]

namespace Table

variable {settings : Settings}

theorem newline_notMem_headerLines (table : Table) :
    ∀ line ∈ headerLines table, '\n' ∉ line.toList := by
  have hcount : ∀ n : Nat, '\n' ∉ (toString n).toList := by
    intro n
    rw [Nat.toString_eq_repr, Nat.toList_repr]
    exact newline_notMem_toDigits (by decide) (by decide) n
  intro line hline
  simp only [headerLines, List.mem_cons, List.not_mem_nil, or_false] at hline
  rcases hline with rfl | rfl | rfl
  · decide
  · simp only [String.toList_append, List.mem_append, hcount, or_false]
    decide
  · decide

/-- A table with rows is written as the header, the opening, the statements and the closing. -/
theorem render_of_rows (hrows : table.isEmpty = false) : table.render settings =
    unlines (headerLines table) ++ (unlines settings.openingLines ++
      (unlines (table.rows.toList.map Row.statement) ++ unlines settings.closingLines)) := by
  have hstatic : staticLines settings table = settings.openingLines ++
      table.rows.toList.map Row.statement ++ ["\ttable.build()", "\x7d);"] := by
    unfold staticLines
    rw [hrows]
    rfl
  simp only [render, hstatic, Settings.closingLines, unlines_append, String.append_assoc]

/-- A table without rows is written as the header and an initializer without statements. -/
theorem render_of_isEmpty (hrows : table.isEmpty = true) : table.render settings =
    unlines (headerLines table) ++ (settings.initializer ++ (settings.runtimePath ++
      ("::HandlerTable::builder().build());" ++ ("\n" ++
        unlines (accessorLines settings ++ viewLines settings))))) := by
  have hstatic : staticLines settings table =
      [settings.initializer ++ settings.runtimePath ++ "::HandlerTable::builder().build());"] := by
    unfold staticLines
    rw [hrows]
    rfl
  simp only [render, hstatic, unlines_append, unlines_cons, unlines_nil, String.append_empty,
    String.append_assoc]

private theorem afterLines_header (table : Table) (rest : List Char) :
    afterLines 3 ((unlines (headerLines table)).toList ++ rest) = rest :=
  afterLines_unlines (newline_notMem_headerLines table) rest

private theorem block?_render (hrows : table.isEmpty = false) : settings.block? (table.render settings) =
    some (unlines (table.rows.toList.map Row.statement)).toList := by
  rw [render_of_rows hrows, Settings.block?]
  simp only [String.toList_append, afterLines_header, after?_append, Option.bind_eq_bind,
    Option.bind_some, List.suffix_append, ↓reduceIte, List.length_append, Nat.add_sub_cancel,
    List.take_left]

/-- Characters without a colon do not fit in between a text and the colon that follows it. -/
theorem not_prefix_of_inset {inset : List Char} (hne : inset ≠ []) (hinset : ':' ∉ inset)
    (text rest tail : List Char) : ¬inset ++ (text ++ rest) <+: text ++ ':' :: tail := by
  intro hprefix
  rw [← List.append_assoc] at hprefix
  have hshort : inset ++ text <+: text ++ ':' :: tail := (List.prefix_append _ rest).trans hprefix
  have htake := List.prefix_iff_eq_take.mp hshort
  rw [List.length_append, Nat.add_comm, List.take_length_add_append] at htake
  have hcount := congrArg (List.count ':') htake
  rw [List.count_append, List.count_append, List.count_eq_zero.mpr hinset] at hcount
  obtain ⟨c, cs, rfl⟩ := List.exists_cons_of_ne_nil hne
  rw [List.length_cons, List.take_succ_cons, List.count_cons_self] at hcount
  omega

/-- The source of a table without rows has no block of statements. -/
theorem block?_render_of_isEmpty (hrows : table.isEmpty = true) :
    settings.block? (table.render settings) = none := by
  have hopening : unlines settings.openingLines = settings.initializer ++
      ("\x7b\n\tlet mut table = " ++ (settings.runtimePath ++ "::HandlerTable::builder();\n")) := by
    simp only [Settings.openingLines, unlines_cons, unlines_nil, String.append_assoc,
      String.append_empty]
    rfl
  have hno : ¬(unlines settings.openingLines).toList <+:
      afterLines 3 (table.render settings).toList := by
    rw [render_of_isEmpty hrows, hopening]
    simp only [String.toList_append, afterLines_header, List.prefix_append_right_inj]
    exact not_prefix_of_inset (by decide) (by decide) _ _ _
  rw [Settings.block?, after?, if_neg hno]
  rfl

/-- The table's retainers are spelled as paths are. -/
def WellSpelled (table : Table) : Prop :=
  ∀ row ∈ table.rows, row.retainer.WellSpelled

private theorem map_read?_lines (htable : table.WellSpelled) :
    (lines (unlines (table.rows.toList.map Row.statement)).toList).map Statement.read? =
      table.rows.toList.map fun row => some row.said := by
  have hrows : ∀ row ∈ table.rows.toList, row.retainer.WellSpelled :=
    fun row hrow => htable row (Array.mem_toList_iff.mp hrow)
  rw [lines_unlines, List.map_map, List.map_map]
  · exact List.map_congr_left fun row hrow => Statement.read?_statement (hrows row hrow)
  · intro line hline
    obtain ⟨row, hrow, rfl⟩ := List.mem_map.mp hline
    exact newline_notMem_statement (hrows row hrow)

/-- The statements of a rendered table are those of its rows. -/
theorem statements?_render (settings : Settings) (htable : table.WellSpelled) :
    settings.statements? (table.render settings) = some (table.rows.toList.map Row.said) := by
  unfold Settings.statements?
  cases hrows : table.isEmpty with
  | true =>
    have hnil : table.rows.toList = [] := by simpa [isEmpty] using hrows
    simp [block?_render_of_isEmpty hrows, hnil]
  | false =>
    have hread := congrArg (List.mapM id) (map_read?_lines htable)
    rw [List.mapM_map, List.mapM_map, Function.id_comp] at hread
    rw [block?_render hrows]
    exact hread.trans List.mapM_pure

private theorem said_injective {first second : Row} (hfirst : first.retainer.WellSpelled)
    (hsecond : second.retainer.WellSpelled) (hsaid : first.said = second.said) :
    first = second := by
  obtain ⟨name, retainer, origin⟩ := first
  obtain ⟨name', retainer', origin'⟩ := second
  simp only [Row.said, Statement.mk.injEq] at hsaid
  obtain ⟨rfl, hretainer, horigin⟩ := hsaid
  obtain rfl := Source.Path.text_injective hfirst hsecond hretainer
  have heq : origin = origin' := by
    cases origin <;> cases origin' <;> simp_all [Origin.ancestor?]
  rw [heq]

/-- Tables that are rendered alike are equal. -/
theorem eq_of_render_eq {first second : Table} (hfirst : first.WellSpelled)
    (hsecond : second.WellSpelled) (hrender : first.render settings = second.render settings) :
    first = second := by
  have hsaid : first.rows.toList.map Row.said = second.rows.toList.map Row.said := by
    have hstatements := statements?_render settings hfirst
    rw [hrender, statements?_render settings hsecond] at hstatements
    exact (Option.some.inj hstatements).symm
  have hrows : first.rows.toList = second.rows.toList := by
    refine Source.eq_of_map_eq (fun row hrow other hother heq => ?_) hsaid
    exact said_injective (hfirst row (Array.mem_toList_iff.mp hrow))
      (hsecond other (Array.mem_toList_iff.mp hother)) heq
  exact eq_of_mem_rows_iff fun row => by rw [← Array.mem_toList_iff, hrows, Array.mem_toList_iff]

/-- The table was merged from associations and inherited retainers that were read from texts. -/
def Read (table : Table) : Prop :=
  ∃ (associations : Associations) (derived : NameMap Inherited),
    (∀ name retainer, associations.get? name = some retainer →
      ∃ text, Associations.retainer? text = some retainer) ∧
    (∀ name inherited, derived.get? name = some inherited →
      ∃ text, Associations.retainer? text = some inherited.retainer) ∧
    merge associations derived = .ok table

theorem Read.wellSpelled (hread : table.Read) : table.WellSpelled := by
  obtain ⟨associations, derived, hassociations, hderived, hmerge⟩ := hread
  intro row hrow
  have htext : ∃ text, Associations.retainer? text = some row.retainer := by
    rcases (mem_rows_of_merge hmerge).mp hrow with ⟨hget, -⟩ | ⟨inherited, hget, hretainer, -⟩
    · exact hassociations _ _ hget
    · exact hretainer ▸ hderived _ _ hget
  obtain ⟨text, htext⟩ := htext
  exact Source.Path.wellSpelled_of_parse? htext

/-- Whatever the names are, a rendered table is read back: a table without rows has no block of
    statements, any other has one line for each row in table order, and the line is one statement that
    enters the row's type name and retainer and names the ancestor of a derived row. So tables that are
    rendered alike are equal. -/
theorem render_reads_back (settings : Settings) (hread : table.Read) :
    (table.isEmpty = true → settings.block? (table.render settings) = none) ∧
    (table.isEmpty = false → ∃ block, settings.block? (table.render settings) = some block ∧
      (lines block).length = table.size ∧
      (lines block).map Statement.read? = table.rows.toList.map fun row => some row.said) ∧
    ∀ other : Table, other.Read → other.render settings = table.render settings →
      other = table := by
  refine ⟨block?_render_of_isEmpty, fun hrows => ⟨_, block?_render hrows, ?_, ?_⟩, ?_⟩
  · have hlength := congrArg List.length (map_read?_lines hread.wellSpelled)
    simpa [size] using hlength
  · exact map_read?_lines hread.wellSpelled
  · intro other hother hrender
    exact eq_of_render_eq hother.wellSpelled hread.wellSpelled hrender

def plainRetainer : Source.Path := ⟨false, [⟨false, "a"⟩, ⟨false, "B"⟩]⟩

/-- An associated type whose name closes a literal, were it not escaped. -/
def quotedAssociations : Associations := ⟨[("\"Quoted\"\\", plainRetainer)], by simp⟩

/-- A type that inherits, its name and its ancestor's being such as to begin a line. -/
def brokenDerived : NameMap Inherited :=
  ⟨[("line\nbreak", ⟨plainRetainer, "it's\r\n\"Quoted\"\\"⟩)], by simp⟩

theorem render_reads_back_quoted : ∃ table, merge quotedAssociations brokenDerived = .ok table ∧
    ∃ block, Settings.standard.block? (table.render Settings.standard) = some block ∧
      (lines block).length = 2 ∧
      (lines block).map Statement.read? = [some ⟨"\"Quoted\"\\", "a::B", none⟩,
        some ⟨"line\nbreak", "a::B", some "it's\r\n\"Quoted\"\\"⟩] := by
  have hmerge : merge quotedAssociations brokenDerived = .ok _ :=
    merge_of_disjoint (overlap?_eq_none_iff.mp (by decide +kernel))
  have hspelled : ∃ text, Associations.retainer? text = some plainRetainer :=
    ⟨"a::B", by decide +kernel⟩
  have hread : Read (ofMap (combine quotedAssociations brokenDerived)) := by
    refine ⟨_, _, fun name retainer hget => ?_, fun name inherited hget => ?_, hmerge⟩
    · have hmem := NameMap.mem_toList_iff.mpr hget
      obtain ⟨rfl, rfl⟩ := Prod.mk.inj (List.mem_singleton.mp hmem)
      exact hspelled
    · have hmem := NameMap.mem_toList_iff.mpr hget
      obtain ⟨rfl, rfl⟩ := Prod.mk.inj (List.mem_singleton.mp hmem)
      exact hspelled
  obtain ⟨-, hrows, -⟩ := render_reads_back Settings.standard hread
  obtain ⟨block, hblock, hlength, hlines⟩ := hrows (by decide +kernel)
  refine ⟨_, hmerge, block, hblock, hlength.trans (by decide +kernel), hlines.trans ?_⟩
  decide +kernel

end Table

end RetainerTable
