import RetainerTable.Proofs.Source.Continuation
import RetainerTable.Proofs.Table.Reading

/-!
What the settings do to the source that they are spliced into.

The source is written from a template, whose lines have places for settings (`Table.template`,
`render_eq_unlines`). A setting is accepted for its tokens and spliced with all that stands around them:
its line feeds add lines, a line comment that it leaves open swallows what the template has behind it,
and a byte order mark in front of it makes the line unreadable. Nothing else can happen
(`validate_splices`).
-/

namespace RetainerTable

open RetainerTable.Text RetainerTable.Source

/-- The settings that stand in the source. -/
inductive Field
  | staticName | accessorName | cacheTypeName | runtimePath
  deriving Repr, DecidableEq

namespace Field

def value (settings : Settings) : Field → String
  | .staticName => settings.staticName
  | .accessorName => settings.accessorName
  | .cacheTypeName => settings.cacheTypeName
  | .runtimePath => settings.runtimePath

/-- What the template may have behind the setting. -/
def marks : Field → List Char
  | .runtimePath => [':']
  | _ => [':', '.', '<', ';', ' ']

end Field

/-- A part of a line: a text, or the place of a setting. -/
inductive Part
  | fixed (text : String)
  | value (field : Field)
  deriving Repr, DecidableEq

def Part.text (settings : Settings) : Part → String
  | .fixed text => text
  | .value field => field.value settings

def Part.field? : Part → Option Field
  | .fixed _ => none
  | .value field => some field

/-- The line with the settings in their places. -/
def splice (settings : Settings) : List Part → String
  | [] => ""
  | part :: line => part.text settings ++ splice settings line

/-- The places on the lines. -/
def places (lines : List (List Part)) : List Field :=
  lines.flatMap (List.filterMap Part.field?)

namespace Table

variable {settings : Settings} {table : Table}

/-- The beginning of the line that defines the static. -/
def opening : List Part :=
  [.fixed "static ", .value .staticName, .fixed ": ::std::sync::LazyLock<", .value .runtimePath,
   .fixed "::HandlerTable> = ::std::sync::LazyLock::new(|| "]

def builderLine : List Part :=
  [.fixed "\tlet mut table = ", .value .runtimePath, .fixed "::HandlerTable::builder();"]

def staticTemplate (table : Table) : List (List Part) :=
  if table.isEmpty then
    [opening ++ [.value .runtimePath, .fixed "::HandlerTable::builder().build());"]]
  else
    [opening ++ [.fixed "\x7b"], builderLine]
      ++ table.rows.toList.map (fun row => [.fixed row.statement])
      ++ [[.fixed "\ttable.build()"], [.fixed "\x7d);"]]

def accessorTemplate : List (List Part) :=
  [[.fixed ""],
   [.fixed "/// Returns the retainer registered for `type_name`, narrowed to `H`."],
   [.fixed "///"],
   [.fixed "/// `None` if the type has no retainer or its retainer is not an `H`."],
   [.fixed "pub fn ", .value .accessorName, .fixed ("<H: ::std::any::Any>(type_name: &str) -> "
     ++ "::std::option::Option<&'static H> \x7b")],
   [.fixed "\t", .value .staticName, .fixed ".get::<H>(type_name)"],
   [.fixed "\x7d"]]

def viewTemplate : List (List Part) :=
  [[.fixed ""],
   [.fixed "/// Type-erased view of the generated table."],
   [.fixed "pub struct ", .value .cacheTypeName, .fixed ";"],
   [.fixed ""],
   [.fixed "impl ", .value .runtimePath, .fixed "::RetainerCache for ", .value .cacheTypeName,
    .fixed " \x7b"],
   [.fixed "\tfn handler(&self, type_name: &str) -> ::std::option::Option<", .value .runtimePath,
    .fixed "::Handler> \x7b"],
   [.fixed "\t\t", .value .staticName, .fixed ".get_raw(type_name)"],
   [.fixed "\t\x7d"],
   [.fixed "\x7d"]]

/-- The lines of the source, with places for the settings. -/
def template (table : Table) : List (List Part) :=
  table.headerLines.map (fun line => [.fixed line]) ++ table.staticTemplate ++ accessorTemplate
    ++ viewTemplate

private theorem map_splice_fixed {α : Type} (settings : Settings) (line : α → String) (items : List α) :
    (items.map fun item => [Part.fixed (line item)]).map (splice settings) = items.map line := by
  rw [List.map_map]
  exact List.map_congr_left fun item _ => String.append_empty

private theorem map_splice_staticTemplate :
    table.staticTemplate.map (splice settings) = staticLines settings table := by
  unfold staticTemplate staticLines
  cases table.isEmpty with
  | true => simp [opening, splice, Part.text, Field.value, String.append_assoc]
  | false =>
    rw [if_neg Bool.false_ne_true, if_neg Bool.false_ne_true, List.map_append, List.map_append,
      map_splice_fixed]
    simp [opening, builderLine, splice, Part.text, Field.value, String.append_assoc]

private theorem map_splice_accessorTemplate :
    accessorTemplate.map (splice settings) = accessorLines settings := by
  simp [accessorTemplate, accessorLines, splice, Part.text, Field.value, String.append_assoc]

private theorem map_splice_viewTemplate : viewTemplate.map (splice settings) = viewLines settings := by
  simp [viewTemplate, viewLines, splice, Part.text, Field.value, String.append_assoc]

/-- The source is the template with the settings in their places. -/
theorem render_eq_unlines (settings : Settings) (table : Table) :
    table.render settings = unlines (table.template.map (splice settings)) := by
  have hheader := map_splice_fixed settings id table.headerLines
  rw [List.map_id] at hheader
  simp only [render, template, List.map_append, map_splice_staticTemplate,
    map_splice_accessorTemplate, map_splice_viewTemplate]
  exact congrArg (fun header => unlines (header ++ _ ++ _ ++ _)) hheader.symm

private theorem length_template (table : Table) :
    table.template.length = if table.isEmpty then 20 else 23 + table.size := by
  cases hrows : table.isEmpty with
  | true => simp [template, staticTemplate, hrows, headerLines, accessorTemplate, viewTemplate]
  | false =>
    simp [template, staticTemplate, hrows, headerLines, accessorTemplate, viewTemplate, size]
    omega

/-- The lines of the template that do not depend on the table. -/
def frame : List (List Part) :=
  [opening ++ [.value .runtimePath, .fixed "::HandlerTable::builder().build());"],
   opening ++ [.fixed "\x7b"], builderLine, [.fixed "\ttable.build()"], [.fixed "\x7d);"]]
    ++ accessorTemplate ++ viewTemplate

private theorem mem_template {line : List Part} (htable : table.WellSpelled)
    (hline : line ∈ table.template) :
    line ∈ frame ∨ ∃ text, line = [.fixed text] ∧ '\n' ∉ text.toList := by
  unfold template at hline
  simp only [List.mem_append] at hline
  rcases hline with ((hheader | hstatic) | haccessor) | hview
  · obtain ⟨text, htext, rfl⟩ := List.mem_map.mp hheader
    exact .inr ⟨text, rfl, newline_notMem_headerLines table text htext⟩
  · unfold staticTemplate at hstatic
    split at hstatic
    · exact .inl (by simp [frame, List.mem_singleton.mp hstatic])
    · simp only [List.mem_append, List.mem_map, List.mem_cons, List.not_mem_nil, or_false] at hstatic
      rcases hstatic with ((rfl | rfl) | ⟨row, hrow, rfl⟩) | (rfl | rfl)
      · exact .inl (by simp [frame])
      · exact .inl (by simp [frame])
      · have hspelled := htable row (Array.mem_toList_iff.mp hrow)
        exact .inr ⟨row.statement, rfl, newline_notMem_statement hspelled⟩
      · exact .inl (by simp [frame])
      · exact .inl (by simp [frame])
  · exact .inl (by simp [frame, haccessor])
  · exact .inl (by simp [frame, hview])

def isOneLine : Part → Bool
  | .fixed text => !text.toList.contains '\n'
  | .value _ => true

private theorem isOneLine_of_mem_template (htable : table.WellSpelled) :
    ∀ line ∈ table.template, ∀ part ∈ line, isOneLine part = true := by
  intro line hline
  obtain hframe | ⟨text, rfl, hfeed⟩ := mem_template htable hline
  · have hall : ∀ line ∈ frame, ∀ part ∈ line, isOneLine part = true := by decide +kernel
    exact hall line hframe
  · intro part hpart
    obtain rfl := List.mem_singleton.mp hpart
    simpa [isOneLine] using hfeed

/-- The line feeds of a line are those of the settings that stand on it. -/
theorem count_splice {line : List Part} (hline : ∀ part ∈ line, isOneLine part = true) :
    (splice settings line).toList.count '\n' =
      ((line.filterMap Part.field?).map fun field => (field.value settings).toList.count '\n').sum := by
  induction line with
  | nil => rfl
  | cons part line ih =>
    obtain ⟨hpart, hline⟩ := List.forall_mem_cons.mp hline
    rw [splice, String.toList_append, List.count_append, ih hline]
    cases part with
    | fixed text =>
      have hfeed : '\n' ∉ text.toList := by simpa [isOneLine] using hpart
      rw [List.filterMap_cons_none rfl]
      simp [Part.text, List.count_eq_zero.mpr hfeed]
    | value field =>
      have hplace : Part.field? (.value field) = some field := rfl
      rw [List.filterMap_cons_some hplace]
      simp [Part.text]

private theorem sum_count_splice {template : List (List Part)}
    (htemplate : ∀ line ∈ template, ∀ part ∈ line, isOneLine part = true) :
    (template.map fun line => (splice settings line).toList.count '\n').sum =
      ((places template).map fun field => (field.value settings).toList.count '\n').sum := by
  induction template with
  | nil => rfl
  | cons line template ih =>
    obtain ⟨hline, htemplate⟩ := List.forall_mem_cons.mp htemplate
    rw [List.map_cons, List.sum_cons, count_splice hline, ih htemplate, places, places,
      List.flatMap_cons, List.map_append, List.sum_append]

private theorem places_append (template behind : List (List Part)) :
    places (template ++ behind) = places template ++ places behind :=
  List.flatMap_append

/-- Whatever the table is, the settings have the same places. -/
theorem places_template (table : Table) : places table.template =
    [.staticName, .runtimePath, .runtimePath, .accessorName, .staticName, .cacheTypeName,
      .runtimePath, .cacheTypeName, .runtimePath, .staticName] := by
  have hfixed : ∀ {α : Type} (line : α → String) (items : List α),
      places (items.map fun item => [.fixed (line item)]) = [] := by
    intro α line items
    simp [places, Part.field?]
  have hstatic : places table.staticTemplate = [.staticName, .runtimePath, .runtimePath] := by
    unfold staticTemplate
    split
    · rfl
    · rw [places_append, places_append, hfixed]
      rfl
  rw [template, places_append, places_append, places_append, hfixed, hstatic]
  rfl

private theorem length_lines_render (settings : Settings) (htable : table.WellSpelled) :
    (lines (table.render settings).toList).length = table.template.length +
      ((places table.template).map fun field => (field.value settings).toList.count '\n').sum := by
  rw [render_eq_unlines, length_lines_unlines, List.length_map, List.map_map,
    ← sum_count_splice (isOneLine_of_mem_template htable)]
  rfl

/-- Behind every place stands a text, which begins with one of the setting's marks. -/
def isMarked : List Part → Bool
  | [] => true
  | .fixed _ :: line => isMarked line
  | .value field :: .fixed text :: line =>
    text.toList.head?.any field.marks.contains && isMarked line
  | .value _ :: _ => false

private theorem isMarked_of_mem_template (htable : table.WellSpelled) :
    ∀ line ∈ table.template, isMarked line = true := by
  intro line hline
  obtain hframe | ⟨text, rfl, -⟩ := mem_template htable hline
  · have hall : ∀ line ∈ frame, isMarked line = true := by decide +kernel
    exact hall line hframe
  · rfl

private theorem isMarked_of_cons {part : Part} {line : List Part} (hline : isMarked (part :: line) = true) :
    isMarked line = true := by
  match part, line with
  | .fixed _, _ => exact hline
  | .value _, .fixed _ :: _ => exact (Bool.and_eq_true_iff.mp hline).2
  | .value _, [] => rfl
  | .value _, .value _ :: _ => cases hline

private theorem exists_mark_of_isMarked {front behind : List Part} {field : Field}
    (hline : isMarked (front ++ .value field :: behind) = true) :
    ∃ mark ∈ field.marks, ∃ more, (splice settings behind).toList = mark :: more := by
  induction front with
  | nil =>
    match behind with
    | [] => cases hline
    | .value _ :: _ => cases hline
    | .fixed text :: behind =>
      obtain ⟨hhead, -⟩ := Bool.and_eq_true_iff.mp hline
      cases htext : text.toList with
      | nil =>
        rw [htext] at hhead
        cases hhead
      | cons mark more =>
        rw [htext] at hhead
        refine ⟨mark, List.contains_iff_mem.mp hhead, more ++ (splice settings behind).toList, ?_⟩
        rw [splice, String.toList_append, Part.text, htext, List.cons_append]
  | cons part front ih => exact ih (isMarked_of_cons hline)

end Table

namespace Settings

variable {settings : Settings} {isPath : String → Bool}

/-- The test that a setting has to pass. -/
def accepts (isPath : String → Bool) : Field → String → Bool
  | .runtimePath => isPath
  | _ => isNameText

private theorem forall_spliced_iff :
    (∀ setting ∈ settings.spliced isPath, setting.2.2 setting.2.1 = true) ↔
      ∀ field : Field, accepts isPath field (field.value settings) = true := by
  simp only [spliced, List.forall_mem_cons, List.not_mem_nil]
  constructor
  · rintro ⟨hstatic, haccessor, hcache, hruntime, -⟩ field
    cases field with
    | staticName => exact hstatic
    | accessorName => exact haccessor
    | cacheTypeName => exact hcache
    | runtimePath => exact hruntime
  · intro haccepts
    exact ⟨haccepts .staticName, haccepts .accessorName, haccepts .cacheTypeName,
      haccepts .runtimePath, by simp⟩

private theorem validateWith_eq_ok_iff : settings.validateWith isPath = .ok () ↔
    ∀ field : Field, accepts isPath field (field.value settings) = true := by
  rw [← forall_spliced_iff]
  unfold validateWith
  split
  next name value test hfound =>
    have hrefused := List.find?_some hfound
    refine iff_of_false (by simp) fun haccepts => ?_
    have haccepted : test value = true := haccepts _ (List.mem_of_find?_eq_some hfound)
    simp [haccepted] at hrefused
  next hnone =>
    refine ⟨fun _ setting hsetting => ?_, fun _ => rfl⟩
    simpa using List.find?_eq_none.mp hnone setting hsetting

/-- What is a path with generic arguments consists of tokens. -/
theorem lexes_of_isPathText (text : String) (hpath : GenericPath.isPathText text = true) :
    (Token.ofText? text).isSome := by
  unfold GenericPath.isPathText at hpath
  split at hpath
  next htokens => rw [htokens, Option.isSome_some]
  next => cases hpath

/-- An accepted setting that no byte order mark leads decides what becomes of the text behind it. -/
theorem decides_of_accepts {field : Field} {value : String} {mark : Char}
    (hlexes : ∀ text, isPath text = true → (Token.ofText? text).isSome)
    (haccepts : accepts isPath field value = true) (hhead : value.toList.head? ≠ some '\ufeff')
    (hmark : mark ∈ field.marks) : Decides mark value.toList := by
  have hname : ∀ mark ∈ Field.marks .staticName, isNameText value = true →
      Decides mark value.toList := by
    intro mark hmark hname
    obtain ⟨ident, hreadable, -, hlaid⟩ := isNameText_iff.mp hname
    rw [Path.withoutMark_of_head?_ne hhead] at hlaid
    have hends : (Field.marks .staticName).all (fun mark => decide (mark ∉ ['/', '!', '\n'] ∧
        inRanges outsideRanges mark = true ∧ mark ∉ ['"', '\'', '#'])) = true := by decide
    obtain ⟨hcomment, houtside, hquote⟩ :=
      of_decide_eq_true (List.all_eq_true.mp hends mark hmark)
    refine hlaid.decides hreadable (fun more c hc => ?_) hcomment
    obtain rfl := Option.some.inj hc
    exact ⟨isIdentContinue_of_outside houtside, hquote⟩
  cases field with
  | runtimePath =>
    obtain rfl := List.mem_singleton.mp hmark
    have hread := hlexes value haccepts
    rw [Path.ofText?_eq_read, Path.withoutMark_of_head?_ne hhead] at hread
    obtain ⟨tokens, hread⟩ := Option.isSome_iff_exists.mp hread
    exact decides_colon hread
  | staticName => exact hname mark hmark haccepts
  | accessorName => exact hname mark hmark haccepts
  | cacheTypeName => exact hname mark hmark haccepts

end Settings

namespace Table

variable {settings : Settings} {table : Table}

private theorem length_lines_render_eq_iff (settings : Settings) (htable : table.WellSpelled) :
    (lines (table.render settings).toList).length = table.template.length ↔
      ∀ field : Field, '\n' ∉ (field.value settings).toList := by
  rw [length_lines_render settings htable, places_template]
  constructor
  · intro hsum field
    rw [← List.count_eq_zero]
    simp only [List.map_cons, List.map_nil, List.sum_cons, List.sum_nil] at hsum
    cases field <;> omega
  · intro hfeed
    have hnone : ∀ field : Field, (field.value settings).toList.count '\n' = 0 :=
      fun field => List.count_eq_zero.mpr (hfeed field)
    simp [hnone]

/-- Each mark is read differently with a letter behind it and without. -/
theorem read_mark_ne {field : Field} {mark : Char} (hmark : mark ∈ field.marks) :
    Token.read [mark] ≠ Token.read [mark, 'a'] := by
  have hall : (Field.marks .staticName).all
      (fun mark => decide (Token.read [mark] ≠ Token.read [mark, 'a'])) = true := by
    decide +kernel
  refine of_decide_eq_true (List.all_eq_true.mp hall mark ?_)
  cases field with
  | runtimePath => simpa [Field.marks] using Or.inl hmark
  | staticName => exact hmark
  | accessorName => exact hmark
  | cacheTypeName => exact hmark

/-- What becomes of the text behind a setting that was accepted. -/
theorem outcome_of_accepts {isPath : String → Bool} {field : Field} {value : String} {mark : Char}
    (hlexes : ∀ text, isPath text = true → (Token.ofText? text).isSome)
    (haccepts : Settings.accepts isPath field value = true) (hmark : mark ∈ field.marks) :
    (value.toList.head? = some '\ufeff' ∧ ∀ rest, Token.read (value.toList ++ rest) = none) ∨
    (Exposes mark value.toList ∧ ¬Swallows mark value.toList) ∨
    (Swallows mark value.toList ∧ ¬Exposes mark value.toList ∧ SlashesLast value.toList) := by
  have hone : Exposes mark value.toList → ¬Swallows mark value.toList := fun hexposes =>
    hexposes.not_swallows (by decide : '\n' ∉ []) (by decide : '\n' ∉ ['a']) (read_mark_ne hmark)
  by_cases hhead : value.toList.head? = some '\ufeff'
  · refine .inl ⟨hhead, fun rest => ?_⟩
    obtain ⟨cs, hcs⟩ := List.head?_eq_some_iff.mp hhead
    rw [hcs, List.cons_append, Token.read_byteOrderMark]
  · rcases Settings.decides_of_accepts hlexes haccepts hhead hmark with hexposes | ⟨hswallows, hslashes⟩
    · exact .inr (.inl ⟨hexposes, hone hexposes⟩)
    · exact .inr (.inr ⟨hswallows, fun hexposes => hone hexposes hswallows, hslashes⟩)

/-- Accepted settings can be spliced into the source, but not without a trace. The source is the
    template with the settings in their places, as they were given. Each line feed in a setting adds a
    line wherever the setting stands, so that the number of lines depends on the table alone if and only
    if there is none. A name may have blanks and comments around its identifier. What the template has
    behind a setting is read as it is without the setting, or swallowed, to the end of the line, by a
    line comment on the last line of the setting; or the setting begins with a byte order mark, and
    nothing is read from there on. This is so whatever is accepted for a path, as long as it consists
    of tokens. -/
theorem validate_splices {isPath : String → Bool}
    (hlexes : ∀ text, isPath text = true → (Token.ofText? text).isSome)
    (hvalid : settings.validateWith isPath = .ok ()) (hread : table.Read) :
    table.render settings = unlines (table.template.map (splice settings)) ∧
    (lines (table.render settings).toList).length = table.template.length +
      ((places table.template).map fun field => (field.value settings).toList.count '\n').sum ∧
    table.template.length = (if table.isEmpty then 20 else 23 + table.size) ∧
    ((lines (table.render settings).toList).length = table.template.length ↔
      ∀ field : Field, '\n' ∉ (field.value settings).toList) ∧
    (∀ field : Field, field ≠ .runtimePath → ∃ ident : Identifier, ident.Readable ∧
      ident.isName = true ∧
      LaidOut [ident.text.toList] (Path.withoutMark (field.value settings).toList)) ∧
    ∀ front field behind, front ++ .value field :: behind ∈ table.template →
      ∃ mark more, (splice settings behind).toList = mark :: more ∧
        (((field.value settings).toList.head? = some '\ufeff' ∧
            ∀ rest, Token.read ((field.value settings).toList ++ rest) = none) ∨
          (Exposes mark (field.value settings).toList ∧
            ¬Swallows mark (field.value settings).toList) ∨
          (Swallows mark (field.value settings).toList ∧
            ¬Exposes mark (field.value settings).toList ∧
            SlashesLast (field.value settings).toList)) := by
  have htable := hread.wellSpelled
  have haccepts := Settings.validateWith_eq_ok_iff.mp hvalid
  refine ⟨render_eq_unlines settings table, length_lines_render settings htable,
    length_template table, length_lines_render_eq_iff settings htable, fun field hfield => ?_,
    fun front field behind hline => ?_⟩
  · cases field with
    | runtimePath => exact absurd rfl hfield
    | staticName => exact isNameText_iff.mp (haccepts .staticName)
    | accessorName => exact isNameText_iff.mp (haccepts .accessorName)
    | cacheTypeName => exact isNameText_iff.mp (haccepts .cacheTypeName)
  · obtain ⟨mark, hmark, more, hmore⟩ :=
      exists_mark_of_isMarked (isMarked_of_mem_template htable _ hline)
    exact ⟨mark, more, hmore, outcome_of_accepts hlexes (haccepts field) hmark⟩

/-- A name behind a comment in which the line breaks. -/
def brokenSettings : Settings :=
  { Settings.standard with accessorName := "/* one\ntwo */get" }

/-- The accessor's name stands on one line of the source, which is broken once; what is behind it is
    read all the same. -/
theorem validate_splices_broken : ∃ table, merge .empty .empty = .ok table ∧
    brokenSettings.validate = .ok () ∧
    (lines (table.render brokenSettings).toList).length = 21 ∧
    Exposes '<' brokenSettings.accessorName.toList := by
  have hmerge : merge .empty .empty = .ok _ := merge_of_disjoint (overlap?_eq_none_iff.mp rfl)
  have hread : Read (ofMap (combine .empty .empty)) :=
    ⟨.empty, .empty, by simp, by simp, hmerge⟩
  have hvalid : brokenSettings.validate = .ok () := by
    rw [Settings.validate, Settings.validateWith_eq_ok_iff]
    intro field
    cases field <;> decide +kernel
  obtain ⟨-, hlines, hlength, -, -, hplaces⟩ :=
    validate_splices Settings.lexes_of_isPathText hvalid hread
  refine ⟨_, hmerge, hvalid, ?_, ?_⟩
  · rw [hlines, hlength, places_template]
    decide +kernel
  · have hline : [.fixed "pub fn "] ++ .value .accessorName :: [.fixed
        ("<H: ::std::any::Any>(type_name: &str) -> " ++ "::std::option::Option<&'static H> \x7b")] ∈
        (ofMap (combine .empty .empty)).template := by
      simp [template, accessorTemplate]
    obtain ⟨mark, more, hmore, houtcome⟩ := hplaces _ _ _ hline
    obtain ⟨rfl, -⟩ : '<' = mark ∧ _ := by simpa [splice, Part.text] using hmore
    have hnone : ¬['/', '/'] <:+: (Field.value brokenSettings .accessorName).toList := by
      decide +kernel
    rcases houtcome with ⟨hhead, -⟩ | ⟨hexposes, -⟩ | ⟨-, -, hslashes⟩
    · exact absurd hhead (by decide)
    · exact hexposes
    · exact absurd hslashes.isInfix hnone

/-- A static's name with a comment behind it, which stays open. -/
def swallowingSettings : Settings :=
  { Settings.standard with staticName := "X // c" }

/-- The name is accepted with its comment, which swallows all that the template has behind the name. -/
theorem validate_swallowing : swallowingSettings.validate = .ok () ∧
    ['/', '/'] <:+: swallowingSettings.staticName.toList ∧
    ∀ rest, '\n' ∉ rest → Token.read (swallowingSettings.staticName.toList ++ ':' :: rest) =
      some [.identifier ⟨false, "X"⟩] := by
  refine ⟨?_, ⟨"X ".toList, " c".toList, rfl⟩, fun rest hrest => ?_⟩
  · rw [Settings.validate, Settings.validateWith_eq_ok_iff]
    intro field
    cases field <;> decide +kernel
  · have hident : Identifier.Readable ⟨false, "X"⟩ :=
      anyIdent?_readable (by decide +kernel : anyIdent? ['X'] = some (⟨false, "X"⟩, []))
    have hordinary : OrdinaryLine (" c:".toList ++ rest) := ⟨by simp, by simp⟩
    have hline : '\n' ∉ " c:".toList ++ rest := by simp [hrest]
    have hcomment := Token.read_openLine hordinary hline
    have hends : EndsIdent (' ' :: '/' :: '/' :: (" c:".toList ++ rest)) := by
      refine endsIdent_of_head? fun c hc => .inl ?_
      obtain rfl := Option.some.inj hc
      decide
    have hread := Token.read_identifier hident hends
    rw [Token.read_separator (by decide), hcomment] at hread
    exact hread

end Table

end RetainerTable
