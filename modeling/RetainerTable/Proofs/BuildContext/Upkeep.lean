import RetainerTable.Proofs.BuildContext
import RetainerTable.Proofs.Files.Siblings

/-!
Generated files over many builds.

A journal notes every text that was to be written to a file, so that leaving a current file alone can be
told from writing to it what it holds already. A call either finds the source in the file and does
nothing, or writes it and changes that file alone, or fails and leaves all files as they are
(`run_writeTable_of_current`, `run_writeTable_of_stale`). After any calls on plain names, every file
holds what was last made in it (`readText_of_run_writeTables`).
-/

namespace RetainerTable

/-- Files, and what was to be written to which path until now, first to last. -/
structure Journal where
  files : Files
  attempts : List (String × String)

namespace Journal

/-- Does to the files what a program on files does; nothing is noted. -/
def onFiles {α : Type} (step : StateM Files α) : StateM Journal α :=
  fun journal =>
    let (result, files) := step.run journal.files
    (result, { journal with files })

/-- The journal with one more attempt to write. -/
def note (journal : Journal) (path text : String) : Journal :=
  { journal with attempts := journal.attempts ++ [(path, text)] }

/-- What a disk refuses to write: a text under a path, after all that was to be written before. -/
abbrev Refusals := Journal → String → String → Option Fault

/-- Access to the files of a journal, as seen from a directory. A write that the paths allow may still be
    refused, as it is where the disk is full; a refused write leaves the files as they are. -/
def access (refused : Refusals) (here : Place) : FileAccess (StateM Journal) where
  readText path := onFiles ((Files.access here).readText path)
  writeText path text := fun journal =>
    match refused journal path text with
    | some fault => (.error fault, journal.note path text)
    | none => onFiles ((Files.access here).writeText path text) (journal.note path text)
  isPresent path := onFiles ((Files.access here).isPresent path)
  makeDirectories path := onFiles ((Files.access here).makeDirectories path)

variable {refused : Refusals} {here : Place}

theorem run_readText (journal : Journal) (path : String) :
    ((access refused here).readText path).run journal =
      pure (journal.files.readText here path, journal) := rfl

private theorem run_writeText_of_accepted {journal : Journal} {path text : String}
    (haccepted : refused journal path text = none) :
    ((access refused here).writeText path text).run journal =
      pure (match journal.files.writeText here path text with
        | .ok files => (.ok (), ⟨files, journal.attempts ++ [(path, text)]⟩)
        | .error fault => (.error fault, journal.note path text)) := by
  unfold access StateT.run
  dsimp only
  rw [haccepted]
  simp only [onFiles, Files.run_writeText, note]
  cases journal.files.writeText here path text <;> rfl

/-- Every attempt to write is noted. It succeeds and is a write to the files, or fails and leaves them as
    they are. -/
theorem run_writeText (refused : Refusals) (here : Place) (journal : Journal) (path text : String) :
    ∃ outcome files, ((access refused here).writeText path text).run journal =
        pure (outcome, ⟨files, journal.attempts ++ [(path, text)]⟩) ∧
      (outcome = .ok () ∧ journal.files.writeText here path text = .ok files ∨
        (∃ fault, outcome = .error fault) ∧ files = journal.files) := by
  cases hrefused : refused journal path text with
  | some fault =>
    refine ⟨.error fault, journal.files, ?_, .inr ⟨⟨fault, rfl⟩, rfl⟩⟩
    unfold access StateT.run
    dsimp only
    rw [hrefused]
    rfl
  | none =>
    rw [run_writeText_of_accepted hrefused]
    cases hwrite : journal.files.writeText here path text with
    | error fault => exact ⟨_, _, rfl, .inr ⟨⟨fault, rfl⟩, rfl⟩⟩
    | ok files => exact ⟨_, _, rfl, .inl ⟨rfl, rfl⟩⟩

end Journal

namespace BuildContext

variable {refused : Journal.Refusals} {here : Place} {context : BuildContext} {journal : Journal}
  {name source : String}

private theorem isCurrent_eq_true_iff {found : Except Fault String} :
    isCurrent source found = true ↔ found = .ok source :=
  ⟨eq_of_isCurrent, fun hfound => by rw [hfound]; exact beq_self_eq_true source⟩

/-- Where no write is refused, keeping a journal changes nothing about a call. -/
theorem run_writeTable_files (here : Place) (context : BuildContext) (name source : String)
    (journal : Journal) :
    Prod.map id Journal.files
        ((writeTable (Journal.access (fun _ _ _ => none) here) context name source).run journal) =
      (writeTable (Files.access here) context name source).run journal.files := by
  simp only [writeTable, StateT.run_bind, Journal.run_readText, Files.run_readText, pure_bind]
  split
  · rfl
  · rw [StateT.run_bind, StateT.run_bind, Journal.run_writeText_of_accepted rfl,
      Files.run_writeText]
    cases journal.files.writeText here (context.output name) source <;> rfl

/-- A file that holds the source is left alone. -/
theorem run_writeTable_of_current
    (hcurrent : journal.files.readText here (context.output name) = .ok source) :
    (writeTable (Journal.access refused here) context name source).run journal =
      pure (.ok ⟨context.output name, false⟩, journal) := by
  simp only [writeTable, StateT.run_bind, Journal.run_readText, pure_bind,
    isCurrent_eq_true_iff.mpr hcurrent, if_true, StateT.run_pure]

/-- A file that does not hold the source is to be written, which succeeds or changes nothing. -/
theorem run_writeTable_of_stale (refused : Journal.Refusals)
    (hstale : journal.files.readText here (context.output name) ≠ .ok source) :
    ∃ outcome files, (writeTable (Journal.access refused here) context name source).run journal =
        pure (outcome, ⟨files, journal.attempts ++ [(context.output name, source)]⟩) ∧
      (outcome = .ok ⟨context.output name, true⟩ ∧
          journal.files.writeText here (context.output name) source = .ok files ∨
        (∃ fault, outcome = .error (.unwritableTable (context.output name) fault)) ∧
          files = journal.files) := by
  obtain ⟨written, files, hrun, hcases⟩ :=
    Journal.run_writeText refused here journal (context.output name) source
  have hcurrent : ¬isCurrent source (journal.files.readText here (context.output name)) = true :=
    mt isCurrent_eq_true_iff.mp hstale
  simp only [writeTable, StateT.run_bind, Journal.run_readText, pure_bind, if_neg hcurrent, hrun]
  rcases hcases with ⟨rfl, hwrite⟩ | ⟨⟨fault, rfl⟩, hfiles⟩
  · exact ⟨_, files, rfl, .inl ⟨rfl, hwrite⟩⟩
  · exact ⟨_, files, rfl, .inr ⟨⟨fault, rfl⟩, hfiles⟩⟩

/-- A call that succeeds leaves the source in the file and the files with other plain names as they are;
    one that fails leaves all files as they are. -/
theorem readText_of_run_writeTable (refused : Journal.Refusals) (here : Place)
    (context : BuildContext) (name source : String) (journal : Journal) (hplain : '/' ∉ name.toList) :
    ∃ outcome after, (writeTable (Journal.access refused here) context name source).run journal =
        pure (outcome, after) ∧
      ((∃ error, outcome = .error error) ∧ after.files = journal.files ∨
        (∃ made, outcome = .ok made) ∧
          after.files.readText here (context.output name) = .ok source ∧
          ∀ other text, '/' ∉ other.toList → other ≠ name →
            journal.files.readText here (context.output other) = .ok text →
              after.files.readText here (context.output other) = .ok text) := by
  by_cases hcurrent : journal.files.readText here (context.output name) = .ok source
  · exact ⟨_, journal, run_writeTable_of_current hcurrent,
      .inr ⟨⟨_, rfl⟩, hcurrent, fun _ _ _ _ hread => hread⟩⟩
  · obtain ⟨outcome, files, hrun, hcases⟩ := run_writeTable_of_stale refused hcurrent
    refine ⟨outcome, _, hrun, ?_⟩
    rcases hcases with ⟨rfl, hwrite⟩ | ⟨⟨fault, rfl⟩, rfl⟩
    · exact .inr ⟨⟨_, rfl⟩, Files.readText_of_writeText hwrite, fun other text hother hne hread =>
        Files.readText_of_writeText_sibling hother hplain hne hread hwrite⟩
    · exact .inl ⟨⟨_, rfl⟩, rfl⟩

/-- Makes tables one after another, each given by its file name and its source. The rows are those of
    the calls that succeeded, last to first. -/
def writeTables {m : Type → Type} [Monad m] (access : FileAccess m) (context : BuildContext) :
    List (String × String) → m (List (String × String))
  | [] => return []
  | (name, source) :: tables => do
    match ← writeTable access context name source with
    | .error _ => writeTables access context tables
    | .ok _ => return (← writeTables access context tables) ++ [(name, source)]

/-- After any calls on plain names every file holds the table last made in it, and where none was made
    the text it held before. -/
theorem readText_of_run_writeTables (refused : Journal.Refusals) (here : Place)
    (context : BuildContext) {tables : List (String × String)}
    (hplain : ∀ table ∈ tables, '/' ∉ table.1.toList) (journal : Journal) :
    ∃ made after, (writeTables (Journal.access refused here) context tables).run journal =
        pure (made, after) ∧
      ∀ name source, '/' ∉ name.toList →
        (made.lookup name = some source ∨ made.lookup name = none ∧
          journal.files.readText here (context.output name) = .ok source) →
        after.files.readText here (context.output name) = .ok source := by
  induction tables generalizing journal with
  | nil =>
    refine ⟨[], journal, rfl, fun name source _ hheld => ?_⟩
    rcases hheld with hmade | ⟨-, hread⟩
    · cases hmade
    · exact hread
  | cons table tables ih =>
    obtain ⟨name, source⟩ := table
    obtain ⟨hname, htables⟩ := List.forall_mem_cons.mp hplain
    obtain ⟨outcome, between, hfirst, hcases⟩ :=
      readText_of_run_writeTable refused here context name source journal hname
    obtain ⟨made, after, hrest, hkept⟩ := ih htables between
    simp only [writeTables, StateT.run_bind, hfirst, pure_bind]
    rcases hcases with ⟨⟨error, rfl⟩, hfiles⟩ | ⟨⟨written, rfl⟩, hheld, hothers⟩
    · exact ⟨made, after, hrest, hfiles ▸ hkept⟩
    · refine ⟨made ++ [(name, source)], after, by simp only [StateT.run_bind, hrest, pure_bind]; rfl,
        fun other text hother hfound => hkept other text hother ?_⟩
      -- What was made later counts before this call, and this call before what was there at first.
      rw [List.lookup_append] at hfound
      cases hlater : made.lookup other with
      | some later => simpa [hlater] using hfound
      | none =>
        refine .inr ⟨rfl, ?_⟩
        rw [hlater, Option.none_or, AssociationList.lookup_cons_eq] at hfound
        by_cases hne : other = name
        · subst hne
          obtain rfl : source = text := by simpa using hfound
          exact hheld
        · simp only [if_neg hne, List.lookup_nil] at hfound
          exact hothers other text hother hne (by simpa using hfound)

/-- A call makes the file hold the source and changes no other file, or it names the file that it could
    not write and changes none; it tries to write exactly if reading the file did not give the source.
    After any calls on plain names, one that repeats the table last made in its file does nothing. -/
theorem writeTable_upkeep (refused : Journal.Refusals) (here : Place)
    (context : BuildContext) (journal : Journal) :
    (∀ name source, ∃ outcome after,
      (writeTable (Journal.access refused here) context name source).run journal =
          pure (outcome, after) ∧
        ((∃ changed, outcome = .ok ⟨context.output name, changed⟩) ∧
            journal.files.Wrote here (context.output name) source.toUTF8 after.files ∨
          (∃ fault, outcome = .error (.unwritableTable (context.output name) fault)) ∧
            after.files = journal.files) ∧
        (journal.files.readText here (context.output name) = .ok source → after = journal) ∧
        (journal.files.readText here (context.output name) ≠ .ok source →
          after.attempts = journal.attempts ++ [(context.output name, source)])) ∧
    ∀ tables : List (String × String), (∀ table ∈ tables, '/' ∉ table.1.toList) →
      ∃ made after, (writeTables (Journal.access refused here) context tables).run journal =
          pure (made, after) ∧
        ∀ name source, '/' ∉ name.toList → made.lookup name = some source →
          (writeTable (Journal.access refused here) context name source).run after =
            pure (.ok ⟨context.output name, false⟩, after) := by
  refine ⟨fun name source => ?_, fun tables hplain => ?_⟩
  · by_cases hcurrent : journal.files.readText here (context.output name) = .ok source
    · exact ⟨_, journal, run_writeTable_of_current hcurrent,
        .inl ⟨⟨false, rfl⟩, Files.wrote_of_readText hcurrent⟩, fun _ => rfl, absurd hcurrent⟩
    · obtain ⟨outcome, files, hrun, hcases⟩ := run_writeTable_of_stale refused hcurrent
      refine ⟨outcome, _, hrun, ?_, fun h => absurd h hcurrent, fun _ => rfl⟩
      rcases hcases with ⟨hok, hwrite⟩ | hfailed
      · exact .inl ⟨⟨true, hok⟩, Files.wrote_of_writeText hwrite⟩
      · exact .inr hfailed
  · obtain ⟨made, after, hrun, hheld⟩ :=
      readText_of_run_writeTables refused here context hplain journal
    exact ⟨made, after, hrun, fun name source hname hmade =>
      run_writeTable_of_current (hheld name source hname (.inl hmade))⟩

/-- A disk that has no room for the third draft of a table. -/
def fullDisk : Journal.Refusals := fun _ _ text =>
  if text = "third draft" then some (.other "No space left on device (os error 28)") else none

/-- A directory for generated files, with one of them in it. -/
def outDirectory : Journal :=
  ⟨⟨[(["out"], .directory), (["out", "b.rs"], .file "old draft".toUTF8)]⟩, []⟩

/-- Two tables made by turns. What is in the file is not written, and the last draft cannot be. -/
def drafts : List (String × String) :=
  [("b.rs", "old draft"), ("a.rs", "first draft"), ("b.rs", "second draft"),
    ("a.rs", "second draft"), ("b.rs", "third draft")]

theorem writeTable_upkeep_fullDisk :
    (∀ table ∈ drafts, '/' ∉ table.1.toList) ∧ '/' ∉ "b.rs".toList ∧
      outDirectory.files.readText [] "out/b.rs" = .ok "old draft" ∧
      outDirectory.files.readText [] "out/b.rs" ≠ .ok "third draft" ∧
      ((writeTable (Journal.access fullDisk []) ⟨"", "out"⟩ "b.rs" "old draft").run outDirectory).2 =
        outDirectory ∧
      ((writeTable (Journal.access fullDisk []) ⟨"", "out"⟩ "b.rs" "third draft").run
        outDirectory).2.attempts = [("out/b.rs", "third draft")] ∧
      ∃ made after, (writeTables (Journal.access fullDisk []) ⟨"", "out"⟩ drafts).run outDirectory =
          pure (made, after) ∧
        made.lookup "b.rs" = some "second draft" ∧
        (writeTable (Journal.access fullDisk []) ⟨"", "out"⟩ "b.rs" "second draft").run after =
          pure (.ok ⟨"out/b.rs", false⟩, after) := by
  have hplain : ∀ table ∈ drafts, '/' ∉ table.1.toList := by decide
  have hname : '/' ∉ "b.rs".toList := by decide
  have hcurrent : outDirectory.files.readText [] "out/b.rs" = .ok "old draft" :=
    isCurrent_eq_true_iff.mp (by decide +kernel)
  have hstale : outDirectory.files.readText [] "out/b.rs" ≠ .ok "third draft" :=
    mt isCurrent_eq_true_iff.mpr (by decide +kernel)
  obtain ⟨hone, hmany⟩ := writeTable_upkeep fullDisk [] ⟨"", "out"⟩ outDirectory
  refine ⟨hplain, hname, hcurrent, hstale, ?_, ?_, ?_⟩
  · obtain ⟨_, after, hrun, -, hsame, -⟩ := hone "b.rs" "old draft"
    rw [hrun]
    exact hsame hcurrent
  · obtain ⟨_, after, hrun, -, -, hnoted⟩ := hone "b.rs" "third draft"
    rw [hrun]
    exact hnoted hstale
  · obtain ⟨made, after, hrun, hrepeat⟩ := hmany drafts hplain
    have hmade : made.lookup "b.rs" = some "second draft" := by
      have hlast : ((writeTables (Journal.access fullDisk []) ⟨"", "out"⟩ drafts).run
          outDirectory).1.lookup "b.rs" = some "second draft" := by decide +kernel
      rwa [hrun] at hlast
    exact ⟨made, after, hrun, hmade, hrepeat "b.rs" "second draft" hname hmade⟩

end BuildContext

end RetainerTable
