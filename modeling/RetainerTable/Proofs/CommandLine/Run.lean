import RetainerTable.CommandLine.Run
import RetainerTable.Proofs.CommandLine.Console
import RetainerTable.Proofs.CommandLine.Request
import RetainerTable.Proofs.Registration

/-!
The ways to a table agree.

Each command makes the table of what its inputs stand for (`run_generate`), and so does a build step
that reads the same files. They differ in what they do with it: print its source, write it or list
its rows (`runs_agree`).
-/

namespace RetainerTable

section Host

variable (host : Host) (machine : Machine)

/-- The directory of the file is in place: there was no need to make it, or it was made. -/
inductive Host.Prepared (path : String) : Machine → Prop
  | asItIs (hthere : ∀ parent, Path.parent? path = some parent →
      parent = "" ∨ host.isPresent machine parent = true) : Prepared path machine
  | made {parent : String} {after : Machine} (hparent : Path.parent? path = some parent)
      (habsent : parent ≠ "" ∧ host.isPresent machine parent = false)
      (hmake : host.makeDirectories machine parent = (.ok (), after)) : Prepared path after

/-- How a run ends that cannot write its file: the directory is missing and cannot be made, or it is
    in place and the text cannot be written into the file. -/
inductive Host.Unwritten (path text : String) : CommandLine.Outcome → Machine → Prop
  | directory {parent : String} {fault : Fault} {after : Machine}
      (hparent : Path.parent? path = some parent)
      (habsent : parent ≠ "" ∧ host.isPresent machine parent = false)
      (hmake : host.makeDirectories machine parent = (.error fault, after)) :
      Unwritten path text (.failed ("creating " ++ parent) fault.message) after
  | file {fault : Fault} {between : Machine} (hprepared : host.Prepared machine path between)
      (hwrite : host.writeText between path text = .error fault) :
      Unwritten path text (.failed ("writing " ++ path) fault.message) between

/-- Printing the text breaks off: the host refuses to print more than its first bytes. -/
inductive Host.Unprinted (text : String) : Fault → Machine → Prop
  | intro {count : Nat} {fault : Fault}
      (hfault : host.printFault? machine text = some (count, fault)) :
      Unprinted text fault (machine.append (text.toUTF8.extract 0 count))

end Host

section Effects

variable {host : Host} {machine after : Machine} {path text : String} {fault : Fault}
  {outcome : CommandLine.Outcome}

theorem Host.Prepared.sameContents (hprepared : host.Prepared machine path after) :
    machine.files.SameContents after.files ∧ after.printed = machine.printed := by
  cases hprepared with
  | asItIs hthere => exact ⟨.refl _, rfl⟩
  | @made parent _ hparent habsent hmake =>
    have hsame := host.makeDirectories_sameContents machine parent
    rwa [hmake] at hsame

/-- A file that could not be written is as it was, like every other file. -/
theorem Host.Unwritten.sameContents (hunwritten : host.Unwritten machine path text outcome after) :
    machine.files.SameContents after.files ∧ after.printed = machine.printed := by
  cases hunwritten with
  | @directory parent _ _ hparent habsent hmake =>
    have hsame := host.makeDirectories_sameContents machine parent
    rwa [hmake] at hsame
  | file hprepared hwrite => exact hprepared.sameContents

theorem CommandLine.Outcome.exitCode_failed (message : String) (cause : Option String) :
    (failed message cause).exitCode ≠ 0 := by
  simp [exitCode]

theorem Host.Unwritten.exitCode (hunwritten : host.Unwritten machine path text outcome after) :
    outcome.exitCode ≠ 0 := by
  cases hunwritten <;> exact CommandLine.Outcome.exitCode_failed _ _

/-- The text is printed in full, or the host refuses that. -/
theorem Host.print_cases (host : Host) (machine : Machine) (text : String) :
    host.print machine text = (.ok (), machine.append text.toUTF8) ∨
      ∃ fault after, host.print machine text = (.error fault, after) ∧
        host.Unprinted machine text fault after := by
  unfold print
  cases hfault : host.printFault? machine text with
  | none => exact .inl rfl
  | some refused => exact .inr ⟨refused.2, _, rfl, .intro hfault⟩

end Effects

namespace CommandLine

variable {host : Host} {machine : Machine} {inputs : Inputs} {manual : Topic → String}
  {readText : String → Except Fault String}

namespace Inputs

/-- The settings in the file that is named, or else the standard ones. -/
def readSettings? (inputs : Inputs) (readText : String → Except Fault String) : Option Settings :=
  match inputs.settings with
  | none => some .standard
  | some path => Settings.inFile? readText path

/-- What the inputs stand for: the manifest in its file, and the settings. The flag turns inheritance
    on and never off. -/
def read? (inputs : Inputs) (readText : String → Except Fault String) :
    Option (Manifest × Settings) :=
  (Manifest.inFile? readText inputs.manifest).bind fun manifest =>
    (inputs.readSettings? readText).map fun settings =>
      (manifest, if inputs.vectorizeInheritance then
        { settings with vectorizeInheritance := true } else settings)

/-- The table of the inputs, if they stand for something that has one. -/
def generation? (inputs : Inputs) (readText : String → Except Fault String) : Option Generation :=
  (inputs.read? readText).bind fun (manifest, settings) =>
    (generateFromManifest settings manifest).toOption

/-- A build step reads the same texts, and the inputs ask for nothing that it could not know. -/
structure SharedWith (inputs : Inputs) (readText : String → Except Fault String)
    (context : BuildContext) (manifestPath settingsPath : String) : Prop where
  manifest : readText (context.asset manifestPath) = readText inputs.manifest
  settings : ∃ path, inputs.settings = some path ∧
    readText (context.asset settingsPath) = readText path
  plain : inputs.vectorizeInheritance = false

private theorem apply_eq (inputs : Inputs) (settings : Settings) :
    inputs.apply settings = if inputs.vectorizeInheritance then
      { settings with vectorizeInheritance := true } else settings := by
  rw [apply]
  cases inputs.vectorizeInheritance <;> rfl

end Inputs

section Reading

variable {σ : Type} {access : FileAccess (StateM σ)} {state : σ}

theorem run_loadSettings (hreads : access.Reads state readText) (inputs : Inputs) :
    ∃ outcome, (loadSettings access inputs.settings).run state = pure (outcome, state) ∧
      outcome.toOption = inputs.readSettings? readText := by
  rw [Inputs.readSettings?]
  cases inputs.settings with
  | none => exact ⟨_, rfl, rfl⟩
  | some path => exact Settings.run_load hreads path

/-- Every command makes the table of the inputs, or fails without one. Nothing changes. -/
theorem run_generate (hreads : access.Reads state readText) (inputs : Inputs) :
    ∃ outcome, (generate access inputs).run state = pure (outcome, state) ∧
      outcome.toOption = inputs.generation? readText ∧
      ∀ failure, outcome = .error failure → ∃ message cause, failure = .failed message cause := by
  obtain ⟨manifest, hmanifest, hmanifestHeld⟩ := Manifest.run_load hreads inputs.manifest
  obtain ⟨settings, hsettings, hsettingsHeld⟩ := run_loadSettings hreads inputs
  simp only [generate, StateT.run_bind, hmanifest, pure_bind, Inputs.generation?, Inputs.read?,
    ← Inputs.apply_eq, ← hmanifestHeld, ← hsettingsHeld]
  cases manifest with
  | error error => exact ⟨_, rfl, rfl, fun _ h => ⟨_, _, (Except.error.inj h).symm⟩⟩
  | ok manifest =>
    simp only [StateT.run_bind, hsettings, pure_bind]
    cases settings with
    | error error => exact ⟨_, rfl, rfl, fun _ h => ⟨_, _, (Except.error.inj h).symm⟩⟩
    | ok settings =>
      simp only [Except.toOption, Option.map_some, Option.bind_some]
      cases generateFromManifest (inputs.apply settings) manifest with
      | error error => exact ⟨_, rfl, rfl, fun _ h => ⟨_, _, (Except.error.inj h).symm⟩⟩
      | ok generation => exact ⟨_, rfl, rfl, fun _ h => nomatch h⟩

/-- A build step that reads the same files makes the table of the inputs. -/
theorem Inputs.SharedWith.run_generate (hreads : access.Reads state readText)
    {context : BuildContext} {manifestPath settingsPath : String}
    (hshared : inputs.SharedWith readText context manifestPath settingsPath) :
    ∃ lines outcome,
      (BuildContext.generate access context manifestPath settingsPath).run state =
        pure (⟨lines, outcome⟩, state) ∧
      outcome.toOption = inputs.generation? readText := by
  obtain ⟨lines, outcome, hrun, hheld⟩ :=
    BuildContext.run_generate hreads context manifestPath settingsPath
  obtain ⟨hmanifest, ⟨path, hpath, hsettings⟩, hplain⟩ := hshared
  refine ⟨lines, outcome, hrun, hheld.trans ?_⟩
  simp only [Inputs.generation?, Inputs.read?, Inputs.readSettings?, Manifest.inFile?,
    Settings.inFile?, hpath, hplain, hmanifest, hsettings, Bool.false_eq_true, if_false,
    Option.bind_assoc, Option.bind_map]
  rfl

end Reading

/-- The inputs of a request that needs some. -/
def Request.inputs? : Request → Option Inputs
  | .generate inputs _ | .resolve inputs => some inputs
  | .version | .help _ => none

/-- What a request does that has its table. -/
def Request.deliver (console : Console (StateM Machine)) (generation : Generation) :
    Request → StateM Machine Outcome
  | .resolve _ => printText console generation.table.describe fun fault => .aborted fault.message
  | .generate _ none =>
    printText console generation.source fun fault => .failed "writing to stdout" fault.message
  | .generate _ (some path) => writeSource console.toFileAccess path generation.source
  | .version | .help _ => pure .done

/-- A request with inputs makes their table, and fails as that does or delivers it. -/
theorem run_of_inputs {arguments : List String} {request : Request}
    {made : Except Outcome Generation}
    (harguments : Request.ofArguments? arguments = some request)
    (hinputs : request.inputs? = some inputs)
    (hgenerate : (generate host.console.toFileAccess inputs).run machine = pure (made, machine)) :
    (run host.console manual arguments).run machine =
      match made with
      | .error failure => pure (failure, machine)
      | .ok generation => (request.deliver host.console generation).run machine := by
  rw [run, harguments]
  cases request with
  | version => cases hinputs
  | help topic => cases hinputs
  | resolve given =>
    cases hinputs
    simp only [Request.run, StateT.run_bind, hgenerate, pure_bind]
    cases made <;> rfl
  | generate given out =>
    cases hinputs
    simp only [Request.run, StateT.run_bind, hgenerate, pure_bind]
    cases made with
    | error failure => rfl
    | ok generation => cases out <;> rfl

/-- The directory of the file is in place afterwards, or the file cannot be written. -/
theorem run_prepareDirectory (host : Host) (machine : Machine) (path text : String) :
    ∃ outcome after, (prepareDirectory host.console.toFileAccess path).run machine =
        pure (outcome, after) ∧
      (outcome = .ok () ∧ host.Prepared machine path after ∨
        ∃ failure, outcome = .error failure ∧ host.Unwritten machine path text failure after) := by
  unfold prepareDirectory
  split
  next hparent => exact ⟨_, _, rfl, .inl ⟨rfl, .asItIs fun parent h => nomatch hparent.symm.trans h⟩⟩
  next hparent =>
    exact ⟨_, _, rfl, .inl ⟨rfl, .asItIs fun parent h =>
      .inl (Option.some.inj (h.symm.trans hparent))⟩⟩
  next parent hroot hparent =>
    simp only [StateT.run_bind, Host.run_isPresent, pure_bind]
    cases hpresent : host.isPresent machine parent with
    | true =>
      refine ⟨_, _, rfl, .inl ⟨rfl, .asItIs fun parent' h => .inr ?_⟩⟩
      rw [← Option.some.inj (hparent.symm.trans h), hpresent]
    | false =>
      have habsent : parent ≠ "" ∧ host.isPresent machine parent = false := ⟨hroot, hpresent⟩
      simp only [Bool.false_eq_true, if_false, StateT.run_bind, Host.run_makeDirectories, pure_bind]
      cases hmake : host.makeDirectories machine parent with
      | mk outcome after =>
        cases outcome with
        | error fault => exact ⟨_, _, rfl, .inr ⟨_, rfl, .directory hparent habsent hmake⟩⟩
        | ok => exact ⟨_, _, rfl, .inl ⟨rfl, .made hparent habsent hmake⟩⟩

/-- The file holds the source afterwards, unless it cannot be written. No other file changes. -/
theorem run_writeSource (host : Host) (machine : Machine) (path source : String) :
    ∃ outcome after, (writeSource host.console.toFileAccess path source).run machine =
        pure (outcome, after) ∧ after.printed = machine.printed ∧
      (outcome = .done ∧ machine.files.Wrote host.here path source.toUTF8 after.files ∨
        host.Unwritten machine path source outcome after) := by
  obtain ⟨prepared, between, hprepare, hcases⟩ := run_prepareDirectory host machine path source
  simp only [writeSource, StateT.run_bind, hprepare, pure_bind]
  rcases hcases with ⟨rfl, hprepared⟩ | ⟨failure, rfl, hunwritten⟩
  · simp only [StateT.run_bind, Host.run_writeText, pure_bind]
    obtain ⟨hsame, hprinted⟩ := hprepared.sameContents
    cases hwrite : host.writeText between path source with
    | error fault => exact ⟨_, _, rfl, hprinted, .inr (.file hprepared hwrite)⟩
    | ok after =>
      obtain ⟨hwrote, hafter⟩ := Host.wrote_of_writeText hwrite
      exact ⟨_, _, rfl, hafter.trans hprinted, .inl ⟨rfl, hsame.wrote hwrote⟩⟩
  · exact ⟨_, _, rfl, hunwritten.sameContents.2, .inr hunwritten⟩

theorem run_printText (host : Host) (machine : Machine) (text : String) (ending : Fault → Outcome) :
    ∃ outcome after, (printText host.console text ending).run machine = pure (outcome, after) ∧
      (outcome = .done ∧ after = machine.append text.toUTF8 ∨
        ∃ fault, outcome = ending fault ∧ host.Unprinted machine text fault after) := by
  simp only [printText, StateT.run_bind, Host.run_print, pure_bind]
  rcases host.print_cases machine text with hprint | ⟨fault, after, hprint, hunprinted⟩
  · rw [hprint]
    exact ⟨_, _, rfl, .inl ⟨rfl, rfl⟩⟩
  · rw [hprint]
    exact ⟨_, _, rfl, .inr ⟨fault, rfl, hunprinted⟩⟩

private theorem eq_ok_of_toOption {ε α : Type} {result : Except ε α} {value : α}
    (hvalue : result.toOption = some value) : result = .ok value := by
  cases result with
  | error error => cases hvalue
  | ok found => exact congrArg Except.ok (Option.some.inj hvalue)

private theorem exists_error_of_toOption {ε α : Type} {result : Except ε α}
    (hnone : result.toOption = none) : ∃ error, result = .error error := by
  cases result with
  | error error => exact ⟨error, rfl⟩
  | ok found => cases hnone

/-- The commands that make a table, on the same inputs, all fail in the same way before they print or
    write anything, or all make the same table, that of the inputs. Its source is then what is printed
    and what is written, unless printing breaks off or the file cannot be written, and what is listed
    is that table, whose rows are in the order of the source's statements. A build step that reads the
    same files writes the same bytes. -/
theorem runs_agree (host : Host) (machine : Machine) (manual : Topic → String) {inputs : Inputs}
    {out : String} {resolving printing writing : List String}
    (hresolving : Request.ofArguments? resolving = some (.resolve inputs))
    (hprinting : Request.ofArguments? printing = some (.generate inputs none))
    (hwriting : Request.ofArguments? writing = some (.generate inputs (some out))) :
    ((∀ manifest settings, inputs.read? (host.readText machine) = some (manifest, settings) →
        ∃ error, generateFromManifest settings manifest = .error error) ∧
      (∃ message cause, ∀ arguments ∈ [resolving, printing, writing],
        (run host.console manual arguments).run machine = (.failed message cause, machine)) ∧
      ∀ context manifestPath settingsPath,
        inputs.SharedWith (host.readText machine) context manifestPath settingsPath →
        ∃ lines error,
          (BuildContext.generate host.console.toFileAccess context manifestPath settingsPath).run
            machine = (⟨lines, .error error⟩, machine)) ∨
    ∃ manifest settings generation,
      inputs.read? (host.readText machine) = some (manifest, settings) ∧
      generateFromManifest settings manifest = .ok generation ∧
      settings.statements? generation.source =
        some (generation.table.rows.toList.map Row.said) ∧
      (∃ outcome after, (run host.console manual printing).run machine = (outcome, after) ∧
        (outcome = .done ∧ after = machine.append generation.source.toUTF8 ∨
          ∃ fault : Fault, outcome = .failed "writing to stdout" fault.message ∧
            host.Unprinted machine generation.source fault after)) ∧
      (∃ outcome after, (run host.console manual resolving).run machine = (outcome, after) ∧
        (outcome = .done ∧ after = machine.append generation.table.describe.toUTF8 ∨
          ∃ fault : Fault, outcome = .aborted fault.message ∧
            host.Unprinted machine generation.table.describe fault after)) ∧
      (∃ outcome after, (run host.console manual writing).run machine = (outcome, after) ∧
        after.printed = machine.printed ∧
        (outcome = .done ∧
            after.files.readBytes host.here out = .ok generation.source.toUTF8 ∨
          host.Unwritten machine out generation.source outcome after)) ∧
      ∀ context manifestPath settingsPath,
        inputs.SharedWith (host.readText machine) context manifestPath settingsPath →
        (∃ lines,
          (BuildContext.generate host.console.toFileAccess context manifestPath settingsPath).run
            machine = (⟨lines, .ok generation⟩, machine)) ∧
        ∀ name written after,
          (BuildContext.writeTable host.console.toFileAccess context name generation.source).run
            machine = (.ok written, after) →
          after.files.readBytes host.here (context.output name) = .ok generation.source.toUTF8 := by
  obtain ⟨made, hgenerate, hheld, hfailed⟩ := run_generate (host.console_reads machine) inputs
  have hrun := fun arguments request
      (harguments : Request.ofArguments? arguments = some request) hinputs =>
    @run_of_inputs host machine inputs manual _ _ _ harguments hinputs hgenerate
  cases made with
  | error failure =>
    obtain ⟨message, cause, rfl⟩ := hfailed failure rfl
    refine .inl ⟨fun manifest settings hread => ?_, ⟨message, cause, fun arguments hin => ?_⟩, ?_⟩
    · rw [Inputs.generation?, hread] at hheld
      exact exists_error_of_toOption hheld.symm
    · simp only [List.mem_cons, List.not_mem_nil, or_false] at hin
      rcases hin with rfl | rfl | rfl
      · exact hrun _ _ hresolving rfl
      · exact hrun _ _ hprinting rfl
      · exact hrun _ _ hwriting rfl
    · intro context manifestPath settingsPath hshared
      -- The step may fail with another error, but it finds no table where the inputs have none.
      obtain ⟨lines, outcome, hstep, hoption⟩ := hshared.run_generate (host.console_reads machine)
      obtain ⟨error, rfl⟩ := exists_error_of_toOption (hoption.trans hheld.symm)
      exact ⟨lines, error, hstep⟩
  | ok generation =>
    obtain ⟨⟨manifest, settings⟩, hread, htable⟩ := Option.bind_eq_some_iff.mp hheld.symm
    have htable := eq_ok_of_toOption htable
    refine .inr ⟨manifest, settings, generation, hread, htable, statements?_of_generate htable,
      ?_, ?_, ?_, ?_⟩
    · rw [hrun _ _ hprinting rfl]
      exact run_printText host machine generation.source _
    · rw [hrun _ _ hresolving rfl]
      exact run_printText host machine generation.table.describe _
    · obtain ⟨outcome, after, hwrite, hprinted, hwritten⟩ :=
        run_writeSource host machine out generation.source
      rw [hrun _ _ hwriting rfl]
      exact ⟨outcome, after, hwrite, hprinted, hwritten.imp_left (And.imp_right Files.Wrote.readBytes)⟩
    · intro context manifestPath settingsPath hshared
      obtain ⟨lines, outcome, hstep, hoption⟩ := hshared.run_generate (host.console_reads machine)
      have hmade : outcome = .ok generation := eq_ok_of_toOption (hoption.trans hheld.symm)
      exact ⟨⟨lines, hmade ▸ hstep⟩, fun name written after =>
        BuildContext.readBytes_of_run_writeTable⟩

/-- A package with one class, its manifest and its settings, and a directory for generated files. -/
def sampleFiles : Files where
  entries :=
    [(["m.toml"], .file (String.toUTF8
      "types = [\x7bname='Base'\x7d]\nassociations = [\x7btype='Base',handler='a::B'\x7d]")),
     (["k.toml"], .file (String.toUTF8 "lut.vectorize_inheritance=true")), (["out"], .directory)]

/-- A machine with the package, on which nothing has been printed. -/
def sampleMachine : Machine := ⟨sampleFiles, .empty⟩

def sampleInputs : Inputs := ⟨"m.toml", some "k.toml", false⟩

/-- What the files of the package hold. -/
theorem read?_sample : sampleInputs.read? ((Host.obliging []).readText sampleMachine) =
    some (⟨[⟨"Base", .ordinary, none, none⟩], [("Base", "a::B")]⟩, sampleSettings) := by
  decide +kernel

private theorem sharedWith_sample : sampleInputs.SharedWith ((Host.obliging []).readText sampleMachine)
    ⟨"/", "/out"⟩ "m.toml" "k.toml" where
  manifest := by decide +kernel
  settings := ⟨"k.toml", rfl, by decide +kernel⟩
  plain := rfl

private theorem generateFromManifest_read_sample : ∃ generation,
    generateFromManifest sampleSettings
      ⟨[⟨"Base", .ordinary, none, none⟩], [("Base", "a::B")]⟩ = .ok generation := by
  have hmanifest : Hierarchy.ofManifest ⟨[⟨"Base", .ordinary, none, none⟩], [("Base", "a::B")]⟩ =
      .ok ⟨[⟨"Base", .ordinary, none, none⟩], by decide, by decide⟩ :=
    eq_ok_of_map_toOption (fun _ _ => Hierarchy.eq_of_declarations) (by decide +kernel)
  have hcollect : Associations.collect [("Base", "a::B")] = .ok sampleAssociations :=
    eq_ok_of_map_toOption (fun _ _ => NameMap.ext) (by decide +kernel)
  exact ⟨_, generateFromManifest_eq_ok_iff.mpr
    ⟨_, hmanifest, validate_sample, _, hcollect, rfl⟩⟩

private theorem not_unprinted_obliging {here : Place} {machine after : Machine} {text : String}
    {fault : Fault} : ¬(Host.obliging here).Unprinted machine text fault after := by
  rintro ⟨hfault⟩
  cases hfault

/-- Any text can be written into the directory for generated files. -/
theorem writeText_sample (source : String) : ∃ after,
    (Host.obliging []).writeText sampleMachine "/out/t.rs" source = .ok after := by
  have hlocate : sampleFiles.locate [] "/out/t.rs" = .ok ⟨["out", "t.rs"], false⟩ := by
    decide +kernel
  have hfree : sampleFiles.at? ["out", "t.rs"] ≠ some .directory := by decide +kernel
  refine ⟨⟨sampleFiles.put ["out", "t.rs"] (.file source.toUTF8), .empty⟩, ?_⟩
  simp [Host.writeText, Host.obliging, sampleMachine, Files.writeText, Files.writeBytes, hlocate,
    hfree, Except.map]

private theorem not_unwritten_sample {source : String} {outcome : Outcome} {after : Machine} :
    ¬(Host.obliging []).Unwritten sampleMachine "/out/t.rs" source outcome after := by
  have hparent : Path.parent? "/out/t.rs" = some "/out" := by decide +kernel
  have hpresent : (Host.obliging []).isPresent sampleMachine "/out" = true := by decide +kernel
  have hthere : ∀ parent, Path.parent? "/out/t.rs" = some parent →
      ¬(parent ≠ "" ∧ (Host.obliging []).isPresent sampleMachine parent = false) := by
    rintro parent hsome ⟨-, habsent⟩
    rw [← Option.some.inj (hparent.symm.trans hsome), hpresent] at habsent
    cases habsent
  rintro (⟨hsome, habsent, -⟩ | ⟨hprepared, hwrite⟩)
  · exact hthere _ hsome habsent
  · cases hprepared with
    | asItIs =>
      obtain ⟨after, hwritten⟩ := writeText_sample source
      cases hwrite.symm.trans hwritten
    | made hsome habsent => exact hthere _ hsome habsent

private theorem run_writeTable_sample (source : String) : ∃ written after,
    (BuildContext.writeTable (Host.obliging []).console.toFileAccess ⟨"/", "/out"⟩ "t.rs" source).run
      sampleMachine = (.ok written, after) := by
  have hread : (Host.obliging []).readText sampleMachine "/out/t.rs" = .error .notFound := by
    decide +kernel
  have hpath : BuildContext.output ⟨"/", "/out"⟩ "t.rs" = "/out/t.rs" := by decide +kernel
  obtain ⟨after, hwrite⟩ := writeText_sample source
  simp only [BuildContext.writeTable, hpath, StateT.run_bind,
    Host.console_reads (.obliging []) sampleMachine "/out/t.rs", hread, BuildContext.isCurrent,
    pure_bind, Bool.false_eq_true, if_false, Host.run_writeText, hwrite]
  exact ⟨_, _, rfl⟩

theorem runs_agree_sample : ∃ generation,
    (run (Host.obliging []).console (fun _ => "") ("resolve" :: sampleInputs.arguments)).run
      sampleMachine = (.done, sampleMachine.append generation.table.describe.toUTF8) ∧
    (run (Host.obliging []).console (fun _ => "") ("generate" :: sampleInputs.arguments)).run
      sampleMachine = (.done, sampleMachine.append generation.source.toUTF8) ∧
    (∃ after, (run (Host.obliging []).console (fun _ => "")
        ("generate" :: OptionName.out.withValue "/out/t.rs" :: sampleInputs.arguments)).run
      sampleMachine = (.done, after) ∧
      after.files.readBytes [] "/out/t.rs" = .ok generation.source.toUTF8) ∧
    ∃ lines written after,
      (BuildContext.generate (Host.obliging []).console.toFileAccess ⟨"/", "/out"⟩ "m.toml"
        "k.toml").run sampleMachine = (⟨lines, .ok generation⟩, sampleMachine) ∧
      (BuildContext.writeTable (Host.obliging []).console.toFileAccess ⟨"/", "/out"⟩ "t.rs"
        generation.source).run sampleMachine = (.ok written, after) ∧
      after.files.readBytes [] "/out/t.rs" = .ok generation.source.toUTF8 := by
  obtain ⟨hresolving, hprinting, hwriting⟩ :=
    @ofArguments?_arguments sampleInputs (by decide) (by decide)
  obtain ⟨hfailed, -⟩ | ⟨manifest, settings, generation, -, -, -, hprinted, hlisted, hwritten, hbuilt⟩ :=
    runs_agree (Host.obliging []) sampleMachine (fun _ => "") hresolving hprinting
      (hwriting "/out/t.rs" (by decide))
  · obtain ⟨generation, hgenerate⟩ := generateFromManifest_read_sample
    obtain ⟨error, herror⟩ := hfailed _ _ read?_sample
    rw [hgenerate] at herror
    cases herror
  · refine ⟨generation, ?_, ?_, ?_, ?_⟩
    · obtain ⟨_, _, hrun, ⟨rfl, rfl⟩ | ⟨_, -, hunprinted⟩⟩ := hlisted
      · exact hrun
      · exact absurd hunprinted not_unprinted_obliging
    · obtain ⟨_, _, hrun, ⟨rfl, rfl⟩ | ⟨_, -, hunprinted⟩⟩ := hprinted
      · exact hrun
      · exact absurd hunprinted not_unprinted_obliging
    · obtain ⟨_, after, hrun, -, ⟨rfl, hbytes⟩ | hunwritten⟩ := hwritten
      · exact ⟨after, hrun, hbytes⟩
      · exact absurd hunwritten not_unwritten_sample
    · obtain ⟨⟨lines, hstep⟩, hbytes⟩ := hbuilt _ _ _ sharedWith_sample
      obtain ⟨written, after, hwrite⟩ := run_writeTable_sample generation.source
      exact ⟨lines, written, after, hstep, hwrite, hbytes "t.rs" written after hwrite⟩

end CommandLine

end RetainerTable
