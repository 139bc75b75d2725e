import RetainerTable.CommandLine.Console
import RetainerTable.Proofs.BuildContext

namespace RetainerTable

@[simp] theorem Machine.printed_append (machine : Machine) (bytes : ByteArray) :
    (machine.append bytes).printed = machine.printed ++ bytes := rfl

namespace Host

variable {host : Host} {machine after : Machine} {path text : String}

theorem console_reads (host : Host) (machine : Machine) :
    host.console.toFileAccess.Reads machine (host.readText machine) := fun _ => rfl

theorem run_writeText (host : Host) (machine : Machine) (path text : String) :
    (host.console.writeText path text).run machine =
      pure (match host.writeText machine path text with
        | .ok after => (.ok (), after)
        | .error fault => (.error fault, machine)) := rfl

theorem run_isPresent (host : Host) (machine : Machine) (path : String) :
    (host.console.isPresent path).run machine = pure (host.isPresent machine path, machine) := rfl

theorem run_makeDirectories (host : Host) (machine : Machine) (path : String) :
    (host.console.makeDirectories path).run machine = pure (host.makeDirectories machine path) := rfl

theorem run_print (host : Host) (machine : Machine) (text : String) :
    (host.console.print text).run machine = pure (host.print machine text) := rfl

private theorem readBytes_of_readText (hread : host.readText machine path = .ok text) :
    machine.files.readBytes host.here path = .ok text.toUTF8 := by
  unfold readText at hread
  split at hread
  · cases hread
  · exact Files.readText_eq_ok_iff.mp hread

/-- A write that succeeds changes the files as a write does, and prints nothing. -/
theorem wrote_of_writeText (hwrite : host.writeText machine path text = .ok after) :
    machine.files.Wrote host.here path text.toUTF8 after.files ∧
      after.printed = machine.printed := by
  unfold writeText at hwrite
  split at hwrite
  · cases hwrite
  · cases hfiles : machine.files.writeText host.here path text with
    | error fault =>
      rw [hfiles] at hwrite
      cases hwrite
    | ok files =>
      rw [hfiles] at hwrite
      cases hwrite
      exact ⟨Files.wrote_of_writeText hfiles, rfl⟩

theorem makeDirectories_sameContents (host : Host) (machine : Machine) (path : String) :
    machine.files.SameContents (host.makeDirectories machine path).2.files ∧
      (host.makeDirectories machine path).2.printed = machine.printed := by
  have hmake : ∀ path, machine.files.SameContents
      (((Files.access host.here).makeDirectories path).run machine.files).2 := by
    intro path
    obtain ⟨outcome, files, hrun, hsame⟩ :=
      Files.run_makeDirectories_sameContents machine.files host.here path
    rw [hrun]
    exact hsame
  unfold makeDirectories
  split
  · exact ⟨hmake _, rfl⟩
  · exact ⟨hmake path, rfl⟩

end Host

/-- After a successful build step the generated file holds the source, also where it was current. -/
theorem BuildContext.readBytes_of_run_writeTable {host : Host} {machine after : Machine}
    {context : BuildContext} {name source : String} {written : WrittenTable}
    (hwrite : (writeTable host.console.toFileAccess context name source).run machine =
      (.ok written, after)) :
    after.files.readBytes host.here (context.output name) = .ok source.toUTF8 := by
  simp only [writeTable, StateT.run_bind, Host.console_reads host machine _, pure_bind] at hwrite
  cases hcurrent : isCurrent source (host.readText machine (context.output name)) with
  | true =>
    rw [hcurrent] at hwrite
    cases hwrite
    exact Host.readBytes_of_readText (eq_of_isCurrent hcurrent)
  | false =>
    simp only [hcurrent, Bool.false_eq_true, if_false, StateT.run_bind, Host.run_writeText,
      pure_bind] at hwrite
    cases hfiles : host.writeText machine (context.output name) source with
    | error fault =>
      rw [hfiles] at hwrite
      cases hwrite
    | ok files =>
      rw [hfiles] at hwrite
      cases hwrite
      exact (Host.wrote_of_writeText hfiles).1.readBytes

end RetainerTable
