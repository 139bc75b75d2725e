import RetainerTable.CommandLine.Run

namespace RetainerTable

/-- The cause that the system gives. -/
def Fault.ofSystem : IO.Error → Fault
  | .noFileOrDirectory .. => .notFound
  | .alreadyExists .. => .alreadyExists
  | .inappropriateType _ code details =>
    if code = 20 then .notDirectory
    else if code = 21 then .isDirectory
    else .other details
  | error => .other (toString error)

/-- The outcome of an action on the disk. -/
def attemptOnDisk {α : Type} (action : IO α) : IO (Except Fault α) := do
  match ← action.toBaseIO with
  | .ok value => return .ok value
  | .error error => return .error (.ofSystem error)

/-- Access to the files of the disk. -/
def diskAccess : FileAccess IO where
  readText path := do
    match ← attemptOnDisk (IO.FS.readBinFile path) with
    | .error fault => return .error fault
    | .ok bytes =>
      match String.fromUTF8? bytes with
      | some text => return .ok text
      | none => return .error .notText
  writeText path text := attemptOnDisk (IO.FS.writeFile path text)
  isPresent path := do
    return (← attemptOnDisk (IO.FS.realPath path)).toOption.isSome
  makeDirectories path := attemptOnDisk (IO.FS.createDirAll path)

/-- The disk, and what the program prints. -/
def diskConsole : Console IO where
  toFileAccess := diskAccess
  print text := attemptOnDisk do
    let out ← IO.getStdout
    out.putStr text
    out.flush

namespace CommandLine

def Command.usage : Command → String
  | .generate => "keepsake generate -m PATH [-c PATH] [--vectorize-inheritance] [-o PATH] [-v]"
  | .resolve => "keepsake resolve -m PATH [-c PATH] [--vectorize-inheritance] [-v]"

/-- How the program and its commands are used. -/
def manual : Topic → String
  | .program =>
    "Generate the type to retainer lookup table\n\nUsage: " ++ Command.usage .generate ++
      "\n       " ++ Command.usage .resolve ++
      "\n       keepsake help [generate | resolve | help]\n       keepsake -h\n       keepsake -V\n"
  | .command .generate =>
    "Emit the generated Rust source\n\nUsage: " ++ Command.usage .generate ++ "\n"
  | .command .resolve =>
    "Print the merged association table without emitting code\n\nUsage: " ++
      Command.usage .resolve ++ "\n"
  | .help => "Print help on the program or on a command\n\nUsage: keepsake help [COMMAND]\n"

/-- Says on the error stream what went wrong. -/
def Outcome.complain : Outcome → IO Unit
  | .done => return
  | .failed message cause => do
    IO.eprintln ("Error: " ++ message)
    if let some cause := cause then
      IO.eprintln ("\nCaused by:\n    " ++ cause)
  | .aborted cause => IO.eprintln ("failed printing to stdout: " ++ cause)
  | .misused => IO.eprint (manual .program)

end CommandLine

end RetainerTable

def main (arguments : List String) : IO UInt32 := do
  let outcome ←
    RetainerTable.CommandLine.run RetainerTable.diskConsole RetainerTable.CommandLine.manual arguments
  outcome.complain
  return outcome.exitCode.toUInt32
