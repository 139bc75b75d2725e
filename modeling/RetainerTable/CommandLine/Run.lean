import RetainerTable.CommandLine.Console
import RetainerTable.CommandLine.Request
import RetainerTable.Generation
import RetainerTable.Loading

namespace RetainerTable.CommandLine

/-- How a run ends. -/
inductive Outcome
  | done
  /-- What could not be done, and why where that is not said already. -/
  | failed (message : String) (cause : Option String)
  /-- The run broke off while it was printing. -/
  | aborted (cause : String)
  /-- The arguments make no request. -/
  | misused
  deriving Repr, DecidableEq

def Outcome.exitCode : Outcome → UInt8
  | done => 0
  | failed .. => 1
  | aborted _ => 101
  | misused => 2

/-- The answer to a wish for the version. -/
def versionLine : String := "keepsake 0.1.0\n"

variable {m : Type → Type} [Monad m]

/-- The settings to go by: those in the file, or the standard ones. -/
def loadSettings (access : FileAccess m) : Option String → m (Except Error Settings)
  | none => return .ok .standard
  | some path => Settings.load access path

/-- The settings with what the command line forces on. -/
def Inputs.apply (inputs : Inputs) (settings : Settings) : Settings :=
  { settings with
    vectorizeInheritance := inputs.vectorizeInheritance || settings.vectorizeInheritance }

/-- The table of the inputs, or how the run ends without one. -/
def generate (access : FileAccess m) (inputs : Inputs) : m (Except Outcome Generation) := do
  match ← Manifest.load access inputs.manifest with
  | .error error => return .error (.failed ("loading manifest " ++ inputs.manifest) error.message)
  | .ok manifest =>
    match ← loadSettings access inputs.settings with
    | .error error =>
      return .error (.failed ("loading config " ++ inputs.settings.getD "") error.message)
    | .ok settings =>
      match generateFromManifest (inputs.apply settings) manifest with
      | .error error => return .error (.failed error.message none)
      | .ok generation => return .ok generation

/-- Makes the directory of a file where there is none. -/
def prepareDirectory (access : FileAccess m) (path : String) : m (Except Outcome Unit) := do
  match Path.parent? path with
  | none | some "" => return .ok ()
  | some parent =>
    if ← access.isPresent parent then return .ok ()
    match ← access.makeDirectories parent with
    | .error fault => return .error (.failed ("creating " ++ parent) fault.message)
    | .ok () => return .ok ()

/-- Writes the source into the file. -/
def writeSource (access : FileAccess m) (path source : String) : m Outcome := do
  match ← prepareDirectory access path with
  | .error outcome => return outcome
  | .ok () =>
    match ← access.writeText path source with
    | .error fault => return .failed ("writing " ++ path) fault.message
    | .ok () => return .done

/-- Prints the text. How the run ends where that fails is given. -/
def printText (console : Console m) (text : String) (ending : Fault → Outcome) : m Outcome := do
  match ← console.print text with
  | .error fault => return ending fault
  | .ok () => return .done

/-- Answers a question about the program. Nobody asks whether the answer could be printed. -/
def answer (console : Console m) (text : String) : m Outcome := do
  let _ ← console.print text
  return .done

/-- Carries out a request. Help is taken from the manual. -/
def Request.run (console : Console m) (manual : Topic → String) : Request → m Outcome
  | .version => answer console versionLine
  | .help topic => answer console (manual topic)
  | .resolve inputs => do
    match ← CommandLine.generate console.toFileAccess inputs with
    | .error outcome => return outcome
    | .ok generation =>
      printText console generation.table.describe fun fault => .aborted fault.message
  | .generate inputs out => do
    match ← CommandLine.generate console.toFileAccess inputs with
    | .error outcome => return outcome
    | .ok generation =>
      match out with
      | none =>
        printText console generation.source fun fault => .failed "writing to stdout" fault.message
      | some path => writeSource console.toFileAccess path generation.source

/-- Carries out what the arguments ask for. -/
def run (console : Console m) (manual : Topic → String) (arguments : List String) : m Outcome :=
  match Request.ofArguments? arguments with
  | none => return .misused
  | some request => request.run console manual

end RetainerTable.CommandLine
