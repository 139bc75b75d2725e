import RetainerTable.Generation
import RetainerTable.Loading

/-!
Build contexts: a table made as a step of a package's build.

The package's inputs lie in one directory, its generated files in another. Every input is announced
to the build system on a line of its own before it is read, whether or not reading succeeds, so that
a later change to it starts the step again. A table that is already on disk is not written a second
time: its file keeps its date and nothing that depends on it is built again.
-/

namespace RetainerTable

/-- The two directories of a build step. -/
structure BuildContext where
  manifestDir : String
  outDir : String
  deriving Repr, DecidableEq

/-- An outcome and the lines announced on the way to it. -/
structure Announced (α : Type) where
  lines : List String
  outcome : α

/-- Where a table is, and whether it had to be written to be there. -/
structure WrittenTable where
  path : String
  changed : Bool
  deriving Repr, DecidableEq

namespace BuildContext

/-- The context that the environment describes. -/
def ofEnvironment (valueOf : String → Option String) : Except Error BuildContext :=
  match valueOf "CARGO_MANIFEST_DIR" with
  | none => .error (.missingVariable "CARGO_MANIFEST_DIR")
  | some manifestDir =>
    match valueOf "OUT_DIR" with
    | none => .error (.missingVariable "OUT_DIR")
    | some outDir => .ok ⟨manifestDir, outDir⟩

/-- Where an input lies. -/
def asset (context : BuildContext) (path : String) : String :=
  Path.join context.manifestDir path

/-- Where a generated file lies. -/
def output (context : BuildContext) (name : String) : String :=
  Path.join context.outDir name

/-- The line that announces an input. -/
def announcement (path : String) : String :=
  "cargo:rerun-if-changed=" ++ path

variable {m : Type → Type} [Monad m]

def loadManifest (access : FileAccess m) (context : BuildContext) (path : String) :
    m (Announced (Except Error Manifest)) := do
  let path := context.asset path
  return ⟨[announcement path], ← Manifest.load access path⟩

def loadSettings (access : FileAccess m) (context : BuildContext) (path : String) :
    m (Announced (Except Error Settings)) := do
  let path := context.asset path
  return ⟨[announcement path], ← Settings.load access path⟩

/-- The table of a manifest and settings. Where the manifest cannot be loaded the settings are not
    looked for. -/
def generate (access : FileAccess m) (context : BuildContext) (manifest settings : String) :
    m (Announced (Except Error Generation)) := do
  let first ← loadManifest access context manifest
  match first.outcome with
  | .error error => return ⟨first.lines, .error error⟩
  | .ok manifest =>
    let second ← loadSettings access context settings
    match second.outcome with
    | .error error => return ⟨first.lines ++ second.lines, .error error⟩
    | .ok settings =>
      return ⟨first.lines ++ second.lines, generateFromManifest settings manifest⟩

/-- Reading gave the source, so the file needs no writing. -/
def isCurrent (source : String) : Except Fault String → Bool
  | .ok text => text == source
  | .error _ => false

/-- Sees to it that the generated file holds the source, and writes it only if it does not. -/
def writeTable (access : FileAccess m) (context : BuildContext) (name source : String) :
    m (Except Error WrittenTable) := do
  let path := context.output name
  if isCurrent source (← access.readText path) then
    return .ok ⟨path, false⟩
  match ← access.writeText path source with
  | .error fault => return .error (.unwritableTable path fault)
  | .ok () => return .ok ⟨path, true⟩

end BuildContext

end RetainerTable
