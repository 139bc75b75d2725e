import RetainerTable.Files.Basic

namespace RetainerTable

/-- Reading and writing files in a monad. -/
structure FileAccess (m : Type → Type) where
  readText : String → m (Except Fault String)
  writeText : String → String → m (Except Fault Unit)
  isPresent : String → m Bool
  makeDirectories : String → m (Except Fault Unit)

namespace Files

/-- Runs a change of the files; one that fails leaves them as they are. -/
def attempt (change : Files → Except Fault Files) : StateM Files (Except Fault Unit) :=
  fun files =>
    match change files with
    | .ok files => (.ok (), files)
    | .error fault => (.error fault, files)

/-- Access to files in memory, as seen from a directory. -/
def access (here : Place) : FileAccess (StateM Files) where
  readText path := fun files => (files.readText here path, files)
  writeText path text := attempt (·.writeText here path text)
  isPresent path := fun files => (files.isPresent here path, files)
  makeDirectories path := fun files =>
    match files.makeDirectories here path with
    | .ok after => (.ok (), after)
    | .error (fault, after) => (.error fault, after)

end Files

end RetainerTable
