import RetainerTable.Files.Access
import RetainerTable.ManifestDocument
import RetainerTable.SettingsDocument

namespace RetainerTable

variable {m : Type → Type} [Monad m]

/-- The manifest in the file. -/
def Manifest.load (access : FileAccess m) (path : String) : m (Except Error Manifest) := do
  match ← access.readText path with
  | .error fault => return .error (.unreadableManifest path fault)
  | .ok text => return Manifest.read text

/-- The settings in the file. -/
def Settings.load (access : FileAccess m) (path : String) : m (Except Error Settings) := do
  match ← access.readText path with
  | .error fault => return .error (.unreadableSettings path fault)
  | .ok text => return Settings.read text

end RetainerTable
