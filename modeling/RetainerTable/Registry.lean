import RetainerTable.NameMap
import RetainerTable.Text.Escape

/-!
Registries: what a program looks its retainers up in while it runs.

A builder gathers retainers under type names and is then turned into a registry, which never
changes. Retainers of several types are held as one type; a look-up narrows what it finds to the
type the caller expects and finds nothing if it is of another type.
-/

namespace RetainerTable

/-- The retainers gathered so far, by type name. -/
structure RegistryBuilder (α : Type) where
  byName : NameMap α

/-- Retainers by type name. -/
structure Registry (α : Type) where
  byName : NameMap α

/-- The error of entering a retainer under a name that has one. -/
structure DuplicateRetainer where
  typeName : String
  deriving Repr, DecidableEq

def DuplicateRetainer.message (error : DuplicateRetainer) : String :=
  "duplicate retainer for type " ++ Text.literal error.typeName

variable {α β : Type}

namespace RegistryBuilder

/-- A builder with no retainers. -/
def empty : RegistryBuilder α := ⟨.empty⟩

/-- Enters a retainer. A name that has one already is an error; the builder then holds the later
    retainer all the same. -/
def insert (builder : RegistryBuilder α) (typeName : String) (retainer : α) :
    RegistryBuilder α × Except DuplicateRetainer Unit :=
  (⟨builder.byName.insert typeName retainer⟩,
    if builder.byName.contains typeName then .error ⟨typeName⟩ else .ok ())

/-- The registry of all retainers entered. -/
def build (builder : RegistryBuilder α) : Registry α := ⟨builder.byName⟩

end RegistryBuilder

/-- What can be asked for the retainer of a type. -/
class RetainerSource (γ : Type) (α : outParam Type) where
  retainer? : γ → String → Option α

/-- The retainer of a type, narrowed to what the caller expects. -/
def RetainerSource.narrowed? {γ : Type} [RetainerSource γ α] (source : γ) (narrow : α → Option β)
    (typeName : String) : Option β :=
  (retainer? source typeName).bind narrow

/-- Any source of retainers, known by its answers alone. -/
structure RetainerView (α : Type) where
  retainer? : String → Option α

/-- The view of a source. -/
def RetainerView.of {γ : Type} [RetainerSource γ α] (source : γ) : RetainerView α :=
  ⟨RetainerSource.retainer? source⟩

/-- The retainer that a view gives a type, narrowed to what the caller expects. -/
def RetainerView.get? (view : RetainerView α) (narrow : α → Option β) (typeName : String) :
    Option β :=
  (view.retainer? typeName).bind narrow

namespace Registry

/-- A registry with no retainers. -/
def empty : Registry α := ⟨.empty⟩

/-- The retainer of a type. -/
def raw? (registry : Registry α) (typeName : String) : Option α :=
  registry.byName.get? typeName

/-- The retainer of a type, narrowed to what the caller expects. -/
def get? (registry : Registry α) (narrow : α → Option β) (typeName : String) : Option β :=
  (registry.raw? typeName).bind narrow

def contains (registry : Registry α) (typeName : String) : Bool :=
  registry.byName.contains typeName

def size (registry : Registry α) : Nat := registry.byName.size

def isEmpty (registry : Registry α) : Bool := registry.byName.isEmpty

/-- The names that have a retainer, in ascending order. -/
def typeNames (registry : Registry α) : List String := registry.byName.names

instance : RetainerSource (Registry α) α := ⟨Registry.raw?⟩

/-- The names on one line, as string literals. -/
def summary (registry : Registry α) : String :=
  "HandlerTable \x7b type_names: [" ++
    String.intercalate ", " (registry.typeNames.map Text.literal) ++ "] \x7d"

/-- The names as string literals, one a line. -/
def listing (registry : Registry α) : String :=
  let names := registry.typeNames.map fun name => "        " ++ Text.literal name ++ ",\n"
  "HandlerTable \x7b\n    type_names: [" ++
    (if names.isEmpty then "" else "\n" ++ String.join names ++ "    ") ++ "],\n\x7d"

end Registry

end RetainerTable
