import RetainerTable.Generation
import RetainerTable.Registration

/-!
A showcase: the table of a small user-interface model, looked up in while the model runs.

Of the model's classes three have a retainer of their own; buttons, panels and their headers make do
with that of their nearest ancestor.
-/

namespace RetainerTable.Showcase

/-- Stand-ins for the retainers of the model. -/
inductive Retainer
  | widget
  | iconButton
  | container
  deriving Repr, DecidableEq

namespace Retainer

/-- The path under which the rendered source finds the retainer. -/
def path : Retainer → String
  | widget => "crate::retainers::WidgetRetainer"
  | iconButton => "crate::retainers::IconButtonRetainer"
  | container => "crate::retainers::ContainerRetainer"

/-- The fields that the retainer saves and restores. -/
def fields : Retainer → List String
  | widget => ["visible", "enabled"]
  | iconButton => ["visible", "enabled", "icon"]
  | container => ["children", "scroll_offset"]

/-- The retainer that a path names, if it is the expected one. -/
def narrow (expected : Retainer) (path : Source.Path) : Option Retainer :=
  if path.text = expected.path then some expected else none

end Retainer

/-- A class at top level. -/
def rootClass (name : String) (superclass : Option String) : TypeEntry :=
  ⟨name, .ordinary, superclass, none⟩

/-- The declarations of the model and the retainers of those that declare retained fields. -/
def manifest : Manifest where
  types := [
    rootClass "demo.ui.Widget" none,
    rootClass "demo.ui.Button" "demo.ui.Widget",
    rootClass "demo.ui.IconButton" "demo.ui.Button",
    rootClass "demo.ui.ToggleButton" "demo.ui.IconButton",
    rootClass "demo.ui.Container" none,
    rootClass "demo.ui.Panel" "demo.ui.Container<demo.ui.Widget>",
    ⟨"demo.ui.Panel.Header", .ordinary, "demo.ui.Widget", "demo.ui.Panel"⟩,
    ⟨"demo.ui.Panel.Layout", .enumeration, none, "demo.ui.Panel"⟩,
    rootClass "demo.ui.Theme" none,
    ⟨"demo.ui.Clickable", .interface, none, none⟩,
    rootClass "demo.ui.NativeView" "platform.View"]
  associations := [
    ("demo.ui.Widget", Retainer.widget.path),
    ("demo.ui.IconButton", Retainer.iconButton.path),
    ("demo.ui.Container", Retainer.container.path)]

def settings : Settings :=
  { Settings.standard with
    vectorizeInheritance := true
    staticName := "RETAINERS"
    accessorName := "retainer_for"
    cacheTypeName := "DemoRetainers" }

/-- The model's registry. -/
def registry : Registry Source.Path :=
  match generateFromManifest settings manifest with
  | .error _ => .empty
  | .ok generation => generation.table.registry.toOption.getD .empty

/-- The retainer of a type, if it is the expected one. -/
def retainerFor? (expected : Retainer) (typeName : String) : Option Retainer :=
  registry.get? expected.narrow typeName

end RetainerTable.Showcase
