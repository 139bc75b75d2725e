import Mathlib.Data.List.Induction
import RetainerTable.Proofs.NameMap
import RetainerTable.Registry

/-!
Sessions: a builder and the current registry, step after step.

Between two builds the builder holds what was entered since the first of them, the latest entry of
a name counting (`get?_builder_after`), those that met a duplicate included. A build turns this into
the current registry, which nothing but the next build replaces (`registry_after_append`).
-/

namespace RetainerTable

/-- A retainer of whichever type, which it is tagged with. -/
structure ErasedRetainer {Kind : Type} (Carrier : Kind → Type) where
  kind : Kind
  value : Carrier kind

namespace ErasedRetainer

variable {Kind : Type} [DecidableEq Kind] {Carrier : Kind → Type}

/-- The retainer, if it is of the expected type. -/
def narrow (kind : Kind) (retainer : ErasedRetainer Carrier) : Option (Carrier kind) :=
  if h : retainer.kind = kind then some (h ▸ retainer.value) else none

/-- Narrowing finds the retainers of the expected type, and these only. -/
theorem narrow_eq_some_iff {kind : Kind} {retainer : ErasedRetainer Carrier}
    {value : Carrier kind} : retainer.narrow kind = some value ↔ retainer = ⟨kind, value⟩ := by
  obtain ⟨tag, held⟩ := retainer
  by_cases htag : tag = kind
  · subst htag
    simp [narrow]
  · simp [narrow, htag]

private theorem bind_narrow_eq_some_iff {kind : Kind} {found : Option (ErasedRetainer Carrier)}
    {value : Carrier kind} : found.bind (narrow kind) = some value ↔ found = some ⟨kind, value⟩ := by
  simp [Option.bind_eq_some_iff, narrow_eq_some_iff]

end ErasedRetainer

namespace Registry

/-- The ways to ask a registry agree: the type names are those it contains, in ascending order, and a
    retainer of a type is found, whichever way it is asked for, if the registry's own answer is of
    that type. -/
structure Coherent {Kind : Type} [DecidableEq Kind] {Carrier : Kind → Type}
    (registry : Registry (ErasedRetainer Carrier)) : Prop where
  ascending : registry.typeNames.Pairwise (· < ·)
  mem_typeNames : ∀ name, name ∈ registry.typeNames ↔ registry.contains name = true
  contains : ∀ name, registry.contains name = (registry.raw? name).isSome
  size : registry.size = registry.typeNames.length
  isEmpty : registry.isEmpty = true ↔ registry.typeNames = []
  get? : ∀ name kind value, registry.get? (ErasedRetainer.narrow kind) name = some value ↔
    registry.raw? name = some ⟨kind, value⟩
  narrowed? : ∀ name kind value,
    RetainerSource.narrowed? registry (ErasedRetainer.narrow kind) name = some value ↔
      registry.raw? name = some ⟨kind, value⟩
  view : ∀ name kind value,
    (RetainerView.of registry).get? (ErasedRetainer.narrow kind) name = some value ↔
      registry.raw? name = some ⟨kind, value⟩

variable {α : Type}

private theorem mem_typeNames_iff {registry : Registry α} {name : String} :
    name ∈ registry.typeNames ↔ registry.contains name = true := by
  rw [typeNames, NameMap.mem_names_iff, contains, NameMap.contains, Option.isSome_iff_exists]

private theorem typeNames_ascending (registry : Registry α) : registry.typeNames.Pairwise (· < ·) := by
  rw [typeNames, NameMap.names, List.pairwise_map]
  exact registry.byName.ascending

private theorem coherent {Kind : Type} [DecidableEq Kind] {Carrier : Kind → Type}
    (registry : Registry (ErasedRetainer Carrier)) : registry.Coherent where
  ascending := registry.typeNames_ascending
  mem_typeNames _ := mem_typeNames_iff
  contains _ := rfl
  size := by simp [size, NameMap.size, typeNames, NameMap.names]
  isEmpty := by simp [isEmpty, NameMap.isEmpty, typeNames, NameMap.names]
  get? _ _ _ := ErasedRetainer.bind_narrow_eq_some_iff
  narrowed? _ _ _ := ErasedRetainer.bind_narrow_eq_some_iff
  view _ _ _ := ErasedRetainer.bind_narrow_eq_some_iff

end Registry

/-- A builder and the registry that was built last. -/
structure Session (α : Type) where
  builder : RegistryBuilder α
  registry : Registry α

namespace Session

/-- A step: an entry into the builder, a build, or any observation of the current registry. -/
inductive Step (α β : Type)
  | insert (typeName : String) (retainer : α)
  | build
  | look (observe : Registry α → β)

/-- What a step answers. -/
inductive Answer (β : Type)
  | entered (outcome : Except DuplicateRetainer Unit)
  | built
  | seen (answer : β)

variable {α β : Type}

/-- Before the first step: nothing entered and nothing built. -/
def start : Session α := ⟨.empty, .empty⟩

/-- One step. The builder that a build consumes is followed by one with no retainers. -/
def step (session : Session α) : Step α β → Session α × Answer β
  | .insert typeName retainer =>
    let (builder, outcome) := session.builder.insert typeName retainer
    ({ session with builder }, .entered outcome)
  | .build => (⟨.empty, session.builder.build⟩, .built)
  | .look observe => (session, .seen (observe session.registry))

/-- The session after a sequence of steps. -/
def after (steps : List (Step α β)) : Session α :=
  steps.foldl (fun session next => (session.step next).1) start

/-- What a step enters. -/
def Step.entry? : Step α β → Option (String × α)
  | .insert typeName retainer => some (typeName, retainer)
  | _ => none

def Step.isBuild : Step α β → Bool
  | .build => true
  | _ => false

/-- What the steps after the last build enter, the latest entry first. -/
def recent (steps : List (Step α β)) : List (String × α) :=
  (steps.reverse.takeWhile fun next => !next.isBuild).filterMap Step.entry?

theorem after_snoc (steps : List (Step α β)) (next : Step α β) :
    after (steps ++ [next]) = ((after steps).step next).1 := by
  simp [after]

private theorem recent_snoc (steps : List (Step α β)) (next : Step α β) :
    recent (steps ++ [next]) = match next with
      | .insert typeName retainer => (typeName, retainer) :: recent steps
      | .build => []
      | .look _ => recent steps := by
  cases next <;> simp [recent, Step.isBuild, Step.entry?, List.filterMap_cons]

/-- The builder holds what was entered since the last build, the latest entry of each name. -/
theorem get?_builder_after (steps : List (Step α β)) (name : String) :
    (after steps).builder.byName.get? name = (recent steps).lookup name := by
  -- A step is added at the end, which is where `recent` begins to read.
  induction steps using List.reverseRecOn with
  | nil => rfl
  | append_singleton steps next ih =>
    rw [after_snoc, recent_snoc]
    cases next with
    | insert typeName retainer =>
      simp only [step, RegistryBuilder.insert, NameMap.get?_insert, ih,
        AssociationList.lookup_cons_eq]
    | build => rfl
    | look observe => exact ih

private theorem contains_builder_after (steps : List (Step α β)) (name : String) :
    (after steps).builder.byName.contains name = true ↔ name ∈ (recent steps).map Prod.fst := by
  rw [NameMap.contains, get?_builder_after, List.lookup_isSome_iff, List.mem_map]
  simp only [beq_iff_eq, eq_comm (a := name)]

/-- Only a build replaces the current registry. -/
theorem registry_step (session : Session α) {next : Step α β} (hnext : next ≠ .build) :
    (session.step next).1.registry = session.registry := by
  cases next with
  | insert typeName retainer => rfl
  | build => exact absurd rfl hnext
  | look observe => rfl

private theorem registry_after_append (steps : List (Step α β)) {later : List (Step α β)}
    (hlater : .build ∉ later) : (after (steps ++ later)).registry = (after steps).registry := by
  induction later using List.reverseRecOn with
  | nil => rw [List.append_nil]
  | append_singleton later next ih =>
    obtain ⟨hlater, hnext⟩ : .build ∉ later ∧ .build ≠ next := by simpa using hlater
    rw [← List.append_assoc, after_snoc, registry_step _ hnext.symm, ih hlater]

/-- After any steps an entry meets a duplicate exactly if its name was entered since the last build.
    A build makes the latest of these entries, those with a duplicate included, the answers of the
    current registry; no steps without a build change it. All ways to ask it agree. -/
theorem after_answers {Kind : Type} [DecidableEq Kind] {Carrier : Kind → Type}
    (steps later : List (Step (ErasedRetainer Carrier) β)) (name : String)
    (retainer : ErasedRetainer Carrier) :
    ((after steps).step (.insert name retainer : Step _ β)).2 =
      .entered (if name ∈ (recent steps).map Prod.fst then .error ⟨name⟩ else .ok ()) ∧
    (after (steps ++ [.build])).registry.raw? name = (recent steps).lookup name ∧
    (.build ∉ later → (after (steps ++ later)).registry = (after steps).registry) ∧
    (after steps).registry.Coherent := by
  refine ⟨?_, ?_, registry_after_append steps, (after steps).registry.coherent⟩
  · simp only [step, RegistryBuilder.insert, contains_builder_after]
  · rw [after_snoc]
    exact get?_builder_after steps name

/-- Two entries under one name, of retainers of two types. -/
def doubled : List (Step (ErasedRetainer fun _ : Bool => Nat) Nat) :=
  [.insert "Base" ⟨true, 1⟩, .insert "Base" ⟨false, 2⟩]

theorem after_answers_doubled :
    ((after doubled).step (.insert "Base" ⟨true, 3⟩ : Step _ Nat)).2 =
      .entered (.error ⟨"Base"⟩) ∧
    (after (doubled ++ [.build])).registry.raw? "Base" = some ⟨false, 2⟩ ∧
    (after (doubled ++ [.build] ++ [.insert "Leaf" ⟨true, 3⟩, .look Registry.size])).registry =
      (after (doubled ++ [.build])).registry ∧
    (after (doubled ++ [.build])).registry.get? (ErasedRetainer.narrow false) "Base" = some 2 := by
  obtain ⟨hinsert, hbuild, -, -⟩ := after_answers doubled [] "Base" ⟨true, 3⟩
  obtain ⟨-, -, hlater, hcoherent⟩ := after_answers (doubled ++ [.build])
    [.insert "Leaf" ⟨true, 3⟩, .look Registry.size] "Leaf" ⟨true, 3⟩
  refine ⟨hinsert, hbuild, hlater (by simp), ?_⟩
  exact (hcoherent.get? "Base" false 2).mpr hbuild

end Session

end RetainerTable
