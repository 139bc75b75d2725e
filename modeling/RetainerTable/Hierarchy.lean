import RetainerTable.Error
import RetainerTable.Manifest
import RetainerTable.Text.Blank
import RetainerTable.TypeReference

/-!
Type hierarchies: the declared types of a program, each with its superclass and the type it is
nested in.

A declaration is known by its name. A hierarchy holds one declaration for each name, and every
enclosing type is declared; `ofManifest` builds one or says what stands against it. A superclass
need not be declared: it then lies outside the hierarchy, like the root of all classes. Where ids of
32 bits stand for names, as in an `Arena`, all that is said of hierarchies is said of fewer than
2 ^ 32 types; ids would be given twice otherwise.
-/

namespace RetainerTable

open RetainerTable.Text

/-- A declared type. -/
structure Declaration where
  name : String
  kind : TypeKind
  superclass : Option TypeReference
  /-- The name of the type it is nested in; a top-level type has none. -/
  enclosing : Option String
  deriving Repr, DecidableEq

/-- Declared types under distinct names, in the order of the manifest. -/
structure Hierarchy where
  declarations : List Declaration
  distinct : (declarations.map Declaration.name).Nodup
  enclosed : ∀ d ∈ declarations, ∀ outer ∈ d.enclosing, outer ∈ declarations.map Declaration.name

namespace Declaration

/-- The declaration that an entry makes among the names already declared. An empty name is reported
    before a malformed superclass, and that before a name declared twice. -/
def ofEntry (declared : List String) (entry : TypeEntry) : Except Error Declaration :=
  let name := trim entry.name
  if name = "" then .error .emptyName
  else
    let superclass : Except Error (Option TypeReference) :=
      match entry.superclass with
      | none => .ok none
      | some reference =>
        match TypeReference.parse? reference with
        | some parsed => .ok (some parsed)
        | none => .error (.malformedReference name reference)
    match superclass with
    | .error error => .error error
    | .ok superclass =>
      if name ∈ declared then .error (.duplicateType name)
      else .ok ⟨name, entry.kind, superclass, entry.enclosing.map trim⟩

/-- A declaration made is under its trimmed name, which was free. -/
theorem name_of_ofEntry {declared : List String} {entry : TypeEntry} {d : Declaration}
    (h : ofEntry declared entry = .ok d) : d.name = trim entry.name ∧ d.name ∉ declared := by
  unfold ofEntry at h
  dsimp only at h
  split at h
  · cases h
  · split at h
    · cases h
    · split at h
      · cases h
      next hfree =>
        cases h
        exact ⟨rfl, hfree⟩

/-- The declarations of all entries, in order, up to the first entry that is refused. -/
def ofEntries (declared : List String) : List TypeEntry → Except Error (List Declaration)
  | [] => .ok []
  | entry :: entries =>
    match ofEntry declared entry with
    | .error error => .error error
    | .ok d =>
      match ofEntries (d.name :: declared) entries with
      | .error error => .error error
      | .ok ds => .ok (d :: ds)

/-- Declarations made together have distinct names, none of them declared before. -/
theorem distinct_of_ofEntries {entries : List TypeEntry} {declared : List String}
    {ds : List Declaration} (h : ofEntries declared entries = .ok ds) :
    (ds.map name).Nodup ∧ ∀ d ∈ ds, d.name ∉ declared := by
  induction entries generalizing declared ds with
  | nil =>
    cases h
    exact ⟨.nil, by simp⟩
  | cons entry entries ih =>
    unfold ofEntries at h
    split at h
    · cases h
    next d hd =>
      split at h
      · cases h
      next rest hrest =>
        cases h
        obtain ⟨hdistinct, hfree⟩ := ih hrest
        refine ⟨?_, ?_⟩
        · rw [List.map_cons, List.nodup_cons]
          refine ⟨fun hmem => ?_, hdistinct⟩
          obtain ⟨later, hlater, hname⟩ := List.mem_map.mp hmem
          exact hfree later hlater (hname ▸ List.mem_cons_self ..)
        · intro later hlater
          rcases List.mem_cons.mp hlater with rfl | hlater
          · exact (name_of_ofEntry hd).2
          · exact fun hin => hfree later hlater (List.mem_cons_of_mem _ hin)

/-- The declaration is nested in a type that the names do not list. -/
def isStray (names : List String) (d : Declaration) : Bool :=
  match d.enclosing with
  | none => false
  | some outer => !names.contains outer

private theorem enclosing_mem_of_not_isStray {names : List String} {d : Declaration}
    (h : isStray names d = false) : ∀ outer ∈ d.enclosing, outer ∈ names := by
  intro outer houter
  simpa [isStray, Option.mem_def.mp houter] using h

end Declaration

namespace Hierarchy

/-- The hierarchy that a manifest lists. Entries are checked in order, each by itself and against
    the entries before it; enclosing types are looked up afterwards, since they may be listed
    later. -/
def ofManifest (manifest : Manifest) : Except Error Hierarchy :=
  match hmade : Declaration.ofEntries [] manifest.types with
  | .error error => .error error
  | .ok ds =>
    match hstray : ds.find? (Declaration.isStray (ds.map Declaration.name)) with
    | some d => .error (.unknownEnclosing d.name (d.enclosing.getD ""))
    | none =>
      .ok ⟨ds, (Declaration.distinct_of_ofEntries hmade).1, fun d hd =>
        Declaration.enclosing_mem_of_not_isStray (by simpa using List.find?_eq_none.mp hstray d hd)⟩

/-- The number of declarations. -/
def size (h : Hierarchy) : Nat := h.declarations.length

/-- The declaration of a name. -/
def find? (h : Hierarchy) (name : String) : Option Declaration :=
  h.declarations.find? (·.name == name)

theorem mem_of_find? {h : Hierarchy} {name : String} {d : Declaration}
    (hfound : h.find? name = some d) : d ∈ h.declarations ∧ d.name = name :=
  ⟨List.mem_of_find?_eq_some hfound, by simpa using List.find?_some hfound⟩

/-- The declarations that are nested in no type, in order. -/
def topLevel (h : Hierarchy) : List Declaration :=
  h.declarations.filter (·.enclosing.isNone)

/-- The names of the top-level declarations. -/
def roots (h : Hierarchy) : List String :=
  h.topLevel.map Declaration.name

/-- The declarations nested directly in the named type, in order. -/
def enclosedIn (h : Hierarchy) (name : String) : List Declaration :=
  h.declarations.filter (·.enclosing == some name)

/-- The declaration that the superclass reference points at, whatever its arguments. -/
def superclassOf? (h : Hierarchy) (d : Declaration) : Option Declaration :=
  d.superclass.bind fun ref => h.find? ref.name

/-- The declarations whose names are not among the given ones. -/
def unseen (h : Hierarchy) (seen : List String) : List Declaration :=
  h.declarations.filter fun d => !seen.contains d.name

/-- Seeing a declaration for the first time leaves fewer unseen. -/
theorem length_unseen_cons_lt {h : Hierarchy} {seen : List String} {d : Declaration}
    (hmem : d ∈ h.declarations) (hnew : d.name ∉ seen) :
    (h.unseen (d.name :: seen)).length < (h.unseen seen).length := by
  have hsub : h.unseen (d.name :: seen) = (h.unseen seen).filter fun e => !(e.name == d.name) := by
    simp only [unseen, List.filter_filter]
    congr 1
    funext e
    by_cases he : e.name = d.name <;> simp [he]
  rw [hsub]
  refine List.length_filter_lt_length_iff_exists.mpr ⟨d, ?_, by simp⟩
  simpa [unseen] using And.intro hmem hnew

end Hierarchy

end RetainerTable
