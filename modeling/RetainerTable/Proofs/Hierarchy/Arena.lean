import Mathlib.Data.List.Basic
import RetainerTable.Proofs.Hierarchy.Refusal
import RetainerTable.Proofs.NameMap

/-!
Hierarchies laid out in an arena, where a declaration is known by its position and not by its name.

`Arena.ofManifest` fills an arena in two passes: the first lays out the declarations, the second puts
the id of each either among the roots or among the ids nested in another. `Arena.Lays` is what both
passes keep. They make an arena of exactly the manifests that list a hierarchy, stop with the same
errors, and never follow an id that is the position of no declaration (`lays_ofManifest`,
`ofManifest_of_refused`).
-/

namespace RetainerTable

open RetainerTable.Text

/-- What an arena holds of a declaration. -/
structure Slot where
  name : String
  kind : TypeKind
  superclass : Option TypeReference
  /-- The ids of the types nested directly in it. -/
  nested : List UInt32
  deriving Repr, DecidableEq

/-- A hierarchy whose declarations are known by their positions. -/
structure Arena where
  slots : List Slot
  byName : NameMap UInt32
  /-- The ids of the types that are nested in none. -/
  roots : List UInt32

/-- Which names are declared counts, not their order. -/
theorem Declaration.ofEntry_congr {declared names : List String} {entry : TypeEntry}
    (hnames : ∀ name, name ∈ declared ↔ name ∈ names) :
    ofEntry declared entry = ofEntry names entry := by
  unfold ofEntry
  simp only [hnames]

namespace Arena

/-- Why no arena is made. -/
inductive Fault
  | refused (error : Error)
  /-- An id was followed that is the position of no declaration. -/
  | outOfRange (id : UInt32)
  deriving Repr, DecidableEq

def empty : Arena := ⟨[], .empty, []⟩

def find? (arena : Arena) (name : String) : Option UInt32 := arena.byName.get? name

/-- The declaration at the position. -/
def slot? (arena : Arena) (id : UInt32) : Option Slot := arena.slots[id.toNat]?

/-- Lays out what an entry declares, behind all others. -/
def declare (arena : Arena) (entry : TypeEntry) : Except Fault Arena :=
  match Declaration.ofEntry arena.byName.names entry with
  | .error error => .error (.refused error)
  | .ok d =>
    .ok { arena with
      slots := arena.slots ++ [⟨d.name, d.kind, d.superclass, []⟩]
      byName := arena.byName.insert d.name (.ofNat arena.slots.length) }

/-- Lays out what all entries declare, up to the first that is refused. -/
def declareAll (arena : Arena) : List TypeEntry → Except Fault Arena
  | [] => .ok arena
  | entry :: entries =>
    match arena.declare entry with
    | .error fault => .error fault
    | .ok arena => arena.declareAll entries

/-- Puts the id of an entry's declaration among the roots, or among those nested in the enclosing
    declaration. -/
def place (arena : Arena) (id : UInt32) (entry : TypeEntry) : Except Fault Arena :=
  match entry.enclosing.map trim with
  | none => .ok { arena with roots := arena.roots ++ [id] }
  | some outer =>
    match arena.find? outer with
    | none => .error (.refused (.unknownEnclosing (trim entry.name) outer))
    | some parent =>
      match arena.slot? parent with
      | none => .error (.outOfRange parent)
      | some slot =>
        .ok { arena with
          slots := arena.slots.set parent.toNat { slot with nested := slot.nested ++ [id] } }

/-- Places the entries in order, the first of them at the position. -/
def placeAll (arena : Arena) (position : Nat) : List TypeEntry → Except Fault Arena
  | [] => .ok arena
  | entry :: entries =>
    match arena.place (.ofNat position) entry with
    | .error fault => .error fault
    | .ok arena => arena.placeAll (position + 1) entries

/-- The arena of the hierarchy that a manifest lists. -/
def ofManifest (manifest : Manifest) : Except Fault Arena :=
  match declareAll .empty manifest.types with
  | .error fault => .error fault
  | .ok arena => arena.placeAll 0 manifest.types

/-- The ids of the declarations that pass the test, in order. -/
def idsOf (p : Declaration → Bool) (ds : List Declaration) : List UInt32 :=
  (ds.findIdxs p).map UInt32.ofNat

private theorem idsOf_snoc (p : Declaration → Bool) (ds : List Declaration) (d : Declaration) :
    idsOf p (ds ++ [d]) = idsOf p ds ++ if p d then [.ofNat ds.length] else [] := by
  rw [idsOf, List.findIdxs_append, List.findIdxs_singleton, Nat.zero_add, List.map_append]
  split <;> rfl

private theorem idsOf_snoc_of_pos {p : Declaration → Bool} {d : Declaration} (hd : p d = true)
    (ds : List Declaration) : idsOf p (ds ++ [d]) = idsOf p ds ++ [.ofNat ds.length] := by
  rw [idsOf_snoc, if_pos hd]

private theorem idsOf_snoc_of_neg {p : Declaration → Bool} {d : Declaration} (hd : p d = false)
    (ds : List Declaration) : idsOf p (ds ++ [d]) = idsOf p ds := by
  rw [idsOf_snoc, hd, if_neg Bool.false_ne_true, List.append_nil]

/-- A slot, as it is when the ids of the placed declarations are where they belong. -/
def slotOf (placed : List Declaration) (d : Declaration) : Slot :=
  ⟨d.name, d.kind, d.superclass, idsOf (·.enclosing == some d.name) placed⟩

/-- The arena holds the declarations, and the ids of the first of them, the placed ones, are where
    they belong. -/
structure Lays (ds placed : List Declaration) (arena : Arena) : Prop where
  slots : arena.slots = ds.map (slotOf placed)
  roots : arena.roots = idsOf (·.enclosing.isNone) placed
  finds : ∀ name id, arena.find? name = some id ↔
    ∃ i d, ds[i]? = some d ∧ d.name = name ∧ id = .ofNat i

variable {arena : Arena} {ds placed more : List Declaration} {d : Declaration} {entry : TypeEntry}
  {entries : List TypeEntry} {declared : List String} {error : Error} {manifest : Manifest}

private theorem lays_empty : Lays [] [] .empty where
  slots := rfl
  roots := rfl
  finds := by simp [find?, empty]

theorem Lays.exists_find?_iff (hlays : Lays ds placed arena) {name : String} :
    (∃ id, arena.find? name = some id) ↔ name ∈ ds.map Declaration.name := by
  simp only [hlays.finds]
  rw [List.mem_map]
  simp only [List.mem_iff_getElem?]
  constructor
  · rintro ⟨id, i, d, hi, hname, -⟩
    exact ⟨d, ⟨i, hi⟩, hname⟩
  · rintro ⟨d, ⟨i, hi⟩, hname⟩
    exact ⟨_, i, d, hi, hname, rfl⟩

theorem Lays.mem_names_iff (hlays : Lays ds placed arena) {name : String} :
    name ∈ arena.byName.names ↔ name ∈ ds.map Declaration.name := by
  rw [← hlays.exists_find?_iff]
  exact NameMap.mem_names_iff

/-- Whatever holds somewhere in a longer list holds in front of its last member or there. -/
theorem exists_getElem?_snoc_iff {P : Nat → Declaration → Prop} :
    (∃ i e, (ds ++ [d])[i]? = some e ∧ P i e) ↔
      (∃ i e, ds[i]? = some e ∧ P i e) ∨ P ds.length d := by
  constructor
  · rintro ⟨i, e, hi, hp⟩
    rw [List.getElem?_append] at hi
    split at hi
    · exact .inl ⟨i, e, hi, hp⟩
    next hge =>
      obtain ⟨hzero, rfl⟩ : i - ds.length = 0 ∧ d = e := by simpa [List.getElem?_singleton] using hi
      have hlast : i = ds.length := by omega
      exact .inr (hlast ▸ hp)
  · rintro (⟨i, e, hi, hp⟩ | hp)
    · have hlt := (List.getElem?_eq_some_iff.mp hi).1
      exact ⟨i, e, by rw [List.getElem?_append_left hlt, hi], hp⟩
    · exact ⟨ds.length, d, by simp, hp⟩

section Declaring

variable (hlays : Lays ds [] arena)
  (hdeclared : ∀ name, name ∈ declared ↔ name ∈ ds.map Declaration.name)
include hlays hdeclared

private theorem Lays.declare_eq : arena.declare entry =
    match Declaration.ofEntry declared entry with
    | .error error => .error (.refused error)
    | .ok d =>
      .ok { arena with
        slots := arena.slots ++ [⟨d.name, d.kind, d.superclass, []⟩]
        byName := arena.byName.insert d.name (.ofNat arena.slots.length) } := by
  have hsame : Declaration.ofEntry arena.byName.names entry = Declaration.ofEntry declared entry :=
    Declaration.ofEntry_congr fun name => hlays.mem_names_iff.trans (hdeclared name).symm
  rw [declare, hsame]

/-- A declaration under a new name is laid out behind the others. -/
theorem Lays.exists_declare (hentry : Declaration.ofEntry declared entry = .ok d) :
    ∃ next, arena.declare entry = .ok next ∧ Lays (ds ++ [d]) [] next := by
  rw [hlays.declare_eq hdeclared, hentry]
  have hfree : ∀ other ∈ ds, other.name ≠ d.name := by
    intro other hother hname
    exact (Declaration.name_of_ofEntry hentry).2
      ((hdeclared _).mpr (hname ▸ List.mem_map_of_mem hother))
  refine ⟨_, rfl, ?_, hlays.roots, fun name id => ?_⟩
  · simp [hlays.slots, slotOf, idsOf]
  · have hlength : arena.slots.length = ds.length := by rw [hlays.slots, List.length_map]
    rw [exists_getElem?_snoc_iff, ← hlays.finds, hlength]
    simp only [find?, NameMap.get?_insert]
    by_cases hname : name = d.name
    · have hnone : arena.byName.get? name = none := by
        refine Option.eq_none_iff_forall_ne_some.mpr fun other hother => ?_
        obtain ⟨i, e, he, hsame, -⟩ := (hlays.finds name other).mp hother
        exact hfree e (List.mem_of_getElem? he) (hsame.trans hname)
      simp [hname ▸ hnone, hname, eq_comm]
    · simp [hname, Ne.symm hname]

end Declaring

private theorem Lays.declareAll_of_error (hlays : Lays ds [] arena)
    (hdeclared : ∀ name, name ∈ declared ↔ name ∈ ds.map Declaration.name)
    (hfails : Declaration.ofEntries declared entries = .error error) :
    arena.declareAll entries = .error (.refused error) := by
  induction entries generalizing declared ds arena with
  | nil => cases hfails
  | cons entry entries ih =>
    unfold Declaration.ofEntries at hfails
    split at hfails
    next hentry =>
      cases hfails
      rw [declareAll, hlays.declare_eq hdeclared, hentry]
    next d hentry =>
      split at hfails
      next hentries =>
        cases hfails
        obtain ⟨next, hnext, hlays'⟩ := hlays.exists_declare hdeclared hentry
        rw [declareAll, hnext]
        exact ih hlays' (by simp [hdeclared, or_comm]) hentries
      next => cases hfails

private theorem Lays.exists_declareAll (hlays : Lays ds [] arena)
    (hdeclared : ∀ name, name ∈ declared ↔ name ∈ ds.map Declaration.name)
    (hmade : Declaration.ofEntries declared entries = .ok more) :
    ∃ next, arena.declareAll entries = .ok next ∧ Lays (ds ++ more) [] next := by
  induction entries generalizing declared ds arena more with
  | nil =>
    cases hmade
    exact ⟨arena, rfl, by rwa [List.append_nil]⟩
  | cons entry entries ih =>
    unfold Declaration.ofEntries at hmade
    split at hmade
    · cases hmade
    next d hentry =>
      split at hmade
      · cases hmade
      next rest hrest =>
        cases hmade
        obtain ⟨next, hnext, hlays'⟩ := hlays.exists_declare hdeclared hentry
        obtain ⟨last, hlast, hlays''⟩ := ih hlays' (by simp [hdeclared, or_comm]) hrest
        refine ⟨last, by rw [declareAll, hnext]; exact hlast, ?_⟩
        rwa [List.append_assoc] at hlays''

section Placing

private theorem slotOf_snoc_of_enclosing {e : Declaration} (hin : d.enclosing = some e.name) :
    slotOf (placed ++ [d]) e =
      { slotOf placed e with nested := (slotOf placed e).nested ++ [.ofNat placed.length] } := by
  simp [slotOf, idsOf_snoc_of_pos, hin]

private theorem slotOf_snoc_of_enclosing_ne {e : Declaration} (hout : d.enclosing ≠ some e.name) :
    slotOf (placed ++ [d]) e = slotOf placed e := by
  simp [slotOf, idsOf_snoc_of_neg, hout]

/-- Only the slot of the enclosing declaration changes when an id is placed. -/
theorem set_slotOf {i : Nat} {e : Declaration} (hdistinct : (ds.map Declaration.name).Nodup)
    (he : ds[i]? = some e) (hin : d.enclosing = some e.name) :
    (ds.map (slotOf placed)).set i
        { slotOf placed e with nested := (slotOf placed e).nested ++ [.ofNat placed.length] } =
      ds.map (slotOf (placed ++ [d])) := by
  rw [← slotOf_snoc_of_enclosing hin]
  refine List.ext_getElem? fun j => ?_
  rw [List.getElem?_set, List.length_map, List.getElem?_map, List.getElem?_map]
  split
  next hij => rw [if_pos (List.getElem?_eq_some_iff.mp he).1, ← hij, he, Option.map_some]
  next hne =>
    cases hother : ds[j]? with
    | none => rfl
    | some other =>
      have hout : d.enclosing ≠ some other.name := by
        intro hin'
        have hname : e.name = other.name := Option.some.inj (hin.symm.trans hin')
        have hlt : i < (ds.map Declaration.name).length := by
          rw [List.length_map]
          exact (List.getElem?_eq_some_iff.mp he).1
        refine hne ((List.getElem?_inj hlt hdistinct).mp ?_)
        rw [List.getElem?_map, List.getElem?_map, he, hother, Option.map_some, Option.map_some, hname]
      rw [Option.map_some, Option.map_some, slotOf_snoc_of_enclosing_ne hout]

private theorem Lays.slot?_ofNat (hlays : Lays ds placed arena) (hfew : ds.length < UInt32.size) {i : Nat}
    (hd : ds[i]? = some d) : arena.slot? (.ofNat i) = some (slotOf placed d) := by
  have hlt : i < UInt32.size := Nat.lt_trans (List.getElem?_eq_some_iff.mp hd).1 hfew
  rw [slot?, UInt32.toNat_ofNat_of_lt' hlt, hlays.slots, List.getElem?_map, hd, Option.map_some]

private theorem place_of_enclosing_eq_none (id : UInt32) (houter : entry.enclosing = none) :
    arena.place id entry = .ok { arena with roots := arena.roots ++ [id] } := by
  rw [place, houter]
  rfl

private theorem place_of_slot? (id : UInt32) {outer : String} {parent : UInt32} {slot : Slot}
    (houter : entry.enclosing = some outer) (hparent : arena.find? (trim outer) = some parent)
    (hslot : arena.slot? parent = some slot) : arena.place id entry =
      .ok { arena with
        slots := arena.slots.set parent.toNat { slot with nested := slot.nested ++ [id] } } := by
  simp [place, houter, hparent, hslot]

private theorem Lays.place_of_isStray (hlays : Lays ds placed arena) (id : UInt32)
    (hstray : Declaration.isStray (ds.map Declaration.name) (.said entry) = true) :
    arena.place id entry = .error (.refused (.unknownEnclosing (Declaration.said entry).name
      ((Declaration.said entry).enclosing.getD ""))) := by
  obtain ⟨outer, houter, hunknown⟩ := Hierarchy.isStray_said_iff.mp hstray
  have hnone : arena.find? (trim outer) = none :=
    Option.eq_none_iff_forall_ne_some.mpr fun id hid =>
      hunknown (hlays.exists_find?_iff.mp ⟨id, hid⟩)
  simp [place, houter, hnone, Declaration.said]

/-- The next declaration is placed where it belongs, unless it is nested in one that is not laid
    out. -/
theorem Lays.exists_place (hlays : Lays ds placed arena) (hfew : ds.length < UInt32.size)
    (hdistinct : (ds.map Declaration.name).Nodup)
    (hhome : Declaration.isStray (ds.map Declaration.name) (.said entry) = false) :
    ∃ next, arena.place (.ofNat placed.length) entry = .ok next ∧
      Lays ds (placed ++ [.said entry]) next := by
  cases houter : entry.enclosing with
  | none =>
    have htop : (Declaration.said entry).enclosing = none := by simp [Declaration.said, houter]
    refine ⟨_, place_of_enclosing_eq_none _ houter, ?_, ?_, hlays.finds⟩
    · rw [hlays.slots]
      exact List.map_congr_left fun e _ => (slotOf_snoc_of_enclosing_ne (by simp [htop])).symm
    · rw [idsOf_snoc_of_pos (by simp [htop]), hlays.roots]
  | some outer =>
    have hlisted := Hierarchy.isStray_said_eq_false_iff.mp hhome outer houter
    obtain ⟨id, hid⟩ := hlays.exists_find?_iff.mpr hlisted
    obtain ⟨i, e, he, hname, rfl⟩ := (hlays.finds _ _).mp hid
    have hin : (Declaration.said entry).enclosing = some e.name := by
      simp [Declaration.said, houter, hname]
    have hlt : i < UInt32.size := Nat.lt_trans (List.getElem?_eq_some_iff.mp he).1 hfew
    refine ⟨_, place_of_slot? _ houter hid (hlays.slot?_ofNat hfew he), ?_, ?_, hlays.finds⟩
    · rw [UInt32.toNat_ofNat_of_lt' hlt, hlays.slots]
      exact set_slotOf hdistinct he hin
    · rw [idsOf_snoc_of_neg (by simp [hin]), hlays.roots]

private theorem Lays.placeAll_of_isStray (hlays : Lays ds placed arena) (hfew : ds.length < UInt32.size)
    (hdistinct : (ds.map Declaration.name).Nodup)
    (hstray : (entries.map Declaration.said).find?
      (Declaration.isStray (ds.map Declaration.name)) = some d) :
    arena.placeAll placed.length entries =
      .error (.refused (.unknownEnclosing d.name (d.enclosing.getD ""))) := by
  induction entries generalizing placed arena with
  | nil => cases hstray
  | cons entry entries ih =>
    rw [List.map_cons, List.find?_cons] at hstray
    split at hstray
    next hentry =>
      cases hstray
      rw [placeAll, hlays.place_of_isStray _ hentry]
    next hentry =>
      obtain ⟨next, hnext, hlays'⟩ := hlays.exists_place hfew hdistinct hentry
      have hrest := ih hlays' hstray
      rw [List.length_append, List.length_singleton] at hrest
      rw [placeAll, hnext]
      exact hrest

private theorem Lays.exists_placeAll (hlays : Lays ds placed arena) (hfew : ds.length < UInt32.size)
    (hdistinct : (ds.map Declaration.name).Nodup)
    (hhome : ∀ entry ∈ entries,
      Declaration.isStray (ds.map Declaration.name) (.said entry) = false) :
    ∃ last, arena.placeAll placed.length entries = .ok last ∧
      Lays ds (placed ++ entries.map Declaration.said) last := by
  induction entries generalizing placed arena with
  | nil => exact ⟨arena, rfl, by rwa [List.map_nil, List.append_nil]⟩
  | cons entry entries ih =>
    obtain ⟨hentry, hentries⟩ := List.forall_mem_cons.mp hhome
    obtain ⟨next, hnext, hlays'⟩ := hlays.exists_place hfew hdistinct hentry
    obtain ⟨last, hlast, hlays''⟩ := ih hlays' hentries
    rw [List.length_append, List.length_singleton] at hlast
    refine ⟨last, by rw [placeAll, hnext]; exact hlast, ?_⟩
    rwa [List.append_assoc] at hlays''

end Placing

/-- What was made by a first pass over all entries. -/
theorem exists_declareAll_empty (hmade : Declaration.ofEntries [] entries = .ok ds) :
    ∃ next, empty.declareAll entries = .ok next ∧ Lays ds [] next :=
  lays_empty.exists_declareAll (by simp) hmade

/-- Of a manifest that lists a hierarchy the arena of this hierarchy is made. -/
theorem lays_ofManifest {h : Hierarchy} (hfew : manifest.types.length < UInt32.size)
    (hmade : Hierarchy.ofManifest manifest = .ok h) :
    ∃ arena, ofManifest manifest = .ok arena ∧ Lays h.declarations h.declarations arena := by
  obtain ⟨hlists, hsaid⟩ := Hierarchy.ofManifest_eq_ok_iff.mp hmade
  obtain ⟨ds, hentries⟩ :=
    Declaration.exists_ofEntries_iff.mpr ⟨hlists.wellFormed, hlists.distinct⟩
  obtain ⟨-, rfl⟩ := Declaration.wellFormed_of_ofEntries hentries
  obtain ⟨declared, hdeclared, hlays⟩ := exists_declareAll_empty hentries
  have hdistinct := (Declaration.distinct_of_ofEntries hentries).1
  have hhome : ∀ entry ∈ manifest.types, Declaration.isStray
      ((manifest.types.map Declaration.said).map Declaration.name) (.said entry) = false := by
    intro entry hentry
    rw [Hierarchy.names_said, Hierarchy.isStray_said_eq_false_iff]
    intro outer houter
    exact List.mem_map.mpr (hlists.enclosed entry hentry outer houter)
  obtain ⟨arena, harena, hlays'⟩ :=
    hlays.exists_placeAll (by rwa [List.length_map]) hdistinct hhome
  rw [hsaid]
  refine ⟨arena, ?_, hlays'⟩
  rw [ofManifest, hdeclared]
  exact harena

/-- A manifest that is refused makes no arena, for the same error. -/
theorem ofManifest_of_refused (hfew : manifest.types.length < UInt32.size)
    (hfails : Hierarchy.ofManifest manifest = .error error) :
    ofManifest manifest = .error (.refused error) := by
  rcases Hierarchy.ofManifest_eq_error_iff.mp hfails with hentries | ⟨ds, hentries, d, hstray, rfl⟩
  · rw [ofManifest, lays_empty.declareAll_of_error (by simp) hentries]
  · obtain ⟨declared, hdeclared, hlays⟩ := exists_declareAll_empty hentries
    have hdistinct := (Declaration.distinct_of_ofEntries hentries).1
    obtain ⟨-, rfl⟩ := Declaration.wellFormed_of_ofEntries hentries
    rw [ofManifest, hdeclared]
    exact hlays.placeAll_of_isStray (by rwa [List.length_map]) hdistinct hstray

end Arena

end RetainerTable
