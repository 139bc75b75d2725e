import Mathlib.Data.List.Nodup
import RetainerTable.Proofs.Hierarchy.Arena

/-!
What the arena of a manifest looks like.

Ids are positions in the manifest, so names and ids name each other, and every id stands in one list
exactly: among the roots or among the ids nested in its enclosing declaration (`Arena.LaidOut`). By
names, all that an arena answers is what the hierarchy answers (`Arena.Mirrors`).
-/

namespace RetainerTable

open RetainerTable.Text

/-- What the slot says of its declaration, apart from what is nested in it. -/
def Slot.said (slot : Slot) : String × TypeKind × Option TypeReference :=
  (slot.name, slot.kind, slot.superclass)

namespace Arena

variable {arena : Arena} {ds placed : List Declaration} {d : Declaration} {manifest : Manifest}
  {h : Hierarchy} {p : Declaration → Bool} {id : UInt32}

/-- The name of the declaration at the position. -/
def name? (arena : Arena) (id : UInt32) : Option String := (arena.slot? id).map Slot.name

/-- The arena is laid out as the manifest lists its types. -/
structure LaidOut (manifest : Manifest) (arena : Arena) : Prop where
  /-- The declaration at each position is what the entry at this position says. -/
  slots : arena.slots.map Slot.said = manifest.types.map fun entry =>
    (trim entry.name, entry.kind, entry.superclass.bind TypeReference.parse?)
  /-- Names and positions name each other. -/
  finds : ∀ name id, arena.find? name = some id ↔ arena.name? id = some name
  /-- Every position stands in one of the lists, and in it once. -/
  once : (arena.roots ++ arena.slots.flatMap Slot.nested).Perm
    ((List.range arena.slots.length).map .ofNat)
  roots : ∀ id, id ∈ arena.roots ↔
    ∃ entry, manifest.types[id.toNat]? = some entry ∧ entry.enclosing = none
  nested : ∀ slot ∈ arena.slots, ∀ id, id ∈ slot.nested ↔
    ∃ entry, manifest.types[id.toNat]? = some entry ∧ entry.enclosing.map trim = some slot.name
  /-- The lists are in the order of the manifest. -/
  ascending : arena.roots.Pairwise (· < ·) ∧ ∀ slot ∈ arena.slots, slot.nested.Pairwise (· < ·)
  /-- No id that is stored is out of range. -/
  inRange : (∀ id ∈ arena.roots, ∃ slot, arena.slot? id = some slot) ∧
    (∀ slot ∈ arena.slots, ∀ id ∈ slot.nested, ∃ other, arena.slot? id = some other) ∧
    ∀ name id, arena.find? name = some id → ∃ slot, arena.slot? id = some slot

/-- The arena answers as the hierarchy does. -/
structure Mirrors (h : Hierarchy) (arena : Arena) : Prop where
  slots : arena.slots.map Slot.said = h.declarations.map fun d => (d.name, d.kind, d.superclass)
  finds : ∀ name, (arena.find? name).bind arena.name? = (h.find? name).map Declaration.name
  roots : arena.roots.map arena.name? = h.roots.map some
  nested : ∀ slot ∈ arena.slots,
    slot.nested.map arena.name? = (h.enclosedIn slot.name).map fun d => some d.name

section Ids

variable (hfew : ds.length < UInt32.size)
include hfew

private theorem toNat_ofNat_of_lt_length {i : Nat} (hi : i < ds.length) : (UInt32.ofNat i).toNat = i :=
  UInt32.toNat_ofNat_of_lt' (Nat.lt_trans hi hfew)

private theorem mem_idsOf_iff : id ∈ idsOf p ds ↔ ∃ d, ds[id.toNat]? = some d ∧ p d = true := by
  rw [idsOf, List.mem_map]
  simp only [List.mem_findIdxs_iff_exists_getElem_pos]
  constructor
  · rintro ⟨i, ⟨hi, hp⟩, rfl⟩
    rw [toNat_ofNat_of_lt_length hfew hi]
    exact ⟨ds[i], List.getElem?_eq_getElem hi, hp⟩
  · rintro ⟨d, hd, hp⟩
    obtain ⟨hi, rfl⟩ := List.getElem?_eq_some_iff.mp hd
    exact ⟨id.toNat, ⟨hi, hp⟩, UInt32.ofNat_toNat⟩

private theorem pairwise_idsOf : (idsOf p ds).Pairwise (· < ·) := by
  rw [idsOf, List.pairwise_map]
  refine List.Pairwise.imp_of_mem (fun {i j} hi hj hlt => ?_) List.pairwise_findIdxs
  obtain ⟨hi, -⟩ := List.mem_findIdxs_iff_exists_getElem_pos.mp hi
  obtain ⟨hj, -⟩ := List.mem_findIdxs_iff_exists_getElem_pos.mp hj
  rw [UInt32.lt_iff_toNat_lt, toNat_ofNat_of_lt_length hfew hi, toNat_ofNat_of_lt_length hfew hj]
  exact hlt

end Ids

private theorem map_getElem?_findIdxs (p : Declaration → Bool) (ds : List Declaration) :
    (ds.findIdxs p).map (ds[·]?) = (ds.filter p).map some := by
  induction ds with
  | nil => rfl
  | cons d ds ih =>
    have hshift : ((ds.findIdxs p (0 + 1)).map ((d :: ds)[·]?)) = (ds.filter p).map some := by
      rw [List.findIdxs_start, List.map_map, ← ih]
      rfl
    rw [List.findIdxs_cons, List.filter_cons]
    split
    · rw [List.map_cons, List.map_cons, hshift]
      rfl
    · exact hshift

private theorem Lays.name?_eq (hlays : Lays ds placed arena) (id : UInt32) :
    arena.name? id = ds[id.toNat]?.map Declaration.name := by
  rw [name?, slot?, hlays.slots, List.getElem?_map, Option.map_map]
  rfl

/-- By names, ids are what they are the ids of. -/
theorem Lays.map_name?_idsOf (hlays : Lays ds placed arena) (hfew : ds.length < UInt32.size)
    (p : Declaration → Bool) :
    (idsOf p ds).map arena.name? = (ds.filter p).map fun d => some d.name := by
  have hname : ∀ i ∈ ds.findIdxs p, arena.name? (.ofNat i) = ds[i]?.map Declaration.name := by
    intro i hi
    obtain ⟨hlt, -⟩ := List.mem_findIdxs_iff_exists_getElem_pos.mp hi
    rw [hlays.name?_eq, toNat_ofNat_of_lt_length hfew hlt]
  calc (idsOf p ds).map arena.name?
      = (ds.findIdxs p).map fun i => ds[i]?.map Declaration.name := by
        rw [idsOf, List.map_map]
        exact List.map_congr_left hname
    _ = ((ds.findIdxs p).map (ds[·]?)).map (Option.map Declaration.name) := by
        rw [List.map_map]
        rfl
    _ = (ds.filter p).map fun d => some d.name := by
        rw [map_getElem?_findIdxs, List.map_map]
        rfl

section Complete

variable (hlays : Lays h.declarations h.declarations arena)
  (hfew : h.declarations.length < UInt32.size)
include hlays

private theorem Lays.map_said : arena.slots.map Slot.said =
    h.declarations.map fun d => (d.name, d.kind, d.superclass) := by
  rw [hlays.slots, List.map_map]
  rfl

private theorem Lays.exists_slot? (hlt : id.toNat < h.declarations.length) :
    ∃ slot, arena.slot? id = some slot := by
  have hlength : arena.slots.length = h.declarations.length := by
    rw [hlays.slots, List.length_map]
  exact ⟨_, List.getElem?_eq_getElem (hlength ▸ hlt)⟩

include hfew

theorem Lays.find?_eq_some_iff {name : String} :
    arena.find? name = some id ↔ arena.name? id = some name := by
  rw [hlays.finds, hlays.name?_eq, Option.map_eq_some_iff]
  constructor
  · rintro ⟨i, d, hd, hname, rfl⟩
    rw [toNat_ofNat_of_lt_length hfew (List.getElem?_eq_some_iff.mp hd).1]
    exact ⟨d, hd, hname⟩
  · rintro ⟨d, hd, hname⟩
    exact ⟨id.toNat, d, hd, hname, UInt32.ofNat_toNat.symm⟩

private theorem Lays.mem_roots_iff :
    id ∈ arena.roots ↔ ∃ d, h.declarations[id.toNat]? = some d ∧ d.enclosing = none := by
  rw [hlays.roots, mem_idsOf_iff hfew]
  simp only [Option.isNone_iff_eq_none]

private theorem Lays.mem_nested_iff {slot : Slot} (hslot : slot ∈ arena.slots) :
    id ∈ slot.nested ↔
      ∃ d, h.declarations[id.toNat]? = some d ∧ d.enclosing = some slot.name := by
  rw [hlays.slots] at hslot
  obtain ⟨outer, -, rfl⟩ := List.mem_map.mp hslot
  rw [slotOf, mem_idsOf_iff hfew]
  simp only [beq_iff_eq]

theorem Lays.ascending :
    arena.roots.Pairwise (· < ·) ∧ ∀ slot ∈ arena.slots, slot.nested.Pairwise (· < ·) := by
  rw [hlays.roots, hlays.slots]
  refine ⟨pairwise_idsOf hfew, fun slot hslot => ?_⟩
  obtain ⟨outer, -, rfl⟩ := List.mem_map.mp hslot
  exact pairwise_idsOf hfew

/-- No id stands in two of the lists, nor twice in one. -/
theorem Lays.nodup_ids : (arena.roots ++ arena.slots.flatMap Slot.nested).Nodup := by
  obtain ⟨hroots, hnested⟩ := hlays.ascending hfew
  have hne : ∀ {ids : List UInt32}, ids.Pairwise (· < ·) → ids.Nodup :=
    fun hids => hids.imp fun hlt => UInt32.ne_of_lt hlt
  have hnames : (arena.slots.map Slot.name).Nodup := by
    rw [hlays.slots, List.map_map]
    exact h.distinct
  rw [List.nodup_append']
  refine ⟨hne hroots, List.nodup_flatMap.mpr ⟨fun slot hslot => hne (hnested slot hslot), ?_⟩, ?_⟩
  · -- An id that two slots nest would be enclosed by declarations of two names.
    refine (List.pairwise_map.mp hnames).imp_of_mem fun {first second} hfirst hsecond hname => ?_
    intro id hid hid'
    obtain ⟨d, hd, hin⟩ := (hlays.mem_nested_iff hfew hfirst).mp hid
    obtain ⟨d', hd', hin'⟩ := (hlays.mem_nested_iff hfew hsecond).mp hid'
    obtain rfl := Option.some.inj (hd.symm.trans hd')
    exact hname (Option.some.inj (hin.symm.trans hin'))
  · intro id hroot hid
    obtain ⟨slot, hslot, hid⟩ := List.mem_flatMap.mp hid
    obtain ⟨d, hd, htop⟩ := (hlays.mem_roots_iff hfew).mp hroot
    obtain ⟨d', hd', hin⟩ := (hlays.mem_nested_iff hfew hslot).mp hid
    obtain rfl := Option.some.inj (hd.symm.trans hd')
    rw [htop] at hin
    cases hin

/-- Every position stands in a list, since enclosing types are declared. -/
theorem Lays.mem_ids_iff : id ∈ arena.roots ++ arena.slots.flatMap Slot.nested ↔
    id.toNat < h.declarations.length := by
  rw [List.mem_append, List.mem_flatMap]
  constructor
  · rintro (hroot | ⟨slot, hslot, hid⟩)
    · obtain ⟨d, hd, -⟩ := (hlays.mem_roots_iff hfew).mp hroot
      exact (List.getElem?_eq_some_iff.mp hd).1
    · obtain ⟨d, hd, -⟩ := (hlays.mem_nested_iff hfew hslot).mp hid
      exact (List.getElem?_eq_some_iff.mp hd).1
  · intro hlt
    have hd := List.getElem?_eq_getElem hlt
    cases houter : h.declarations[id.toNat].enclosing with
    | none => exact .inl ((hlays.mem_roots_iff hfew).mpr ⟨_, hd, houter⟩)
    | some outer =>
      have hlisted := h.enclosed _ (List.getElem_mem hlt) outer houter
      obtain ⟨e, he, rfl⟩ := List.mem_map.mp hlisted
      have hslot : slotOf h.declarations e ∈ arena.slots := by
        rw [hlays.slots]
        exact List.mem_map_of_mem he
      exact .inr ⟨_, hslot, (hlays.mem_nested_iff hfew hslot).mpr ⟨_, hd, houter⟩⟩

private theorem Lays.perm_ids : (arena.roots ++ arena.slots.flatMap Slot.nested).Perm
    ((List.range arena.slots.length).map .ofNat) := by
  have hlength : arena.slots.length = h.declarations.length := by
    rw [hlays.slots, List.length_map]
  have hpositions : ((List.range h.declarations.length).map UInt32.ofNat).Nodup := by
    refine List.Nodup.map_on (fun i hi j hj hij => ?_) List.nodup_range
    have hnat := congrArg UInt32.toNat hij
    rwa [toNat_ofNat_of_lt_length hfew (List.mem_range.mp hi),
      toNat_ofNat_of_lt_length hfew (List.mem_range.mp hj)] at hnat
  rw [hlength, List.perm_ext_iff_of_nodup (hlays.nodup_ids hfew) hpositions]
  intro id
  rw [hlays.mem_ids_iff hfew, List.mem_map]
  constructor
  · intro hlt
    exact ⟨id.toNat, List.mem_range.mpr hlt, UInt32.ofNat_toNat⟩
  · rintro ⟨i, hi, rfl⟩
    rw [toNat_ofNat_of_lt_length hfew (List.mem_range.mp hi)]
    exact List.mem_range.mp hi

private theorem Lays.mirrors : arena.Mirrors h where
  slots := hlays.map_said
  finds name := by
    cases hid : arena.find? name with
    | none =>
      have hnone : h.find? name = none := by
        refine Option.eq_none_iff_forall_ne_some.mpr fun d hd => ?_
        obtain ⟨hmem, rfl⟩ := Hierarchy.mem_of_find? hd
        obtain ⟨id, hid'⟩ := hlays.exists_find?_iff.mpr (List.mem_map_of_mem hmem)
        rw [hid] at hid'
        cases hid'
      rw [hnone]
      rfl
    | some id =>
      obtain ⟨d, hmem, rfl⟩ := List.mem_map.mp (hlays.exists_find?_iff.mp ⟨id, hid⟩)
      rw [Hierarchy.find?_of_mem hmem, Option.bind_some, (hlays.find?_eq_some_iff hfew).mp hid]
      rfl
  roots := by
    rw [hlays.roots, hlays.map_name?_idsOf hfew, Hierarchy.roots, Hierarchy.topLevel, List.map_map]
    rfl
  nested slot hslot := by
    rw [hlays.slots] at hslot
    obtain ⟨outer, -, rfl⟩ := List.mem_map.mp hslot
    exact hlays.map_name?_idsOf hfew _

private theorem Lays.laidOut (hsaid : h.declarations = manifest.types.map Declaration.said) :
    arena.LaidOut manifest where
  slots := by
    rw [hlays.map_said, hsaid, List.map_map]
    rfl
  finds _ _ := hlays.find?_eq_some_iff hfew
  once := hlays.perm_ids hfew
  roots id := by
    rw [hlays.mem_roots_iff hfew, hsaid, List.getElem?_map]
    simp [Declaration.said]
  nested slot hslot id := by
    rw [hlays.mem_nested_iff hfew hslot, hsaid, List.getElem?_map]
    simp [Declaration.said]
  ascending := hlays.ascending hfew
  inRange := by
    have hids : ∀ id ∈ arena.roots ++ arena.slots.flatMap Slot.nested,
        ∃ slot, arena.slot? id = some slot :=
      fun id hid => hlays.exists_slot? ((hlays.mem_ids_iff hfew).mp hid)
    refine ⟨fun id hid => hids id (List.mem_append_left _ hid), fun slot hslot id hid => ?_,
      fun name id hid => ?_⟩
    · exact hids id (List.mem_append_right _ (List.mem_flatMap.mpr ⟨slot, hslot, hid⟩))
    · obtain ⟨slot, hslot, -⟩ :=
        Option.map_eq_some_iff.mp ((hlays.find?_eq_some_iff hfew).mp hid)
      exact ⟨slot, hslot⟩

end Complete

/-- A manifest with no more types than there are ids makes an arena exactly if it lists a hierarchy,
    and fails for the same error if not: no id is followed that is out of range. The arena is laid
    out as the manifest lists its types, and answers as the hierarchy does. -/
theorem ofManifest_laidOut (hfew : manifest.types.length < UInt32.size) :
    (∀ fault, ofManifest manifest = .error fault ↔
      ∃ error, fault = .refused error ∧ Hierarchy.ofManifest manifest = .error error) ∧
    ∀ h, Hierarchy.ofManifest manifest = .ok h →
      ∃ arena, ofManifest manifest = .ok arena ∧ arena.LaidOut manifest ∧ arena.Mirrors h := by
  constructor
  · intro fault
    constructor
    · intro hfails
      cases hresult : Hierarchy.ofManifest manifest with
      | error error =>
        rw [ofManifest_of_refused hfew hresult] at hfails
        cases hfails
        exact ⟨error, rfl, rfl⟩
      | ok h =>
        obtain ⟨arena, hmade, -⟩ := lays_ofManifest hfew hresult
        rw [hmade] at hfails
        cases hfails
    · rintro ⟨error, rfl, hfails⟩
      exact ofManifest_of_refused hfew hfails
  · intro h hmade
    have hsaid := (Hierarchy.ofManifest_eq_ok_iff.mp hmade).2
    have hfew' : h.declarations.length < UInt32.size := by rwa [hsaid, List.length_map]
    obtain ⟨arena, harena, hlays⟩ := lays_ofManifest hfew hmade
    exact ⟨arena, harena, hlays.laidOut hfew' hsaid, hlays.mirrors hfew'⟩

/-- `Early` is listed in front of the interface that it is nested in, `Late` behind it, and `Knot` is
    nested in itself. -/
def nestedManifest : Manifest where
  types := [⟨"Early", .record, none, " Outer"⟩, ⟨" Outer ", .interface, "Base<T>", none⟩,
    ⟨"Knot", .ordinary, none, "Knot"⟩, ⟨"Late", .ordinary, "Early", "Outer"⟩]
  associations := []

def nestedHierarchy : Hierarchy where
  declarations := [⟨"Early", .record, none, some "Outer"⟩,
    ⟨"Outer", .interface, some ⟨"Base", ["T"]⟩, none⟩, ⟨"Knot", .ordinary, none, some "Knot"⟩,
    ⟨"Late", .ordinary, some ⟨"Early", []⟩, some "Outer"⟩]
  distinct := by decide
  enclosed := by decide

private theorem ofManifest_nested : Hierarchy.ofManifest nestedManifest = .ok nestedHierarchy :=
  eq_ok_of_map_toOption (fun _ _ => Hierarchy.eq_of_declarations) (by decide +kernel)

/-- The second type is the only root, and the first and the last are nested in it. -/
theorem ofManifest_laidOut_nested : nestedManifest.types.length < UInt32.size ∧
    ∃ arena, ofManifest nestedManifest = .ok arena ∧
      1 ∈ arena.roots ∧ arena.roots.map arena.name? = [some "Outer"] ∧
      ∀ slot ∈ arena.slots, slot.name = "Outer" → 0 ∈ slot.nested ∧ 3 ∈ slot.nested := by
  have hfew : nestedManifest.types.length < UInt32.size := by decide
  obtain ⟨arena, hmade, hlaid, hmirrors⟩ :=
    (ofManifest_laidOut hfew).2 nestedHierarchy ofManifest_nested
  have htrim : trim "Outer" = "Outer" ∧ trim " Outer" = "Outer" := by decide +kernel
  refine ⟨hfew, arena, hmade, (hlaid.roots 1).mpr ⟨_, rfl, rfl⟩, hmirrors.roots,
    fun slot hslot hname => ⟨?_, ?_⟩⟩
  · exact (hlaid.nested slot hslot 0).mpr ⟨_, rfl, by rw [hname, Option.map_some, htrim.2]⟩
  · exact (hlaid.nested slot hslot 3).mpr ⟨_, rfl, by rw [hname, Option.map_some, htrim.1]⟩

end Arena

end RetainerTable
