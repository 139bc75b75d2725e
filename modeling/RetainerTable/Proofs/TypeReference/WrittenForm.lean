import RetainerTable.Proofs.Text.Trim
import RetainerTable.Proofs.TypeReference.Grammar

/-!
The written form of a reference that was read.

A reference that a text spells is `WellSpelled`: its name and its arguments are trimmed, and each
argument is a piece. The written form puts a comma and a space between the arguments, so it is cut
where they end and spells the same reference (`WellSpelled.spells_text`).
-/

namespace RetainerTable.TypeReference

open RetainerTable.Text RetainerTable.Brackets

/-- The text between the brackets is cut where the argument ends, and trimming leaves it whole. -/
structure IsArgument (argument : String) : Prop where
  nonempty : argument ≠ ""
  trimmed : trim argument = argument
  piece : IsPiece 0 argument.toList

/-- The written form shows where the name and each argument end. -/
structure WellSpelled (ref : TypeReference) : Prop where
  named : ref.name ≠ ""
  trimmed : trim ref.name = ref.name
  opens : '<' ∉ ref.name.toList
  closes : ref.arguments = [] → '>' ∉ ref.name.toList
  arguments : ∀ argument ∈ ref.arguments, IsArgument argument

variable {text : String} {ref : TypeReference} {cs : List Char} {pieces : List (List Char)}

theorem balanced_of_blank (hblank : ∀ c ∈ cs, isBlank c = true) : Balanced cs := by
  refine balanced_of_notMem (fun hin => ?_) fun hin => ?_
  · exact absurd (hblank _ hin) (by decide)
  · exact absurd (hblank _ hin) (by decide)

private theorem isPiece_trimChars (hpiece : IsPiece 0 cs) : IsPiece 0 (trimChars cs) := by
  obtain ⟨before, behind, hsplit, hbefore, hbehind⟩ := exists_blanks cs
  rw [hsplit] at hpiece
  exact hpiece.of_append (balanced_of_blank hbefore) (balanced_of_blank hbehind)

private theorem toList_argument (piece : List Char) : (argument piece).toList = trimChars piece :=
  String.toList_ofList

private theorem isArgument_argument (hpiece : IsPiece 0 cs) (hname : trimChars cs ≠ []) :
    IsArgument (argument cs) where
  nonempty heq := by
    rw [← toList_argument, heq] at hname
    exact hname rfl
  trimmed := by
    rw [trim_eq_self_iff, toList_argument, trimChars_trimChars]
  piece := by
    rw [toList_argument]
    exact isPiece_trimChars hpiece

/-- A reference read is well spelled. -/
theorem Spells.wellSpelled (hspells : Spells text ref) : ref.WellSpelled := by
  cases hspells with
  | plain hname hopen hclose =>
    exact ⟨hname, trim_trim text, hopen, fun _ => hclose, by simp⟩
  | @generic name inner pieces hsplit hopen hname hbalanced hcut hpieces =>
    obtain ⟨hnonempty, -, hall⟩ := balanced_cut_iff.mp ⟨hbalanced, hcut⟩
    refine ⟨fun heq => ?_, ?_, ?_, fun hnil => ?_, ?_⟩
    · rw [← String.toList_inj, String.toList_ofList] at heq
      exact hname heq
    · rw [trim_eq_self_iff, String.toList_ofList, trimChars_trimChars]
    · rw [String.toList_ofList]
      exact fun hin => hopen ((mem_trimChars_iff (by decide)).mp hin)
    · exact absurd (List.map_eq_nil_iff.mp hnil) hnonempty
    · intro a ha
      obtain ⟨piece, hpiece, rfl⟩ := List.mem_map.mp ha
      exact isArgument_argument (hall piece hpiece) (hpieces piece hpiece)

/-- The pieces between which the written form puts its commas: all but the first begin with the
    space behind the comma. -/
def spaced : List (List Char) → List (List Char)
  | [] => []
  | piece :: rest => piece :: rest.map (' ' :: ·)

private theorem spaced_ne_nil (hnonempty : pieces ≠ []) : spaced pieces ≠ [] := by
  cases pieces with
  | nil => exact hnonempty
  | cons piece rest => exact List.cons_ne_nil _ _

private theorem intercalate_spaced (pieces : List (List Char)) :
    [',', ' '].intercalate pieces = [','].intercalate (spaced pieces) := by
  cases pieces with
  | nil => rfl
  | cons piece rest =>
    induction rest generalizing piece with
    | nil => rfl
    | cons next rest ih =>
      rw [List.intercalate_cons_cons, ih, spaced, spaced, List.map_cons, intercalate_comma_cons_cons,
        intercalate_grow]
      simp

private theorem isPiece_space_cons (hpiece : IsPiece 0 cs) : IsPiece 0 (' ' :: cs) := by
  have hflat : depth [' '] = 0 := rfl
  refine isPiece_cons_iff.mpr ⟨Int.le_refl 0, fun heq => absurd heq (by decide), ?_⟩
  rwa [hflat]

private theorem isPiece_of_mem_spaced (hpieces : ∀ piece ∈ pieces, IsPiece 0 piece) :
    ∀ piece ∈ spaced pieces, IsPiece 0 piece := by
  cases pieces with
  | nil => exact fun piece hpiece => absurd hpiece List.not_mem_nil
  | cons first rest =>
    obtain ⟨hfirst, hrest⟩ := List.forall_mem_cons.mp hpieces
    refine List.forall_mem_cons.mpr ⟨hfirst, fun piece hpiece => ?_⟩
    obtain ⟨piece, hin, rfl⟩ := List.mem_map.mp hpiece
    exact isPiece_space_cons (hrest piece hin)

private theorem map_trimChars_spaced (pieces : List (List Char)) :
    (spaced pieces).map trimChars = pieces.map trimChars := by
  cases pieces with
  | nil => rfl
  | cons piece rest =>
    have hspace : trimChars ∘ (' ' :: ·) = trimChars := by
      funext cs
      exact trimChars_blank_cons (by decide) cs
    rw [spaced, List.map_cons, List.map_cons, List.map_map, hspace]

private theorem toList_text_of_arguments (hnonempty : ref.arguments ≠ []) : ref.text.toList =
    ref.name.toList ++
      '<' :: ([','].intercalate (spaced (ref.arguments.map String.toList)) ++ ['>']) := by
  have hempty : ref.arguments.isEmpty = false := by simpa using hnonempty
  rw [text, hempty, ← intercalate_spaced]
  simp [String.toList_intercalate]

private theorem IsArgument.trimChars_eq {argument : String} (hargument : IsArgument argument) :
    trimChars argument.toList = argument.toList :=
  trim_eq_self_iff.mp hargument.trimmed

namespace WellSpelled

variable (hwell : ref.WellSpelled)

include hwell

private theorem trimChars_text (hnonempty : ref.arguments ≠ []) :
    trimChars ref.text.toList = ref.text.toList := by
  rw [toList_text_of_arguments hnonempty]
  apply trimChars_eq_self
  · intro c hc
    have hname : ref.name.toList ≠ [] := fun hnil => hwell.named (String.toList_eq_nil_iff.mp hnil)
    rw [List.head?_append_of_ne_nil _ hname, ← trim_eq_self_iff.mp hwell.trimmed] at hc
    exact isBlank_head_trimChars hc
  · intro c hc
    rw [← List.cons_append, ← List.append_assoc, List.getLast?_concat, Option.mem_some_iff] at hc
    rw [← hc]
    decide

private theorem map_argument_spaced :
    (spaced (ref.arguments.map String.toList)).map argument = ref.arguments := by
  have htrim : ∀ a ∈ ref.arguments, trim a = a := fun a ha => (hwell.arguments a ha).trimmed
  calc (spaced (ref.arguments.map String.toList)).map argument
      = ((spaced (ref.arguments.map String.toList)).map trimChars).map String.ofList := by
        rw [List.map_map]
        rfl
    _ = ref.arguments.map trim := by
        rw [map_trimChars_spaced, List.map_map, List.map_map]
        rfl
    _ = ref.arguments := by
        rw [List.map_congr_left htrim, List.map_id']

private theorem trimChars_ne_nil_of_mem_spaced {piece : List Char}
    (hpiece : piece ∈ spaced (ref.arguments.map String.toList)) : trimChars piece ≠ [] := by
  have hin : trimChars piece ∈ (ref.arguments.map String.toList).map trimChars := by
    rw [← map_trimChars_spaced]
    exact List.mem_map_of_mem hpiece
  rw [List.map_map] at hin
  obtain ⟨a, ha, heq⟩ := List.mem_map.mp hin
  have hargument := hwell.arguments a ha
  rw [← heq, Function.comp_apply, hargument.trimChars_eq]
  exact fun hnil => hargument.nonempty (String.toList_eq_nil_iff.mp hnil)

/-- The written form of a well-spelled reference spells it. -/
theorem spells_text : Spells ref.text ref := by
  by_cases hnone : ref.arguments = []
  · have htext : ref.text = ref.name := by
      rw [text, hnone]
      rfl
    have hplain : Spells ref.name ⟨trim ref.name, []⟩ := by
      refine .plain ?_ ?_ ?_ <;> rw [hwell.trimmed]
      · exact hwell.named
      · exact hwell.opens
      · exact hwell.closes hnone
    rw [hwell.trimmed, ← hnone] at hplain
    rw [htext]
    exact hplain
  · have hpieces : ∀ piece ∈ ref.arguments.map String.toList, IsPiece 0 piece :=
      List.forall_mem_map.mpr fun a ha => (hwell.arguments a ha).piece
    have hspaced : spaced (ref.arguments.map String.toList) ≠ [] :=
      spaced_ne_nil fun hnil => hnone (List.map_eq_nil_iff.mp hnil)
    obtain ⟨hbalanced, hcut⟩ :=
      balanced_cut_iff.mpr ⟨hspaced, rfl, isPiece_of_mem_spaced hpieces⟩
    have hsplit := toList_text_of_arguments hnone
    rw [← hwell.trimChars_text hnone, ← toList_trim] at hsplit
    have hname := trim_eq_self_iff.mp hwell.trimmed
    have hgeneric := Spells.generic hsplit hwell.opens
      (fun hnil => hwell.named (String.toList_eq_nil_iff.mp (hname.symm.trans hnil)))
      hbalanced hcut fun piece => hwell.trimChars_ne_nil_of_mem_spaced
    rwa [hname, String.ofList_toList, hwell.map_argument_spaced] at hgeneric

end WellSpelled

/-- The written form of the reference that a text spells. -/
def normalized? (text : String) : Option String :=
  (parse? text).map TypeReference.text

/-- The written form of a reference that was read is read as the same reference. So writing a text
    anew a second time changes nothing, and references are equal if their written forms are. -/
theorem text_reads_back (text : String) :
    (∀ ref, parse? text = some ref → parse? ref.text = some ref) ∧
    (normalized? text).bind normalized? = normalized? text ∧
    ∀ other ref ref', parse? text = some ref → parse? other = some ref' →
      (ref = ref' ↔ ref.text = ref'.text) := by
  have hback : ∀ text ref, parse? text = some ref → parse? ref.text = some ref := by
    intro text ref hparse
    exact parse?_of_spells (spells_of_parse? hparse).wellSpelled.spells_text
  refine ⟨hback text, ?_, fun other ref ref' hparse hparse' => ⟨congrArg _, fun htext => ?_⟩⟩
  · cases hparse : parse? text with
    | none => simp [normalized?, hparse]
    | some ref => simp [normalized?, hparse, hback text ref hparse]
  · have hread := hback text ref hparse
    rw [htext, hback other ref' hparse'] at hread
    exact (Option.some.inj hread).symm

/-- A reference with an odd name, and arguments that hold brackets and a comma. -/
def oddReference : TypeReference := ⟨"a>b", ["K", "List<V,W>"]⟩

theorem text_reads_back_odd :
    parse? "\t a>b <K ,List<V,W>>" = some oddReference ∧
    parse? "a>b<K>" = some ⟨"a>b", ["K"]⟩ ∧
    parse? oddReference.text = some oddReference ∧
    (oddReference = ⟨"a>b", ["K"]⟩ ↔ oddReference.text = (⟨"a>b", ["K"]⟩ : TypeReference).text) := by
  have hodd : parse? "\t a>b <K ,List<V,W>>" = some oddReference := by decide +kernel
  have hother : parse? "a>b<K>" = some ⟨"a>b", ["K"]⟩ := by decide +kernel
  obtain ⟨hback, -, hsame⟩ := text_reads_back "\t a>b <K ,List<V,W>>"
  exact ⟨hodd, hother, hback _ hodd, hsame _ _ _ hodd hother⟩

end RetainerTable.TypeReference
