import RetainerTable.Proofs.TypeReference.WrittenForm

/-!
Brackets in the name of a reference that was read.

The name ends before the first opening bracket, but may hold closing ones if arguments follow: what
is in front of the first opening bracket is not counted (`parse?_closer_in_name`). It is the only
place for a bracket without its counterpart, so the name is free of brackets exactly if those of the
text match (`parse?_name_brackets`).
-/

namespace RetainerTable.TypeReference

open RetainerTable.Text RetainerTable.Brackets

variable {text : String} {ref : TypeReference} {name inner cs : List Char}

private theorem balanced_trimChars_iff : Balanced (trimChars cs) ↔ Balanced cs := by
  obtain ⟨before, behind, hsplit, hbefore, hbehind⟩ := exists_blanks cs
  rw [hsplit, balanced_append_iff_of_right (balanced_of_blank hbehind),
    balanced_append_iff_of_left (balanced_of_blank hbefore), ← hsplit]

/-- In front of matching brackets a name without opening brackets has to be without closing ones. -/
theorem balanced_generic_iff (hopen : '<' ∉ name) (hbalanced : Balanced inner) :
    Balanced (name ++ '<' :: (inner ++ ['>'])) ↔ '>' ∉ name := by
  rw [balanced_append_iff_of_right hbalanced.bracketed]
  constructor
  · intro hname hclose
    have hwhole := hname.whole
    have hcount := List.count_pos_iff.mpr hclose
    rw [depth, List.count_eq_zero.mpr hopen] at hwhole
    omega
  · exact balanced_of_notMem hopen

/-- The name of a reference read holds no opening bracket. It holds no closing one either exactly if
    the brackets of the text match; those of each argument do. -/
theorem parse?_name_brackets (hparse : parse? text = some ref) :
    '<' ∉ ref.name.toList ∧ ('>' ∉ ref.name.toList ↔ Balanced text.toList) ∧
      ∀ argument ∈ ref.arguments, Balanced argument.toList := by
  have hspells := spells_of_parse? hparse
  have hwell := hspells.wellSpelled
  refine ⟨hwell.opens, ?_, fun a ha => (isPiece_zero_iff.mp (hwell.arguments a ha).piece).1⟩
  rw [← balanced_trimChars_iff, ← toList_trim]
  cases hspells with
  | plain hname hopen hclose => exact iff_of_true hclose (balanced_of_notMem hopen hclose)
  | generic hsplit hopen hname hbalanced hcut hpieces =>
    rw [hsplit, balanced_generic_iff hopen hbalanced, String.toList_ofList,
      mem_trimChars_iff (by decide)]

theorem parse?_name_brackets_sample :
    parse? " Map<K, List<V>>" = some ⟨"Map", ["K", "List<V>"]⟩ ∧
      '>' ∉ "Map".toList ∧ Balanced " Map<K, List<V>>".toList := by
  have hread : parse? " Map<K, List<V>>" = some ⟨"Map", ["K", "List<V>"]⟩ := by decide +kernel
  have hclose : '>' ∉ "Map".toList := by decide
  exact ⟨hread, hclose, (parse?_name_brackets hread).2.1.mp hclose⟩

/-- A closing bracket behind a name is refused if nothing follows it. In front of arguments it goes
    into the name, so that a text whose brackets do not match is read all the same. -/
theorem parse?_closer_in_name :
    parse? "Base>" = none ∧ parse? "Base><T>" = some ⟨"Base>", ["T"]⟩ ∧
      '>' ∈ "Base>".toList ∧ ¬Balanced "Base><T>".toList := by
  have hread : parse? "Base><T>" = some ⟨"Base>", ["T"]⟩ := by decide +kernel
  refine ⟨by decide +kernel, hread, by decide, fun hbalanced => ?_⟩
  have hnonneg := hbalanced.front "Base>".toList (by decide)
  exact absurd hnonneg (by decide)

end RetainerTable.TypeReference
