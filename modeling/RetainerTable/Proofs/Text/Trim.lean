import Mathlib.Data.List.DropRight
import RetainerTable.Text.Blank

namespace RetainerTable.Text

variable {cs : List Char}

private theorem trimChars_eq_rdropWhile (cs : List Char) :
    trimChars cs = (trimFront cs).rdropWhile isBlank := rfl

private theorem trimFront_eq_self (hfirst : ∀ c ∈ cs.head?, isBlank c = false) : trimFront cs = cs := by
  cases cs with
  | nil => rfl
  | cons c cs => exact trimFront_of_head (hfirst c rfl)

theorem trimChars_eq_self (hfirst : ∀ c ∈ cs.head?, isBlank c = false)
    (hlast : ∀ c ∈ cs.getLast?, isBlank c = false) : trimChars cs = cs := by
  rw [trimChars_eq_rdropWhile, trimFront_eq_self hfirst, List.rdropWhile_eq_self_iff]
  intro hne
  have hend := hlast _ (List.getLast?_eq_some_getLast hne)
  rw [hend]
  exact Bool.false_ne_true

private theorem isBlank_head_trimFront {c : Char} (hc : c ∈ (trimFront cs).head?) : isBlank c = false := by
  have hne : trimFront cs ≠ [] := by
    intro hnil
    rw [hnil] at hc
    cases hc
  have hhead := List.head?_eq_some_head hne
  rw [Option.mem_def, hhead] at hc
  exact Option.some.inj hc ▸ List.head_dropWhile_not isBlank hne

theorem isBlank_head_trimChars {c : Char} (hc : c ∈ (trimChars cs).head?) : isBlank c = false := by
  obtain ⟨dropped, hsplit⟩ := List.rdropWhile_prefix isBlank (trimFront cs)
  have hhead : c ∈ (trimFront cs).head? := by
    rw [← hsplit, ← trimChars_eq_rdropWhile]
    exact List.mem_head?_append_of_mem_head? hc
  exact isBlank_head_trimFront hhead

private theorem isBlank_last_trimChars {c : Char} (hc : c ∈ (trimChars cs).getLast?) :
    isBlank c = false := by
  have hne : trimChars cs ≠ [] := by
    intro hnil
    rw [hnil] at hc
    cases hc
  have hlast := List.rdropWhile_last_not isBlank (trimFront cs) hne
  rw [Option.mem_def, List.getLast?_eq_some_getLast hne] at hc
  exact Option.some.inj hc ▸ Bool.eq_false_iff.mpr hlast

theorem trimChars_trimChars (cs : List Char) : trimChars (trimChars cs) = trimChars cs :=
  trimChars_eq_self (fun _ => isBlank_head_trimChars) fun _ => isBlank_last_trimChars

/-- Trimming takes blanks off both ends and nothing else. -/
theorem exists_blanks (cs : List Char) : ∃ before behind, cs = before ++ trimChars cs ++ behind ∧
    (∀ c ∈ before, isBlank c = true) ∧ ∀ c ∈ behind, isBlank c = true := by
  refine ⟨cs.takeWhile isBlank, (trimFront cs).rtakeWhile isBlank, ?_,
    fun c hc => List.mem_takeWhile_imp hc, fun c hc => List.mem_rtakeWhile_imp hc⟩
  rw [List.append_assoc, trimChars_eq_rdropWhile, List.rdropWhile_append_rtakeWhile]
  exact List.takeWhile_append_dropWhile.symm

theorem mem_trimChars_iff {c : Char} (hc : isBlank c = false) : c ∈ trimChars cs ↔ c ∈ cs := by
  obtain ⟨before, behind, hsplit, hbefore, hbehind⟩ := exists_blanks cs
  constructor
  · intro hin
    rw [hsplit]
    exact List.mem_append_left _ (List.mem_append_right _ hin)
  · intro hin
    rw [hsplit, List.mem_append, List.mem_append] at hin
    rcases hin with (hin | hin) | hin
    · exact absurd (hbefore c hin) (Bool.eq_false_iff.mp hc)
    · exact hin
    · exact absurd (hbehind c hin) (Bool.eq_false_iff.mp hc)

theorem trimChars_blank_cons {c : Char} (hc : isBlank c = true) (cs : List Char) :
    trimChars (c :: cs) = trimChars cs := by
  rw [trimChars_eq_rdropWhile, trimChars_eq_rdropWhile, trimFront, trimFront,
    List.dropWhile_cons_of_pos hc]

theorem trim_eq_self_iff {text : String} : trim text = text ↔ trimChars text.toList = text.toList := by
  rw [← String.toList_inj, toList_trim]

/-- Trimming a trimmed text changes nothing. -/
theorem trim_trim (text : String) : trim (trim text) = trim text := by
  rw [trim_eq_self_iff, toList_trim]
  exact trimChars_trimChars text.toList

end RetainerTable.Text
