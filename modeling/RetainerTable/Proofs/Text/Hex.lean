import RetainerTable.Text.Hex

namespace RetainerTable.Text

theorem hexDigit?_digitChar : ∀ digit < 16, hexDigit? (Nat.digitChar digit) = some digit := by
  decide

theorem hexDigit?_lt {c : Char} {digit : Nat} (hdigit : hexDigit? c = some digit) :
    digit < 16 := by
  unfold hexDigit? at hdigit
  split at hdigit
  next hc =>
    have hle : c.toNat ≤ 57 := hc.2
    cases hdigit
    omega
  next =>
    split at hdigit
    next hc =>
      have hle : c.toNat ≤ 102 := hc.2
      cases hdigit
      omega
    next =>
      split at hdigit
      next hc =>
        have hle : c.toNat ≤ 70 := hc.2
        cases hdigit
        omega
      next => cases hdigit

private theorem hexNumber?_append (digits : List Char) (c : Char) : hexNumber? (digits ++ [c]) =
    (hexNumber? digits).bind fun value => (hexDigit? c).map (16 * value + ·) := by
  simp [hexNumber?, List.foldlM_append]

/-- The digits of a number spell it. -/
theorem hexNumber?_toDigits (n : Nat) : hexNumber? (Nat.toDigits 16 n) = some n := by
  induction n using Nat.strongRecOn with
  | ind n ih =>
    rw [Nat.toDigits_eq_if (by decide)]
    split
    next hsmall => simp [hexNumber?, hexDigit?_digitChar n hsmall]
    next hlarge =>
      have hdigit := hexDigit?_digitChar (n % 16) (by omega)
      rw [hexNumber?_append, ih (n / 16) (by omega), hdigit]
      simp only [Option.bind_some, Option.map_some]
      congr 1
      omega

theorem exists_digitChar_of_mem_toDigits {base n : Nat} (hbase : 1 < base) {c : Char}
    (hc : c ∈ Nat.toDigits base n) : ∃ digit < base, c = Nat.digitChar digit := by
  induction n using Nat.strongRecOn with
  | ind n ih =>
    rw [Nat.toDigits_eq_if hbase] at hc
    split at hc
    next hsmall => exact ⟨n, hsmall, List.mem_singleton.mp hc⟩
    next hlarge =>
      rcases List.mem_append.mp hc with hc | hc
      · exact ih (n / base) (Nat.div_lt_self (by omega) hbase) hc
      · exact ⟨n % base, Nat.mod_lt n (by omega), List.mem_singleton.mp hc⟩

/-- A code point has at most six digits. -/
theorem length_toDigits_toNat_le (c : Char) : (Nat.toDigits 16 c.toNat).length ≤ 6 := by
  refine (Nat.length_toDigits_le_iff (by decide) (by decide)).mpr ?_
  have hvalid : c.toNat.isValidChar := c.valid
  unfold Nat.isValidChar at hvalid
  omega

/-- A byte of ASCII is a character. -/
theorem isSome_charAt?_of_lt {code : Nat} (hcode : code < 128) : (charAt? code).isSome = true := by
  have hvalid : code.isValidChar := by
    unfold Nat.isValidChar
    omega
  rw [charAt?, dif_pos hvalid]
  rfl

/-- The character at a character's code point is that character. -/
theorem charAt?_toNat (c : Char) : charAt? c.toNat = some c := by
  have hvalid : c.toNat.isValidChar := c.valid
  rw [charAt?, dif_pos hvalid]
  congr 1

end RetainerTable.Text
