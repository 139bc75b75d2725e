import RetainerTable.Proofs.Source.Rereading

/-!
Where literals end.

What is left of a text behind a literal is an end of it. A colon ends every number, and what follows the
colon does not matter, so numbers are read alike in front of one by equations. A quoted literal ends
with its closing quote, whatever stands behind; but that there is none cannot be told from a part of the
text, for the closing quote might be found behind it.
-/

namespace RetainerTable.Source

open RetainerTable.Text

variable {c : Char} {cs rest : List Char} {kind : QuotedClass}

theorem isIdentStart_colon : isIdentStart ':' = false := by
  cases hstart : isIdentStart ':' with
  | false => rfl
  | true => exact absurd rfl (ne_of_isIdentStart hstart (by decide : inRanges outsideRanges ':' = true))

theorem takeWhile_append_colon {p : Char → Bool} (hp : p ':' = false) (cs more : List Char) :
    (cs ++ ':' :: more).takeWhile p = cs.takeWhile p := by
  induction cs with
  | nil => simp [hp]
  | cons c cs ih => simp [List.takeWhile_cons, ih]

theorem dropWhile_append_colon {p : Char → Bool} (hp : p ':' = false) (cs more : List Char) :
    (cs ++ ':' :: more).dropWhile p = cs.dropWhile p ++ ':' :: more := by
  induction cs with
  | nil => simp [hp]
  | cons c cs ih =>
    cases hc : p c <;> simp [hc, ih]

theorem suffix_cons_of_suffix (hsuffix : rest <:+ cs) (c : Char) : rest <:+ c :: cs :=
  hsuffix.trans (List.suffix_cons c cs)

private theorem afterSuffix_append_colon (cs more : List Char) :
    afterSuffix (cs ++ ':' :: more) = afterSuffix cs ++ ':' :: more := by
  cases cs with
  | nil => simp [afterSuffix, isIdentStart_colon]
  | cons c cs =>
    simp only [List.cons_append, afterSuffix, dropWhile_append_colon isIdentContinue_colon]
    split <;> rfl

private theorem afterNumberSuffix_append_colon (cs more : List Char) :
    afterNumberSuffix (cs ++ ':' :: more) = (afterNumberSuffix cs).map (· ++ ':' :: more) := by
  unfold afterNumberSuffix
  rw [afterSuffix_append_colon]
  cases afterSuffix cs with
  | nil => simp [isIdentContinue_colon]
  | cons c rest => cases hc : isIdentContinue c <;> simp [hc]

private theorem isDecimal_colon : isDecimal ':' = false := by decide

private theorem afterExponent_append_colon (cs more : List Char) :
    afterExponent (cs ++ ':' :: more) = (afterExponent cs).map (· ++ ':' :: more) := by
  have hunsigned : ∀ unsigned : List Char,
      (if ((unsigned ++ ':' :: more).takeWhile isDecimal).any (· ≠ '_') then
        some ((unsigned ++ ':' :: more).dropWhile isDecimal) else none) =
      (if (unsigned.takeWhile isDecimal).any (· ≠ '_') then some (unsigned.dropWhile isDecimal)
        else none).map (· ++ ':' :: more) := by
    intro unsigned
    rw [takeWhile_append_colon isDecimal_colon, dropWhile_append_colon isDecimal_colon]
    split <;> rfl
  simp only [afterExponent]
  rw [dropWhile_append_colon (by decide)]
  cases cs.dropWhile (· = '_') with
  | nil => exact hunsigned []
  | cons c rest =>
    by_cases hplus : c = '+'
    · subst hplus
      exact hunsigned rest
    · by_cases hminus : c = '-'
      · subst hminus
        exact hunsigned rest
      · simpa [hplus, hminus] using hunsigned (c :: rest)

private theorem afterFloat_append_colon (cs more : List Char) :
    afterFloat (cs ++ ':' :: more) = (afterFloat cs).map (· ++ ':' :: more) := by
  have hcolon : afterNumberSuffix (':' :: more) = some (':' :: more) :=
    afterNumberSuffix_append_colon [] more
  unfold afterFloat
  rw [dropWhile_append_colon isDecimal_colon]
  match cs.dropWhile isDecimal with
  | [] => rfl
  | c :: rest =>
    by_cases hpoint : c = '.'
    · subst hpoint
      cases rest with
      | nil => simp [isIdentStart_colon, isDecimal_colon, hcolon]
      | cons d rest =>
        have hdigits := dropWhile_append_colon isDecimal_colon (d :: rest) more
        simp only [List.cons_append] at hdigits ⊢
        by_cases hfraction : (!(!(decide (d = '.') || isIdentStart d))) = true
        · rw [if_pos hfraction, if_pos hfraction]
          rfl
        · rw [if_neg hfraction, if_neg hfraction, hdigits]
          cases (d :: rest).dropWhile isDecimal with
          | nil => simp [hcolon]
          | cons e tail =>
            simp only [List.cons_append, afterExponent_append_colon]
            split
            · cases afterExponent tail with
              | none => exact afterNumberSuffix_append_colon (e :: tail) more
              | some after => exact afterNumberSuffix_append_colon after more
            · exact afterNumberSuffix_append_colon (e :: tail) more
    · by_cases hletter : c = 'e' ∨ c = 'E'
      · have hexponent : ((afterExponent (rest ++ ':' :: more)).bind afterNumberSuffix) =
            ((afterExponent rest).bind afterNumberSuffix).map (· ++ ':' :: more) := by
          rw [afterExponent_append_colon]
          cases afterExponent rest with
          | none => rfl
          | some after => exact afterNumberSuffix_append_colon after more
        simpa [hletter] using hexponent
      · simp [hletter]

private theorem afterDigits_append_colon (base : Nat) (found : Bool) (cs more : List Char) :
    afterDigits base found (cs ++ ':' :: more) =
      (afterDigits base found cs).map (· ++ ':' :: more) := by
  have hcolon : hexDigit? ':' = none := by decide
  induction cs generalizing found with
  | nil => cases found <;> simp [afterDigits, hcolon]
  | cons c cs ih =>
    simp only [List.cons_append, afterDigits, ih]
    split
    · split <;> rfl
    · split
      · split
        · rfl
        · split
          · rfl
          · split <;> rfl
      · split <;> rfl

private theorem afterInteger_append_colon (cs more : List Char) :
    afterInteger (cs ++ ':' :: more) = (afterInteger cs).map (· ++ ':' :: more) := by
  have hsuffix : ∀ base cs, (afterDigits base false (cs ++ ':' :: more)).bind afterNumberSuffix =
      ((afterDigits base false cs).bind afterNumberSuffix).map (· ++ ':' :: more) := by
    intro base cs
    rw [afterDigits_append_colon]
    cases afterDigits base false cs with
    | none => rfl
    | some rest => exact afterNumberSuffix_append_colon rest more
  unfold afterInteger
  match cs with
  | [] => exact hsuffix 10 []
  | [c] =>
    by_cases hzero : c = '0'
    · subst hzero
      exact hsuffix 10 ['0']
    · simpa [hzero] using hsuffix 10 [c]
  | c :: d :: cs =>
    by_cases hzero : c = '0'
    · subst hzero
      by_cases hx : d = 'x'
      · subst hx
        exact hsuffix 16 cs
      · by_cases ho : d = 'o'
        · subst ho
          exact hsuffix 8 cs
        · by_cases hb : d = 'b'
          · subst hb
            exact hsuffix 2 cs
          · simpa [hx, ho, hb] using hsuffix 10 ('0' :: d :: cs)
    · simpa [hzero] using hsuffix 10 (c :: d :: cs)

theorem afterNumber_append_colon (cs more : List Char) :
    afterNumber (cs ++ ':' :: more) = (afterNumber cs).map (· ++ ':' :: more) := by
  cases cs with
  | nil => rfl
  | cons c cs =>
    simp only [List.cons_append, afterNumber]
    split
    · rw [← List.cons_append, afterFloat_append_colon, afterInteger_append_colon]
      cases afterFloat (c :: cs) <;> rfl
    · rfl

private theorem afterSuffix_suffix (cs : List Char) : afterSuffix cs <:+ cs := by
  cases cs with
  | nil => exact List.suffix_refl []
  | cons c cs =>
    rw [afterSuffix]
    split
    · exact suffix_cons_of_suffix (List.dropWhile_suffix _) c
    · exact List.suffix_refl _

private theorem afterNumberSuffix_suffix (hread : afterNumberSuffix cs = some rest) : rest <:+ cs := by
  have hsuffix := afterSuffix_suffix cs
  unfold afterNumberSuffix at hread
  split at hread
  · cases hread
    exact List.nil_suffix
  next c after heq =>
    split at hread
    · cases hread
    · cases hread
      rwa [heq] at hsuffix

private theorem afterExponent_suffix (hread : afterExponent cs = some rest) : rest <:+ cs := by
  have hunsigned : ∀ unsigned : List Char, unsigned <:+ cs →
      (if (unsigned.takeWhile isDecimal).any (· ≠ '_') then some (unsigned.dropWhile isDecimal)
        else none) = some rest → rest <:+ cs := by
    intro unsigned hsuffix hdigits
    split at hdigits
    · cases hdigits
      exact (List.dropWhile_suffix _).trans hsuffix
    · cases hdigits
  have hline := List.dropWhile_suffix (l := cs) (· = '_')
  unfold afterExponent at hread
  simp only at hread
  split at hread
  next after heq => exact hunsigned _ ((List.suffix_cons _ _).trans (heq ▸ hline)) hread
  next after heq => exact hunsigned _ ((List.suffix_cons _ _).trans (heq ▸ hline)) hread
  next => exact hunsigned _ hline hread

private theorem afterFloat_suffix (hread : afterFloat cs = some rest) : rest <:+ cs := by
  have hdigits := List.dropWhile_suffix (l := cs) isDecimal
  unfold afterFloat at hread
  split at hread
  next after heq =>
    have hafter := (List.dropWhile_suffix (l := after) isDecimal).trans
      ((List.suffix_cons '.' after).trans (heq ▸ hdigits))
    rw [ite_eq_iff] at hread
    rcases hread with ⟨-, hread⟩ | ⟨-, hread⟩
    · cases hread
    · split at hread
      next e tail hfraction =>
        rw [hfraction] at hafter
        have htail : (afterExponent tail).getD (e :: tail) <:+ e :: tail := by
          cases hexponent : afterExponent tail with
          | none => exact List.suffix_refl _
          | some behind => exact suffix_cons_of_suffix (afterExponent_suffix hexponent) e
        split at hread
        · exact (afterNumberSuffix_suffix hread).trans (htail.trans hafter)
        · exact (afterNumberSuffix_suffix hread).trans hafter
      next =>
        cases hread
        exact List.nil_suffix
  next e tail hpoint heq =>
    rw [heq] at hdigits
    split at hread
    · obtain ⟨behind, hexponent, hsuffix⟩ := Option.bind_eq_some_iff.mp hread
      exact (afterNumberSuffix_suffix hsuffix).trans
        ((suffix_cons_of_suffix (afterExponent_suffix hexponent) e).trans hdigits)
    · cases hread
  next => cases hread

private theorem afterDigits_suffix {base : Nat} {found : Bool} (hread : afterDigits base found cs = some rest) :
    rest <:+ cs := by
  fun_induction afterDigits base found cs with
  | case1 | case7 | case9 =>
    cases hread
    exact List.suffix_refl _
  | case2 | case3 | case6 | case8 | case10 => cases hread
  | case4 _ _ _ ih => exact suffix_cons_of_suffix (ih hread) _
  | case5 _ _ _ _ _ _ _ ih => exact suffix_cons_of_suffix (ih hread) _

private theorem afterInteger_suffix (hread : afterInteger cs = some rest) : rest <:+ cs := by
  obtain ⟨after, hdigits, hsuffix⟩ := Option.bind_eq_some_iff.mp hread
  refine (afterNumberSuffix_suffix hsuffix).trans ?_
  split at hdigits
  · exact suffix_cons_of_suffix (suffix_cons_of_suffix (afterDigits_suffix hdigits) _) _
  · exact suffix_cons_of_suffix (suffix_cons_of_suffix (afterDigits_suffix hdigits) _) _
  · exact suffix_cons_of_suffix (suffix_cons_of_suffix (afterDigits_suffix hdigits) _) _
  · exact afterDigits_suffix hdigits

theorem afterNumber_suffix (hread : afterNumber cs = some rest) : rest <:+ cs := by
  unfold afterNumber at hread
  split at hread
  · cases hread
  · split at hread
    · rcases Option.or_eq_some_iff.mp hread with hfloat | ⟨-, hinteger⟩
      · exact afterFloat_suffix hfloat
      · exact afterInteger_suffix hinteger
    · cases hread

private theorem afterCode_append {digits : List Char} (hread : afterCode kind digits cs = some rest)
    (behind : List Char) : afterCode kind digits (cs ++ behind) = some (rest ++ behind) := by
  fun_induction afterCode kind digits cs with
  | case1 => cases hread
  | case2 digits c cs hclosing named hnamed hzero =>
    cases hread
    rw [List.cons_append, afterCode, if_pos hclosing]
    simp only [hnamed, if_pos hzero]
  | case3 => cases hread
  | case4 => cases hread
  | case5 digits c cs hclosing hunderscore ih =>
    simp [afterCode, hunderscore, ih hread]
  | case6 digits c cs hclosing hunderscore hdigit ih =>
    rw [List.cons_append, afterCode, if_neg hclosing, if_neg hunderscore, if_pos hdigit, ih hread]
  | case7 => cases hread

private theorem afterEscape_append (hread : afterEscape kind cs = some rest) (behind : List Char) :
    afterEscape kind (cs ++ behind) = some (rest ++ behind) := by
  unfold afterEscape at hread
  split at hread
  next high low after =>
    split at hread
    next hhex =>
      cases hread
      simp [afterEscape, hhex]
    next => cases hread
  next after =>
    split at hread
    next hunicode => simp [afterEscape, hunicode, afterCode_append hread behind]
    next => cases hread
  next after =>
    split at hread
    next hzero =>
      cases hread
      simp [afterEscape, hzero]
    next => cases hread
  next c after hx hu hzero =>
    split at hread
    next hletter =>
      cases hread
      have hc : c ≠ 'x' ∧ c ≠ 'u' ∧ c ≠ '0' := by
        refine ⟨?_, ?_, ?_⟩
        all_goals
          rintro rfl
          exact absurd hletter (by decide)
      simp only [List.cons_append]
      rw [afterEscape, if_pos hletter]
      all_goals simp [hc]
    next => cases hread
  next => cases hread

private theorem dropWhile_append_of_ne_nil {p : Char → Bool} (hne : cs.dropWhile p ≠ [])
    (behind : List Char) : (cs ++ behind).dropWhile p = cs.dropWhile p ++ behind := by
  have hsome : (cs.dropWhile p).isEmpty = false := by simpa using hne
  rw [List.dropWhile_append, hsome, if_neg Bool.false_ne_true]

private theorem afterQuoted_ne_nil {bound : Nat} (hread : afterQuoted kind bound cs = some rest) :
    cs ≠ [] := by
  rintro rfl
  cases bound <;> cases hread

/-- What stands behind a quoted literal is not looked at, and a greater bound makes no difference. -/
theorem afterQuoted_append {bound bound' : Nat} (hread : afterQuoted kind bound cs = some rest)
    (hbound : bound ≤ bound') (behind : List Char) :
    afterQuoted kind bound' (cs ++ behind) = some (rest ++ behind) := by
  induction bound generalizing cs bound' with
  | zero => cases hread
  | succ bound ih =>
    obtain ⟨bound', rfl⟩ := Nat.exists_eq_succ_of_ne_zero (Nat.ne_zero_of_lt hbound)
    have hle : bound ≤ bound' := Nat.le_of_succ_le_succ hbound
    have hswallowed : ∀ cs, afterQuoted kind bound (cs.dropWhile isSwallowed) = some rest →
        afterQuoted kind bound' ((cs ++ behind).dropWhile isSwallowed) = some (rest ++ behind) := by
      intro cs hread
      rw [dropWhile_append_of_ne_nil (afterQuoted_ne_nil hread)]
      exact ih hread hle
    rw [afterQuoted.eq_def] at hread
    split at hread
    next heq => cases heq
    next => cases hread
    next after heq =>
      cases heq
      cases hread
      rfl
    next after heq =>
      cases heq
      have hrest : afterQuoted kind bound' (after ++ behind) = some (rest ++ behind) := ih hread hle
      exact hrest
    next => cases hread
    next after heq =>
      cases heq
      exact hswallowed after hread
    next after heq =>
      cases heq
      exact hswallowed after hread
    next after hfeed hreturn heq =>
      cases heq
      obtain ⟨unescaped, hescape, hread⟩ := Option.bind_eq_some_iff.mp hread
      have hescape' := afterEscape_append hescape behind
      rw [List.cons_append, afterQuoted, hescape', Option.bind_some, ih hread hle]
      all_goals
        intro other heq
        rw [heq] at hescape'
        simp [afterEscape] at hescape'
    next c after hquote hreturn hreturn' hfeed hfeed' hslash heq =>
      cases heq
      split at hread
      next hadmits =>
        have hrest : afterQuoted kind bound' (after ++ behind) = some (rest ++ behind) :=
          ih hread hle
        rw [List.cons_append, afterQuoted, if_pos hadmits, hrest]
        all_goals simp_all
      next => cases hread

private theorem length_le_of_take {hashes : Nat} (htake : cs.take hashes = List.replicate hashes '#') :
    hashes ≤ cs.length := by
  have hcount := congrArg List.length htake
  simp only [List.length_take, List.length_replicate] at hcount
  omega

/-- Hashes that are not in the text do not stand behind it, where a colon is. -/
theorem take_append_colon_iff {hashes : Nat} (more : List Char) :
    (cs ++ ':' :: more).take hashes = List.replicate hashes '#' ↔
      cs.take hashes = List.replicate hashes '#' := by
  by_cases hlength : hashes ≤ cs.length
  · rw [List.take_append_of_le_length hlength]
  · constructor
    · intro htake
      have hcolon : ':' ∈ (cs ++ ':' :: more).take hashes := by
        rw [List.take_append]
        obtain ⟨k, hk⟩ := Nat.exists_eq_add_of_lt (Nat.lt_of_not_le hlength)
        have hsome : hashes - cs.length = k + 1 := by omega
        simp [hsome]
      rw [htake] at hcolon
      exact absurd (List.eq_of_mem_replicate hcolon) (by decide)
    · intro htake
      exact absurd (length_le_of_take htake) hlength

private theorem afterRawQuote_append_colon {hashes : Nat} (hread : afterRawQuote kind hashes cs = some rest)
    (more : List Char) :
    afterRawQuote kind hashes (cs ++ ':' :: more) = some (rest ++ ':' :: more) := by
  fun_induction afterRawQuote kind hashes cs with
  | case1 => cases hread
  | case2 after ih =>
    have hrest := ih hread
    simpa [afterRawQuote] using hrest
  | case3 => cases hread
  | case4 c after hfeed hreturn hclosing =>
    cases hread
    obtain ⟨hquote, htake⟩ := hclosing
    rw [List.cons_append, afterRawQuote, if_pos ⟨hquote, (take_append_colon_iff more).mpr htake⟩,
      List.drop_append_of_le_length (length_le_of_take htake)]
    all_goals simp_all
  | case5 c after hfeed hreturn hclosing hadmits ih =>
    have hopen : ¬(c = '"' ∧ (after ++ ':' :: more).take hashes = List.replicate hashes '#') := by
      rwa [take_append_colon_iff]
    rw [List.cons_append, afterRawQuote, if_neg hopen, if_pos hadmits, ih hread]
    all_goals simp_all
  | case6 => cases hread

private theorem afterRaw_append_colon (hread : afterRaw kind cs = some rest) (more : List Char) :
    afterRaw kind (cs ++ ':' :: more) = some (rest ++ ':' :: more) := by
  unfold afterRaw at hread ⊢
  rw [dropWhile_append_colon (by decide), takeWhile_append_colon (by decide)]
  split at hread
  next after hquote =>
    simp only at hread
    split at hread
    next hlength =>
      simp only [hquote, List.cons_append, if_pos hlength]
      exact afterRawQuote_append_colon hread more
    next => cases hread
  next => cases hread

private theorem afterCharacter_append (hread : afterCharacter kind cs = some rest) (behind : List Char) :
    afterCharacter kind (cs ++ behind) = some (rest ++ behind) := by
  match cs with
  | [] => cases hread
  | c :: cs =>
    by_cases hslash : c = '\\'
    · subst hslash
      simp only [afterCharacter] at hread
      split at hread
      next after hescape =>
        cases hread
        simp [afterCharacter, afterEscape_append hescape behind]
      next => cases hread
    · by_cases hadmits : kind.admits c = true
      · simp only [afterCharacter, hadmits] at hread
        split at hread
        next after heq =>
          cases hread
          have hcs : cs = '\'' :: rest := by simpa [hslash] using heq
          simp [afterCharacter, hadmits, hcs]
        next => cases hread
      · simp [afterCharacter, hadmits] at hread

private theorem map_afterSuffix_append_colon (after more : List Char) :
    (some (after ++ ':' :: more)).map afterSuffix = some (afterSuffix after ++ ':' :: more) :=
  congrArg some (afterSuffix_append_colon after more)

theorem afterQuotedLiteral_append_colon (hread : afterQuotedLiteral cs = some rest)
    (more : List Char) : afterQuotedLiteral (cs ++ ':' :: more) = some (rest ++ ':' :: more) := by
  have hquoted : ∀ kind after cs, afterQuoted kind (cs.length + 1) cs = some after →
      (afterQuoted kind ((cs ++ ':' :: more).length + 1) (cs ++ ':' :: more)).map afterSuffix =
        some (afterSuffix after ++ ':' :: more) := by
    intro kind after cs hread
    rw [afterQuoted_append hread (by simp), map_afterSuffix_append_colon]
  have hcharacter : ∀ kind after cs, afterCharacter kind cs = some after →
      (afterCharacter kind (cs ++ ':' :: more)).map afterSuffix =
        some (afterSuffix after ++ ':' :: more) := by
    intro kind after cs hread
    rw [afterCharacter_append hread, map_afterSuffix_append_colon]
  have hraw : ∀ kind after cs, afterRaw kind cs = some after →
      (afterRaw kind (cs ++ ':' :: more)).map afterSuffix =
        some (afterSuffix after ++ ':' :: more) := by
    intro kind after cs hread
    rw [afterRaw_append_colon hread, map_afterSuffix_append_colon]
  obtain ⟨after, hafter, rfl⟩ := Option.map_eq_some_iff.mp hread
  split at hafter
  · exact hquoted _ _ _ hafter
  · exact hquoted _ _ _ hafter
  · exact hquoted _ _ _ hafter
  · exact hcharacter _ _ _ hafter
  · exact hcharacter _ _ _ hafter
  · exact hraw _ _ _ hafter
  · exact hraw _ _ _ hafter
  · exact hraw _ _ _ hafter
  · cases hafter

private theorem afterCode_suffix {digits : List Char} (hread : afterCode kind digits cs = some rest) :
    rest <:+ cs := by
  fun_induction afterCode kind digits cs with
  | case1 => cases hread
  | case2 =>
    cases hread
    exact List.suffix_cons _ _
  | case3 => cases hread
  | case4 => cases hread
  | case5 _ c _ _ _ ih => exact suffix_cons_of_suffix (ih hread) c
  | case6 _ c _ _ _ _ ih => exact suffix_cons_of_suffix (ih hread) c
  | case7 => cases hread

private theorem afterEscape_suffix (hread : afterEscape kind cs = some rest) : rest <:+ cs := by
  unfold afterEscape at hread
  split at hread
  · split at hread
    · cases hread
      exact suffix_cons_of_suffix (suffix_cons_of_suffix (List.suffix_cons _ _) _) _
    · cases hread
  · split at hread
    · exact suffix_cons_of_suffix (suffix_cons_of_suffix (afterCode_suffix hread) _) _
    · cases hread
  · split at hread
    · cases hread
      exact List.suffix_cons _ _
    · cases hread
  · split at hread
    · cases hread
      exact List.suffix_cons _ _
    · cases hread
  · cases hread

private theorem afterQuoted_suffix {bound : Nat} (hread : afterQuoted kind bound cs = some rest) :
    rest <:+ cs := by
  induction bound generalizing cs with
  | zero => cases hread
  | succ bound ih =>
    rw [afterQuoted.eq_def] at hread
    split at hread
    next heq => cases heq
    next => cases hread
    next =>
      cases hread
      exact List.suffix_cons _ _
    next heq =>
      cases heq
      exact suffix_cons_of_suffix (suffix_cons_of_suffix (ih hread) _) _
    next => cases hread
    next heq =>
      cases heq
      exact suffix_cons_of_suffix (suffix_cons_of_suffix
        ((ih hread).trans (List.dropWhile_suffix _)) _) _
    next heq =>
      cases heq
      exact suffix_cons_of_suffix (suffix_cons_of_suffix (suffix_cons_of_suffix
        ((ih hread).trans (List.dropWhile_suffix _)) _) _) _
    next heq =>
      cases heq
      obtain ⟨unescaped, hescape, hread⟩ := Option.bind_eq_some_iff.mp hread
      exact suffix_cons_of_suffix ((ih hread).trans (afterEscape_suffix hescape)) _
    next heq =>
      cases heq
      split at hread
      · exact suffix_cons_of_suffix (ih hread) _
      · cases hread

private theorem afterRawQuote_suffix {hashes : Nat} (hread : afterRawQuote kind hashes cs = some rest) :
    rest <:+ cs := by
  fun_induction afterRawQuote kind hashes cs with
  | case1 => cases hread
  | case2 after ih => exact suffix_cons_of_suffix (suffix_cons_of_suffix (ih hread) _) _
  | case3 => cases hread
  | case4 c after =>
    cases hread
    exact suffix_cons_of_suffix (List.drop_suffix _ _) c
  | case5 c after _ _ _ _ ih => exact suffix_cons_of_suffix (ih hread) c
  | case6 => cases hread

private theorem afterRaw_suffix (hread : afterRaw kind cs = some rest) : rest <:+ cs := by
  have hhashes := List.dropWhile_suffix (l := cs) (· = '#')
  unfold afterRaw at hread
  split at hread
  next after heq =>
    simp only at hread
    split at hread
    · exact (suffix_cons_of_suffix (afterRawQuote_suffix hread) _).trans (heq ▸ hhashes)
    · cases hread
  next => cases hread

private theorem afterCharacter_suffix (hread : afterCharacter kind cs = some rest) : rest <:+ cs := by
  match cs with
  | [] => cases hread
  | c :: cs =>
    by_cases hslash : c = '\\'
    · subst hslash
      simp only [afterCharacter] at hread
      split at hread
      next after hescape =>
        cases hread
        exact suffix_cons_of_suffix ((List.suffix_cons _ _).trans (afterEscape_suffix hescape)) _
      next => cases hread
    · by_cases hadmits : kind.admits c = true
      · simp only [afterCharacter, hadmits] at hread
        split at hread
        next after heq =>
          cases hread
          have hcs : cs = '\'' :: rest := by simpa [hslash] using heq
          rw [hcs]
          exact suffix_cons_of_suffix (List.suffix_cons _ _) c
        next => cases hread
      · simp [afterCharacter, hadmits] at hread

theorem afterQuotedLiteral_suffix (hread : afterQuotedLiteral cs = some rest) : rest <:+ cs := by
  obtain ⟨after, hafter, rfl⟩ := Option.map_eq_some_iff.mp hread
  refine (afterSuffix_suffix after).trans ?_
  split at hafter
  · exact suffix_cons_of_suffix (afterQuoted_suffix hafter) _
  · exact suffix_cons_of_suffix (suffix_cons_of_suffix (afterQuoted_suffix hafter) _) _
  · exact suffix_cons_of_suffix (suffix_cons_of_suffix (afterQuoted_suffix hafter) _) _
  · exact suffix_cons_of_suffix (afterCharacter_suffix hafter) _
  · exact suffix_cons_of_suffix (suffix_cons_of_suffix (afterCharacter_suffix hafter) _) _
  · exact suffix_cons_of_suffix (afterRaw_suffix hafter) _
  · exact suffix_cons_of_suffix (suffix_cons_of_suffix (afterRaw_suffix hafter) _) _
  · exact suffix_cons_of_suffix (suffix_cons_of_suffix (afterRaw_suffix hafter) _) _
  · cases hafter

end RetainerTable.Source
