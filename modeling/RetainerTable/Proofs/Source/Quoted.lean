import RetainerTable.Proofs.Text.Hex
import RetainerTable.Source.Literal
import RetainerTable.Text.Escape

/-!
What quoted text means: the characters that stand between the quotes once escapes are undone.

The readers follow those that find the end of a literal, and end where they do
(`map_quoted?_eq_afterQuoted`). Escaped text reads as the text that was escaped, in either style and
whatever follows the closing quote (`quoted?_escapeChars`).
-/

namespace RetainerTable.Source

open RetainerTable.Text

/-- The character that an escape by code point names and the text after the closing brace. -/
def code? (digits : List Char) : List Char → Option (Char × List Char)
  | [] => none
  | c :: cs =>
    if c = '\x7d' ∧ digits ≠ [] then ((hexNumber? digits.reverse).bind charAt?).map (·, cs)
    else if c = '_' ∧ digits ≠ [] then code? digits cs
    else if (hexDigit? c).isSome && decide (digits.length < 6) then code? (c :: digits) cs
    else none

def hexChar? (high low : Char) : Option Char :=
  match hexDigit? high, hexDigit? low with
  | some h, some l => if h < 8 then charAt? (16 * h + l) else none
  | _, _ => none

/-- The escaped character and the text after it, given the text after the backslash. -/
def escape? : List Char → Option (Char × List Char)
  | 'x' :: high :: low :: rest => (hexChar? high low).map (·, rest)
  | 'u' :: '\x7b' :: rest => code? [] rest
  | '0' :: rest => some ('\x00', rest)
  | 'n' :: rest => some ('\n', rest)
  | 'r' :: rest => some ('\r', rest)
  | 't' :: rest => some ('\t', rest)
  | '\\' :: rest => some ('\\', rest)
  | '\'' :: rest => some ('\'', rest)
  | '"' :: rest => some ('"', rest)
  | _ => none

def precede (c : Char) (read : List Char × List Char) : List Char × List Char :=
  (c :: read.1, read.2)

/-- The characters up to the closing quote and the text after it, given the text after the opening
    quote. The first argument bounds the number of characters and escapes read. -/
def quoted? : Nat → List Char → Option (List Char × List Char)
  | 0, _ => none
  | _ + 1, [] => none
  | _ + 1, '"' :: rest => some ([], rest)
  | bound + 1, '\r' :: '\n' :: rest => (quoted? bound rest).map (precede '\n')
  | _ + 1, '\r' :: _ => none
  | bound + 1, '\\' :: '\n' :: rest => quoted? bound (rest.dropWhile isSwallowed)
  | bound + 1, '\\' :: '\r' :: '\n' :: rest => quoted? bound (rest.dropWhile isSwallowed)
  | bound + 1, '\\' :: rest =>
    (escape? rest).bind fun (c, rest) => (quoted? bound rest).map (precede c)
  | bound + 1, c :: rest => (quoted? bound rest).map (precede c)

/-- The text that a string literal spells and the text after it. -/
def textLiteral? : List Char → Option (String × List Char)
  | '"' :: rest => (quoted? (rest.length + 1) rest).map fun (cs, rest) => (String.ofList cs, rest)
  | _ => none

/-- The text that stands escaped: what it would spell between quotes. -/
def unescape? (cs : List Char) : Option String :=
  match quoted? (cs.length + 1) (cs ++ ['"']) with
  | some (cs, []) => some (String.ofList cs)
  | _ => none

private theorem map_code?_eq_afterCode (digits cs : List Char) :
    (code? digits cs).map Prod.snd = afterCode .text digits cs := by
  fun_induction code? digits cs with
  | case1 => simp [afterCode]
  | case2 digits c cs hclosing =>
    cases hcode : (hexNumber? digits.reverse).bind charAt? <;>
      simp [afterCode, hclosing, hcode, QuotedClass.text]
  | case3 digits c cs hclosing hunderscore ih =>
    rw [ih]
    simp [afterCode, hunderscore]
  | case4 digits c cs hclosing hunderscore hdigit ih =>
    rw [ih]
    simp [afterCode, hclosing, hunderscore, hdigit]
  | case5 digits c cs hclosing hunderscore hdigit =>
    simp [afterCode, hclosing, hunderscore, hdigit]

private theorem isSome_hexChar? (high low : Char) :
    (hexChar? high low).isSome = QuotedClass.text.admitsHex high low := by
  unfold hexChar? QuotedClass.admitsHex
  cases hexDigit? high with
  | none => rfl
  | some h =>
    cases hlow : hexDigit? low with
    | none => rfl
    | some l =>
      have hl := hexDigit?_lt hlow
      by_cases hsmall : h < 8
      · have hsome := isSome_charAt?_of_lt (by omega : 16 * h + l < 128)
        simp [hsmall, hsome, QuotedClass.text]
      · simp [hsmall, QuotedClass.text]

private theorem map_escape?_eq_afterEscape (cs : List Char) :
    (escape? cs).map Prod.snd = afterEscape .text cs := by
  unfold escape?
  split
  next high low rest =>
    have hadmits := isSome_hexChar? high low
    cases hchar : hexChar? high low <;> simp [hchar] at hadmits <;> simp [afterEscape, ← hadmits]
  next rest => simp [afterEscape, map_code?_eq_afterCode, QuotedClass.text]
  next => simp [afterEscape, QuotedClass.text]
  next => simp [afterEscape]
  next => simp [afterEscape]
  next => simp [afterEscape]
  next => simp [afterEscape]
  next => simp [afterEscape]
  next => simp [afterEscape]
  next cs hx hu h0 hn hr ht hslash hsingle hdouble =>
    unfold afterEscape
    split <;> simp_all

private theorem map_precede_snd (c : Char) (read : Option (List Char × List Char)) :
    (read.map (precede c)).map Prod.snd = read.map Prod.snd := by
  cases read <;> rfl

/-- Reading what a literal spells ends where reading over the literal ends. -/
theorem map_quoted?_eq_afterQuoted (bound : Nat) (cs : List Char) :
    (quoted? bound cs).map Prod.snd = afterQuoted .text bound cs := by
  fun_induction quoted? bound cs with
  | case1 => simp [afterQuoted]
  | case2 => simp [afterQuoted]
  | case3 => simp [afterQuoted]
  | case4 bound rest ih => rw [map_precede_snd, ih, afterQuoted]
  | case5 => simp [afterQuoted]
  | case6 bound rest ih => rw [ih, afterQuoted]
  | case7 bound rest ih => rw [ih, afterQuoted]
  | case8 bound rest hrest hrest' ih =>
    rw [afterQuoted, ← map_escape?_eq_afterEscape]
    · cases escape? rest with
      | none => rfl
      | some found => exact (map_precede_snd found.1 _).trans (ih found.2)
    · exact hrest
    · exact hrest'
  | case9 bound c rest hquote hbreak hreturn hfeed hfeed' hslash ih =>
    rw [map_precede_snd, ih]
    simp_all [afterQuoted, QuotedClass.admits, QuotedClass.text]

private theorem digitChar_ne : ∀ digit < 16,
    Nat.digitChar digit ≠ '\x7d' ∧ Nat.digitChar digit ≠ '_' := by
  decide

/-- Digits and a closing brace name the character whose number they spell. -/
theorem code?_digits (rest : List Char) {digits : List Char} (read : List Char)
    (hdigits : ∀ c ∈ digits, ∃ digit < 16, c = Nat.digitChar digit)
    (hlength : read.length + digits.length ≤ 6) (hsome : digits ≠ [] ∨ read ≠ []) :
    code? read (digits ++ '\x7d' :: rest) =
      ((hexNumber? (read.reverse ++ digits)).bind charAt?).map (·, rest) := by
  induction digits generalizing read with
  | nil => simp [code?, hsome.resolve_left]
  | cons c digits ih =>
    obtain ⟨⟨digit, hdigit, rfl⟩, hrest⟩ := List.forall_mem_cons.mp hdigits
    obtain ⟨hbrace, hunderscore⟩ := digitChar_ne digit hdigit
    have hroom : read.length < 6 := by
      simp only [List.length_cons] at hlength
      omega
    have hnext := ih (Nat.digitChar digit :: read) hrest
      (by simp only [List.length_cons] at hlength ⊢; omega) (.inr (by simp))
    rw [List.cons_append, code?, if_neg (by simp [hbrace]), if_neg (by simp [hunderscore]),
      if_pos (by simp [hexDigit?_digitChar digit hdigit, hroom]), hnext]
    simp

private theorem code?_toDigits (c : Char) (rest : List Char) :
    code? [] (Nat.toDigits 16 c.toNat ++ '\x7d' :: rest) = some (c, rest) := by
  rw [code?_digits rest [] (fun _ => exists_digitChar_of_mem_toDigits (by decide))
    (by simpa using length_toDigits_toNat_le c) (.inl Nat.toDigits_ne_nil)]
  simp [hexNumber?_toDigits, charAt?_toNat]

private theorem quoted?_escapeChar (style : EscapeStyle) (leads : Bool) (c : Char) (bound : Nat)
    (rest : List Char) : quoted? (bound + 1) (escapeChar style leads c ++ rest) =
      (quoted? bound rest).map (precede c) := by
  unfold escapeChar
  split
  next hzero => simp [hzero, quoted?, escape?]
  next =>
    split
    next htab => simp [htab, quoted?, escape?]
    next =>
      split
      next hreturn => simp [hreturn, quoted?, escape?]
      next hreturn =>
        split
        next hfeed => simp [hfeed, quoted?, escape?]
        next =>
          split
          next hmark =>
            rcases hmark with rfl | rfl | ⟨rfl, -⟩ <;> simp [quoted?, escape?]
          next hplain =>
            split
            next => simp [escapeCode, quoted?, escape?, code?_toDigits]
            next =>
              have hslash : c ≠ '\\' := fun heq => hplain (.inl heq)
              have hquote : c ≠ '"' := fun heq => hplain (.inr (.inl heq))
              simp [quoted?, hslash, hreturn]

private theorem quoted?_escapeChar_flatMap (style : EscapeStyle) (rest : List Char) {cs : List Char}
    {bound : Nat} (hbound : cs.length < bound) :
    quoted? bound (cs.flatMap (escapeChar style false) ++ '"' :: rest) = some (cs, rest) := by
  induction cs generalizing bound with
  | nil =>
    obtain ⟨bound, rfl⟩ := Nat.exists_eq_succ_of_ne_zero (Nat.ne_of_gt hbound)
    simp [quoted?]
  | cons c cs ih =>
    obtain ⟨bound, rfl⟩ := Nat.exists_eq_succ_of_ne_zero (Nat.ne_zero_of_lt hbound)
    rw [List.flatMap_cons, List.append_assoc, quoted?_escapeChar,
      ih (Nat.lt_of_succ_lt_succ hbound)]
    rfl

/-- Escaped text up to a closing quote reads as the text, whatever follows the quote. -/
theorem quoted?_escapeChars (style : EscapeStyle) (rest : List Char) {cs : List Char}
    {bound : Nat} (hbound : cs.length < bound) :
    quoted? bound (escapeChars style cs ++ '"' :: rest) = some (cs, rest) := by
  cases cs with
  | nil => exact quoted?_escapeChar_flatMap style rest hbound
  | cons c cs =>
    obtain ⟨bound, rfl⟩ := Nat.exists_eq_succ_of_ne_zero (Nat.ne_zero_of_lt hbound)
    rw [escapeChars, List.append_assoc, quoted?_escapeChar,
      quoted?_escapeChar_flatMap style rest (Nat.lt_of_succ_lt_succ hbound)]
    rfl

private theorem length_escapeChar_pos (style : EscapeStyle) (leads : Bool) (c : Char) :
    0 < (escapeChar style leads c).length := by
  unfold escapeChar escapeCode
  repeat' split
  all_goals simp

private theorem length_le_length_flatMap {α β : Type} {f : α → List β} (hf : ∀ a, 0 < (f a).length)
    (as : List α) : as.length ≤ (as.flatMap f).length := by
  induction as with
  | nil => simp
  | cons a as ih =>
    have ha := hf a
    simp only [List.length_cons, List.flatMap_cons, List.length_append]
    omega

private theorem length_le_length_escapeChars (style : EscapeStyle) (cs : List Char) :
    cs.length ≤ (escapeChars style cs).length := by
  cases cs with
  | nil => simp
  | cons c cs =>
    have hc := length_escapeChar_pos style true c
    have hcs := length_le_length_flatMap (length_escapeChar_pos style false) cs
    simp only [escapeChars, List.length_cons, List.length_append]
    omega

/-- A literal spells the text it was written for, whatever follows it. -/
theorem textLiteral?_literal (text : String) (rest : List Char) :
    textLiteral? ((literal text).toList ++ rest) = some (text, rest) := by
  have hlength := length_le_length_escapeChars .literal text.toList
  simp only [literal, String.toList_ofList, List.append_assoc, List.cons_append, List.nil_append,
    textLiteral?]
  rw [quoted?_escapeChars .literal rest (by simp; omega)]
  simp

/-- The text in a comment is undone to the text it was written for. -/
theorem unescape?_inComment (text : String) : unescape? (inComment text).toList = some text := by
  have hlength := length_le_length_escapeChars .comment text.toList
  simp only [inComment, String.toList_ofList, unescape?]
  rw [quoted?_escapeChars .comment [] (by omega)]
  simp

end RetainerTable.Source
