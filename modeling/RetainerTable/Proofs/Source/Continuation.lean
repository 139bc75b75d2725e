import RetainerTable.Proofs.Source.Layout
import RetainerTable.Proofs.Source.Literal

/-!
Reading on behind a text that was read.

A colon ends every token but a symbol, which it makes a joined one, and a line comment, which goes on to
the end of the line. So a text that was read either exposes what a colon begins, which is then read
behind its tokens, or it leaves a line comment open and swallows the rest of the line (`decides_colon`).
It does one of them only (`Exposes.not_swallows`). After a single identifier it is so with other marks
as well (`LaidOut.decides`).
-/

namespace RetainerTable.Source

open RetainerTable.Text

variable {c : Char} {cs rest : List Char} {kind : QuotedClass} {token : Token} {tokens : List Token}

/-- A beginning without colons is one of the text in front of the colon. -/
theorem prefix_append_colon_iff {mark more : List Char} (hmark : ':' ∉ mark) :
    mark <+: cs ++ ':' :: more ↔ mark <+: cs := by
  constructor
  · intro hfront
    by_cases hlength : mark.length ≤ cs.length
    · exact prefix_of_prefix_append hfront hlength
    · have hcolon : cs ++ [':'] <+: cs ++ ':' :: more := ⟨more, by simp⟩
      have hlonger : cs ++ [':'] <+: mark :=
        List.prefix_of_prefix_length_le hcolon hfront (by simp; omega)
      exact absurd (hlonger.subset (by simp)) hmark
  · intro hfront
    exact hfront.trans (List.prefix_append _ _)

private theorem plainIdent?_append_colon (cs more : List Char) : plainIdent? (cs ++ ':' :: more) =
    (plainIdent? cs).map fun (name, rest) => (name, rest ++ ':' :: more) := by
  cases cs with
  | nil => simp [plainIdent?, isIdentStart_colon]
  | cons c cs =>
    simp only [List.cons_append, plainIdent?, takeWhile_append_colon isIdentContinue_colon,
      dropWhile_append_colon isIdentContinue_colon]
    split <;> rfl

private theorem anyIdent?_of_not_marked (hmark : ¬['r', '#'] <+: cs) : anyIdent? cs =
    (plainIdent? cs).map fun (name, rest) => (⟨false, name⟩, rest) := by
  rw [anyIdent?]
  rintro after rfl
  exact hmark ⟨after, rfl⟩

private theorem anyIdent?_append_colon (cs more : List Char) : anyIdent? (cs ++ ':' :: more) =
    (anyIdent? cs).map fun (ident, rest) => (ident, rest ++ ':' :: more) := by
  by_cases hmark : ['r', '#'] <+: cs
  · obtain ⟨cs, rfl⟩ := hmark
    simp only [List.cons_append, List.nil_append, anyIdent?, plainIdent?_append_colon]
    cases plainIdent? cs with
    | none => rfl
    | some found =>
      simp only [Option.map_some]
      split <;> rfl
  · rw [anyIdent?_of_not_marked hmark,
      anyIdent?_of_not_marked (mt (prefix_append_colon_iff (by decide)).mp hmark),
      plainIdent?_append_colon, Option.map_map, Option.map_map]
    rfl

private theorem lifetime?_append_colon (cs more : List Char) : lifetime? (cs ++ ':' :: more) =
    (lifetime? cs).map (· ++ ':' :: more) := by
  unfold lifetime?
  rw [anyIdent?_append_colon]
  cases anyIdent? cs with
  | none => rfl
  | some found =>
    obtain ⟨ident, rest⟩ := found
    match rest with
    | [] => rfl
    | c :: rest =>
      by_cases hquote : c = '\''
      · subst hquote
        rfl
      · by_cases hhash : c = '#'
        · subst hhash
          cases hraw : ident.raw <;> simp [hraw]
        · simp [hquote, hhash]

private theorem colon_notMem_of_opener : ∀ opener ∈ quoteOpeners, ':' ∉ opener := by decide

private theorem ident?_append_colon (cs more : List Char) : ident? (cs ++ ':' :: more) =
    (ident? cs).map fun (ident, rest) => (ident, rest ++ ':' :: more) := by
  have hopeners : quoteOpeners.any (·.isPrefixOf (cs ++ ':' :: more)) =
      quoteOpeners.any (·.isPrefixOf cs) := by
    rw [Bool.eq_iff_iff, List.any_eq_true, List.any_eq_true]
    refine exists_congr fun opener => and_congr_right fun hopener => ?_
    rw [List.isPrefixOf_iff_prefix, List.isPrefixOf_iff_prefix,
      prefix_append_colon_iff (colon_notMem_of_opener opener hopener)]
  unfold ident?
  rw [hopeners, anyIdent?_append_colon]
  split <;> rfl

private theorem anyIdent?_suffix {ident : Identifier} (hread : anyIdent? cs = some (ident, rest)) :
    rest <:+ cs :=
  ⟨ident.text.toList, (eq_append_of_anyIdent? hread).symm⟩

private theorem ident?_suffix {ident : Identifier} (hread : ident? cs = some (ident, rest)) :
    rest <:+ cs := by
  unfold ident? at hread
  split at hread
  · cases hread
  · exact anyIdent?_suffix hread

private theorem lifetime?_suffix (hread : lifetime? cs = some rest) : rest <:+ cs := by
  unfold lifetime? at hread
  split at hread
  · cases hread
  next ident after hany =>
    have hsuffix := anyIdent?_suffix hany
    split at hread
    · cases hread
    · split at hread
      · cases hread
        exact hsuffix
      · cases hread
    · cases hread
      exact hsuffix

private theorem afterQuotedLiteral_of_notMem (hc : c ∉ "\"'bcr".toList) (cs : List Char) :
    afterQuotedLiteral (c :: cs) = none := by
  simp only [String.reduceToList, List.mem_cons, List.not_mem_nil, or_false, not_or] at hc
  simp [afterQuotedLiteral, hc]

private theorem not_quoting_of_afterNumber (hread : afterNumber (c :: cs) = some rest) :
    c ∉ "\"'bcr".toList := by
  have hdigit : '0' ≤ c ∧ c ≤ '9' := by
    by_contra hnot
    simp [afterNumber, hnot] at hread
  intro hmem
  have hquoting : "\"'bcr".toList.all (fun c => !decide ('0' ≤ c ∧ c ≤ '9')) = true := by decide
  simpa [hdigit] using List.all_eq_true.mp hquoting c hmem

private theorem not_quoting_of_startsSymbol (hsymbol : startsSymbol (c :: cs) = true) (hc : c ≠ '\'') :
    c ∉ "\"'bcr".toList := by
  have hmarks : marks.all (fun c => c == '\'' || !"\"'bcr".toList.contains c) = true := by decide
  have hmem : c ∈ marks := by
    simp only [startsSymbol, Bool.and_eq_true, List.contains_iff_mem] at hsymbol
    exact hsymbol.1
  simpa [hc] using List.all_eq_true.mp hmarks c hmem

private theorem exists_mark_of_afterRaw (hread : afterRaw kind cs = some rest) :
    ['"'] <+: cs ∨ ['#', '"'] <+: cs ∨ ['#', '#'] <+: cs := by
  match cs with
  | [] => cases hread
  | c :: cs =>
    by_cases hquote : c = '"'
    · simp [hquote]
    · by_cases hhash : c = '#'
      · subst hhash
        match cs with
        | [] => cases hread
        | d :: cs =>
          by_cases hquote' : d = '"'
          · simp [hquote']
          · by_cases hhash' : d = '#'
            · simp [hhash']
            · simp [afterRaw, hquote', hhash'] at hread
      · simp [afterRaw, hquote, hhash] at hread

/-- A quoted literal that begins as an identifier does begins with one of the openers. -/
theorem exists_opener_of_afterQuotedLiteral (hc : isIdentStart c = true)
    (hread : afterQuotedLiteral (c :: cs) = some rest) :
    ∃ opener ∈ quoteOpeners, opener <+: c :: cs := by
  have hquote : c ≠ '"' := ne_of_isIdentStart hc (by decide)
  have hquote' : c ≠ '\'' := ne_of_isIdentStart hc (by decide)
  obtain ⟨after, hafter, -⟩ := Option.map_eq_some_iff.mp hread
  split at hafter
  next heq => exact absurd (List.cons.inj heq).1 hquote
  next heq => exact ⟨"b\"".toList, by decide, by simp [heq]⟩
  next heq => exact ⟨"c\"".toList, by decide, by simp [heq]⟩
  next heq => exact absurd (List.cons.inj heq).1 hquote'
  next heq => exact ⟨"b'".toList, by decide, by simp [heq]⟩
  next heq =>
    rw [heq]
    rcases exists_mark_of_afterRaw hafter with hmark | hmark | hmark
    · exact ⟨"r\"".toList, by decide, by simpa using hmark⟩
    · exact ⟨"r#\"".toList, by decide, by simpa using hmark⟩
    · exact ⟨"r##".toList, by decide, by simpa using hmark⟩
  next heq =>
    rw [heq]
    rcases exists_mark_of_afterRaw hafter with hmark | ⟨rest, rfl⟩ | ⟨rest, rfl⟩
    · exact ⟨"br\"".toList, by decide, by simpa using hmark⟩
    · exact ⟨"br#".toList, by decide, by simp⟩
    · exact ⟨"br#".toList, by decide, by simp⟩
  next heq =>
    rw [heq]
    rcases exists_mark_of_afterRaw hafter with hmark | ⟨rest, rfl⟩ | ⟨rest, rfl⟩
    · exact ⟨"cr\"".toList, by decide, by simpa using hmark⟩
    · exact ⟨"cr#".toList, by decide, by simp⟩
    · exact ⟨"cr#".toList, by decide, by simp⟩
  next => cases hafter

private theorem exists_cons_of_anyIdent? {found : Identifier × List Char} (hread : anyIdent? cs = some found) :
    ∃ c rest, cs = c :: rest ∧ isIdentStart c = true := by
  obtain ⟨ident, after⟩ := found
  obtain ⟨c, name, htext, hstart⟩ := text_eq_cons (anyIdent?_readable hread)
  exact ⟨c, name ++ after, by rw [eq_append_of_anyIdent? hread, htext, List.cons_append], hstart⟩

private theorem ident?_of_outside (hc : inRanges outsideRanges c = true) (cs : List Char) :
    ident? (c :: cs) = none := by
  rw [Option.eq_none_iff_forall_ne_some]
  intro found hident
  unfold ident? at hident
  split at hident
  · cases hident
  · obtain ⟨d, name, hcs, hstart⟩ := exists_cons_of_anyIdent? hident
    exact ne_of_isIdentStart hstart hc (List.cons.inj hcs).1.symm

private theorem not_quoted_append_colon_of_ident {found : Identifier × List Char}
    (hread : ident? cs = some found) (more : List Char) :
    afterQuotedLiteral (cs ++ ':' :: more) = none := by
  unfold ident? at hread
  split at hread
  · cases hread
  next hopeners =>
    obtain ⟨c, after, hcs, hstart⟩ := exists_cons_of_anyIdent? hread
    cases hquoted : afterQuotedLiteral (cs ++ ':' :: more) with
    | none => rfl
    | some behind =>
      rw [hcs, List.cons_append] at hquoted
      obtain ⟨opener, hopener, hfront⟩ := exists_opener_of_afterQuotedLiteral hstart hquoted
      rw [← List.cons_append, ← hcs,
        prefix_append_colon_iff (colon_notMem_of_opener opener hopener)] at hfront
      refine absurd ?_ hopeners
      rw [List.any_eq_true]
      exact ⟨opener, hopener, List.isPrefixOf_iff_prefix.mpr hfront⟩

private theorem not_quoted_append_colon_of_lifetime (hquoted : afterQuotedLiteral ('\'' :: cs) = none)
    (hread : lifetime? cs = some rest) (more : List Char) :
    afterQuotedLiteral ('\'' :: cs ++ ':' :: more) = none := by
  have hident : ∃ ident, anyIdent? cs = some ident := by
    cases hany : anyIdent? cs with
    | none => simp [lifetime?, hany] at hread
    | some found => exact ⟨found, rfl⟩
  obtain ⟨found, hany⟩ := hident
  obtain ⟨c, behind, rfl, hstart⟩ := exists_cons_of_anyIdent? hany
  have hslash : c ≠ '\\' := ne_of_isIdentStart hstart (by decide)
  cases behind with
  | nil => simp [afterQuotedLiteral, afterCharacter]
  | cons d behind =>
    by_cases hclosing : d = '\''
    · simp [afterQuotedLiteral, afterCharacter, QuotedClass.admits, QuotedClass.text, hclosing]
        at hquoted
    · simp [afterQuotedLiteral, afterCharacter, hclosing]

namespace Token

private theorem opensComment_iff : opensComment cs = true ↔ ['/', '/'] <+: cs ∨ ['/', '*'] <+: cs := by
  unfold opensComment
  split
  · simp
  · simp
  next hline hblock =>
    simp only [Bool.false_eq_true, false_iff, not_or]
    constructor
    · rintro ⟨rest, rfl⟩
      exact hline rest rfl
    · rintro ⟨rest, rfl⟩
      exact hblock rest rfl

private theorem startsSymbol_append_colon (c : Char) (cs more : List Char) :
    startsSymbol (c :: cs ++ ':' :: more) = startsSymbol (c :: cs) := by
  have hcomment : opensComment (c :: cs ++ ':' :: more) = opensComment (c :: cs) := by
    rw [Bool.eq_iff_iff, opensComment_iff, opensComment_iff, prefix_append_colon_iff (by decide),
      prefix_append_colon_iff (by decide)]
  rw [List.cons_append] at hcomment ⊢
  simp only [startsSymbol, hcomment]

/-- What follows a colon makes no difference to the symbol in front of it. -/
theorem startsSymbol_before_colon (cs more : List Char) :
    startsSymbol (cs ++ ':' :: more) = startsSymbol (cs ++ [':']) := by
  cases cs with
  | nil => rw [List.nil_append, List.nil_append, startsSymbol_colon, startsSymbol_colon]
  | cons c cs => rw [startsSymbol_append_colon, startsSymbol_append_colon]

/-- A token in front of a colon is found as it is without. A symbol is joined to the colon. -/
theorem exists_first?_append_colon (hread : first? cs = some (token, rest)) :
    ∃ token', ∀ more, first? (cs ++ ':' :: more) = some (token', rest ++ ':' :: more) := by
  simp only [first?_eq_some_iff] at hread ⊢
  cases hread with
  | bracket hbracket => exact ⟨_, fun more => .bracket hbracket⟩
  | quoted hbracket hquoted =>
    exact ⟨_, fun more => .quoted hbracket (afterQuotedLiteral_append_colon hquoted more)⟩
  | @number c cs _ hbracket hquoted hnumber =>
    refine ⟨_, fun more => .number hbracket ?_ ?_⟩
    · exact afterQuotedLiteral_of_notMem (not_quoting_of_afterNumber hnumber) _
    · exact (afterNumber_append_colon (c :: cs) more).trans (congrArg (Option.map _) hnumber)
  | @lifetime cs _ hquoted hsymbol hlifetime =>
    refine ⟨_, fun more => .lifetime ?_ ?_ ?_⟩
    · exact not_quoted_append_colon_of_lifetime hquoted hlifetime more
    · exact (startsSymbol_append_colon '\'' cs more).trans hsymbol
    · exact (lifetime?_append_colon cs more).trans (congrArg (Option.map _) hlifetime)
  | @symbol c cs hbracket hquoted hnumber hsymbol hc =>
    refine ⟨.symbol c (startsSymbol (rest ++ [':'])), fun more => ?_⟩
    rw [← startsSymbol_before_colon rest more]
    refine .symbol hbracket ?_ ?_ ((startsSymbol_append_colon c rest more).trans hsymbol) hc
    · exact afterQuotedLiteral_of_notMem (not_quoting_of_startsSymbol hsymbol hc) _
    · exact (afterNumber_append_colon (c :: rest) more).trans (congrArg (Option.map _) hnumber)
  | @identifier c cs _ ident hbracket hquoted hnumber hsymbol hident =>
    refine ⟨.identifier ident, fun more => .identifier hbracket
      (not_quoted_append_colon_of_ident hident more) ?_
      ((startsSymbol_append_colon c cs more).trans hsymbol) ?_⟩
    · exact (afterNumber_append_colon (c :: cs) more).trans (congrArg (Option.map _) hnumber)
    · exact (ident?_append_colon (c :: cs) more).trans (congrArg (Option.map _) hident)

private theorem first?_suffix (hread : first? cs = some (token, rest)) : rest <:+ cs := by
  cases first?_eq_some_iff.mp hread with
  | bracket => exact List.suffix_cons _ _
  | quoted _ hquoted => exact afterQuotedLiteral_suffix hquoted
  | number _ _ hnumber => exact afterNumber_suffix hnumber
  | lifetime _ _ hlifetime => exact suffix_cons_of_suffix (lifetime?_suffix hlifetime) _
  | symbol => exact List.suffix_cons _ _
  | identifier _ _ _ _ hident => exact ident?_suffix hident

/-- No token begins with a character that no reader begins with. -/
theorem first?_of_outside (hbracket : bracketToken? c = none) (hquoting : c ∉ "\"'bcr".toList)
    (hdigit : ¬('0' ≤ c ∧ c ≤ '9')) (hc : inRanges outsideRanges c = true)
    (hsymbol : startsSymbol (c :: cs) = false) : first? (c :: cs) = none := by
  have hnumber : afterNumber (c :: cs) = none := by simp only [afterNumber, if_neg hdigit]
  simp [first?, hbracket, afterQuotedLiteral_of_notMem hquoting, hnumber, hsymbol,
    ident?_of_outside hc]

/-- No token begins where a comment opens. -/
theorem opensComment_of_first? (hread : first? cs = some (token, rest)) :
    opensComment cs = false := by
  cases hopens : opensComment cs with
  | false => rfl
  | true =>
    obtain ⟨cs, rfl⟩ : ∃ rest, cs = '/' :: rest := by
      rcases opensComment_iff.mp hopens with ⟨rest, rfl⟩ | ⟨rest, rfl⟩
      · exact ⟨'/' :: rest, rfl⟩
      · exact ⟨'*' :: rest, rfl⟩
    rw [first?_of_outside (by decide) (by decide) (by decide) (by decide)
      (by simp [startsSymbol, hopens])] at hread
    cases hread

private theorem afterComment?_of_opensComment (hopens : opensComment cs = false) :
    afterComment? cs = none := by
  unfold afterComment?
  split
  · cases hopens
  · cases hopens
  · rfl

private theorem afterSeparator?_append_colon (hseparator : afterSeparator? cs = none)
    (hread : first? cs = some (token, rest)) (more : List Char) :
    afterSeparator? (cs ++ ':' :: more) = none := by
  have hopens : opensComment (cs ++ ':' :: more) = false := by
    rw [Bool.eq_false_iff, Ne, opensComment_iff, prefix_append_colon_iff (by decide),
      prefix_append_colon_iff (by decide), ← opensComment_iff, ← Ne, ← Bool.eq_false_iff]
    exact opensComment_of_first? hread
  cases cs with
  | nil => cases hread
  | cons c cs =>
    rw [afterSeparator?] at hseparator
    rw [List.cons_append] at hopens ⊢
    split at hseparator
    · cases hseparator
    next hc => rw [afterSeparator?, if_neg hc, afterComment?_of_opensComment hopens]

end Token

/-- Whatever stands behind the text, if it begins with the mark, is read as it is read alone. -/
def Exposes (mark : Char) (cs : List Char) : Prop :=
  ∃ tokens, ∀ more, Token.read (cs ++ mark :: more) = (Token.read (mark :: more)).map (tokens ++ ·)

/-- Nothing that stands behind the text on its last line and begins with the mark is read. -/
def Swallows (mark : Char) (cs : List Char) : Prop :=
  ∃ tokens, ∀ more, '\n' ∉ more → Token.read (cs ++ mark :: more) = some tokens

/-- Two slashes stand on the last line of the text. -/
def SlashesLast (cs : List Char) : Prop :=
  ∃ front body, cs = front ++ '/' :: '/' :: body ∧ '\n' ∉ body

private theorem SlashesLast.of_suffix (hslashes : SlashesLast rest) (hsuffix : rest <:+ cs) :
    SlashesLast cs := by
  obtain ⟨before, body, rfl, hline⟩ := hslashes
  obtain ⟨front, rfl⟩ := hsuffix
  exact ⟨front ++ before, body, (List.append_assoc _ _ _).symm, hline⟩

theorem SlashesLast.isInfix (hslashes : SlashesLast cs) : ['/', '/'] <:+: cs := by
  obtain ⟨front, body, rfl, -⟩ := hslashes
  exact ⟨front, body, by simp⟩

/-- The text exposes what stands behind it, or a line comment on its last line swallows that. -/
def Decides (mark : Char) (cs : List Char) : Prop :=
  Exposes mark cs ∨ Swallows mark cs ∧ SlashesLast cs

/-- An end of the text decides what becomes of what stands behind it. -/
theorem Decides.of_step {mark : Char} (tokens : List Token) (hrest : Decides mark rest)
    (hsuffix : rest <:+ cs) (hstep : ∀ more, Token.read (cs ++ mark :: more) =
      (Token.read (rest ++ mark :: more)).map (tokens ++ ·)) : Decides mark cs := by
  rcases hrest with ⟨later, hlater⟩ | ⟨⟨later, hlater⟩, hslashes⟩
  · refine .inl ⟨tokens ++ later, fun more => ?_⟩
    rw [hstep, hlater, Option.map_map]
    refine congrArg (Option.map · _) (funext fun behind => ?_)
    exact (List.append_assoc tokens later behind).symm
  · refine .inr ⟨⟨tokens ++ later, fun more hmore => ?_⟩, hslashes.of_suffix hsuffix⟩
    rw [hstep, hlater more hmore, Option.map_some]

private theorem Decides.of_skip {mark : Char} (hrest : Decides mark rest) (hsuffix : rest <:+ cs)
    (hskip : ∀ more, Token.read (cs ++ mark :: more) = Token.read (rest ++ mark :: more)) :
    Decides mark cs := by
  refine hrest.of_step [] hsuffix fun more => ?_
  simp [hskip]

/-- A line comment that was left open goes on to the end of the line. -/
theorem decides_line {mark : Char} {body : List Char} (hordinary : OrdinaryLine body)
    (hline : '\n' ∉ body) (hmark : mark ∉ ['/', '!', '\n']) :
    Decides mark ('/' :: '/' :: body) := by
  simp only [List.mem_cons, List.not_mem_nil, or_false, not_or] at hmark
  obtain ⟨hslash, hexclamation, hfeed⟩ := hmark
  refine .inr ⟨⟨[], fun more hmore => ?_⟩, [], body, rfl, hline⟩
  have hordinary' : OrdinaryLine (body ++ mark :: more) := by
    rwa [ordinaryLine_append_iff]
    intro c hc
    obtain rfl := Option.some.inj hc
    exact ⟨hslash, hexclamation⟩
  have hline' : '\n' ∉ body ++ mark :: more := by simp [hline, hmore, Ne.symm hfeed]
  exact Token.read_openLine hordinary' hline'

/-- What was read alone decides what becomes of a colon and of what follows it. -/
theorem decides_colon (hread : Token.read cs = some tokens) : Decides ':' cs := by
  fun_induction Token.read cs generalizing tokens with
  | case1 => exact .inl ⟨[], fun more => by simp⟩
  | case2 cs hne rest hafter hlt ih =>
    rcases cases_of_afterSeparator? hafter with ⟨c, rfl, hc⟩ | hcomment
    · exact (ih hread).of_skip (List.suffix_cons c rest) fun more => Token.read_separator hc _
    rcases cases_of_afterComment? hcomment with ⟨body, rfl, hordinary, hline, hrest⟩ |
      ⟨body, rfl, hordinary, hcloses⟩
    · cases rest with
      | nil =>
        rw [List.append_nil]
        exact decides_line hordinary hline (by decide)
      | cons c rest =>
        refine (ih hread).of_skip ⟨'/' :: '/' :: body, rfl⟩ fun more => ?_
        rw [List.cons_append, List.cons_append, List.append_assoc]
        exact Token.read_line hordinary hline fun d hd => hrest d hd
    · refine (ih hread).of_skip ⟨'/' :: '*' :: body, rfl⟩ fun more => ?_
      rw [List.cons_append, List.cons_append, List.append_assoc]
      exact Token.read_block hordinary hcloses _
  | case3 => cases hread
  | case4 cs hne hafter token rest hfirst hlt ih =>
    obtain ⟨later, hlater, heq⟩ := Option.map_eq_some_iff.mp hread
    obtain ⟨token', hfirst'⟩ := Token.exists_first?_append_colon hfirst
    refine (ih hlater).of_step [token'] (Token.first?_suffix hfirst) fun more => ?_
    refine Token.read_of_first? (Token.afterSeparator?_append_colon hafter hfirst more)
      (hfirst' more) ?_
    simpa using hlt
  | case5 => cases hread
  | case6 => cases hread

/-- What stands behind is exposed or swallowed and not both, if there are texts on one line that begin
    with the mark and are read differently. -/
theorem Exposes.not_swallows {mark : Char} (hexposes : Exposes mark cs)
    {more more' : List Char} (hmore : '\n' ∉ more) (hmore' : '\n' ∉ more')
    (hdiffer : Token.read (mark :: more) ≠ Token.read (mark :: more')) : ¬Swallows mark cs := by
  rintro ⟨all, hall⟩
  obtain ⟨tokens, htokens⟩ := hexposes
  have hsame := (hall more hmore).trans (hall more' hmore').symm
  rw [htokens, htokens] at hsame
  exact hdiffer (Option.map_injective (List.append_right_injective tokens) hsame)

theorem EndGap.decides {mark : Char} (hend : EndGap cs) (hmark : mark ∉ ['/', '!', '\n']) :
    Decides mark cs := by
  cases hend with
  | gap hgap => exact .inl ⟨[], fun more => by simp [hgap.read_append]⟩
  | @line body front hgap hordinary hline =>
    refine (decides_line hordinary hline hmark).of_skip (List.suffix_append _ _) fun more => ?_
    rw [List.append_assoc, hgap.read_append]

/-- An identifier and what may stand around it decide so for every mark that could not go on with
    either. -/
theorem LaidOut.decides {ident : Identifier} {mark : Char}
    (hlaid : LaidOut [ident.text.toList] cs) (hident : ident.Readable)
    (hends : ∀ more, EndsIdent (mark :: more)) (hmark : mark ∉ ['/', '!', '\n']) :
    Decides mark cs := by
  cases hlaid with
  | @cons gap _ rest _ hgap hrest =>
    cases hrest with
    | nil hend =>
      have hrest := hend.decides hmark
      refine hrest.of_step [.identifier ident] ?_ fun more => ?_
      · exact (List.suffix_append _ _).trans (List.suffix_append _ _)
      · rw [List.append_assoc, List.append_assoc, hgap.read_append,
          Token.read_identifier hident (hend.endsIdent_append (hends more))]
        rfl

/-- Nothing is read from a byte order mark on unless the text begins with it. -/
theorem Token.read_byteOrderMark (cs : List Char) : Token.read ('\ufeff' :: cs) = none := by
  have hseparator : isSeparator '\ufeff' = false := by decide
  have hafter : afterSeparator? ('\ufeff' :: cs) = none := by
    simp [afterSeparator?, hseparator, afterComment?]
  have hmark : '\ufeff' ∉ marks := by decide
  have hfirst : first? ('\ufeff' :: cs) = none :=
    first?_of_outside (by decide) (by decide) (by decide) (by decide) (by simp [startsSymbol, hmark])
  rw [read, if_neg (List.cons_ne_nil _ _)]
  simp only [hafter, hfirst]

end RetainerTable.Source
