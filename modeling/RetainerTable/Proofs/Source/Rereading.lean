import RetainerTable.Associations
import RetainerTable.Proofs.Source.Spelling
import RetainerTable.Proofs.Text.Trim

/-!
The spelling of a path that was read is read as that path again.

An identifier is read where it stands, whatever follows, if only that cannot go on with it
(`Token.read_identifier`); joined by colons, identifiers are read one by one
(`Token.read_intercalate`). A retainer's spelling needs no trimming, so it names the retainer
(`Associations.retainer?_text`).
-/

namespace RetainerTable.Source

open RetainerTable.Text

variable {c : Char} {cs rest : List Char} {ident : Identifier} {path : Path}

/-- Code points that stand in no identifier: in ASCII all but letters, digits and the underscore, and
    of the others the two marks of writing direction and the byte order mark. -/
def outsideRanges : List CodeRange :=
  [(0x0, 0x2F), (0x3A, 0x40), (0x5B, 0x5E), (0x60, 0x60), (0x7B, 0x7F), (0x200E, 0x200F),
   (0xFEFF, 0xFEFF)]

theorem isIdentContinue_of_outside (hc : inRanges outsideRanges c = true) :
    isIdentContinue c = false := by
  have hstart : inRanges identStartRanges c = false :=
    not_inRanges_of_apart (by decide +kernel) hc
  have hcontinue : inRanges identContinueRanges c = false :=
    not_inRanges_of_apart (by decide +kernel) hc
  rw [isIdentContinue, hstart, hcontinue]
  rfl

theorem ne_of_isIdentContinue {other : Char} (hc : isIdentContinue c = true)
    (hother : inRanges outsideRanges other = true) : c ≠ other := by
  rintro rfl
  rw [isIdentContinue_of_outside hother] at hc
  cases hc

theorem ne_of_isIdentStart {other : Char} (hc : isIdentStart c = true)
    (hother : inRanges outsideRanges other = true) : c ≠ other :=
  ne_of_isIdentContinue (isIdentContinue_of_isIdentStart hc) hother

private theorem isIdentContinue_literalLetters : isIdentContinue 'b' = true ∧ isIdentContinue 'c' = true ∧
    isIdentContinue 'r' = true := by
  decide +kernel

private theorem isIdentContinue_literalMarks : isIdentContinue '"' = false ∧
    isIdentContinue '\'' = false ∧ isIdentContinue '#' = false := by
  refine ⟨?_, ?_, ?_⟩
  all_goals exact isIdentContinue_of_outside (by decide)

private theorem not_isDecimalDigit_of_isIdentStart (hc : isIdentStart c = true) : ¬('0' ≤ c ∧ c ≤ '9') := by
  rintro ⟨hlo, hhi⟩
  have hdigit : inRanges [(0x30, 0x39)] c = true := by
    rw [inRanges_iff]
    exact ⟨(0x30, 0x39), List.mem_singleton_self _, hlo, hhi⟩
  have hranges : inRanges identStartRanges c = false :=
    not_inRanges_of_apart (by decide +kernel) hdigit
  have hline : c ≠ '_' := by
    rintro rfl
    exact absurd hdigit (by decide)
  simp [isIdentStart, hranges, hline] at hc

private theorem bracketToken?_of_isIdentStart (hc : isIdentStart c = true) : bracketToken? c = none := by
  have houtside : "([\x7b)]\x7d".toList.all (inRanges outsideRanges) = true := by decide
  have hne : ∀ bracket ∈ "([\x7b)]\x7d".toList, c ≠ bracket := by
    intro bracket hbracket
    exact ne_of_isIdentStart hc (List.all_eq_true.mp houtside bracket hbracket)
  simp at hne
  simp [bracketToken?, hne]

private theorem startsSymbol_of_isIdentStart (hc : isIdentStart c = true) (cs : List Char) :
    startsSymbol (c :: cs) = false := by
  have houtside : marks.all (inRanges outsideRanges) = true := by decide
  have hnot : c ∉ marks := by
    intro hmem
    exact ne_of_isIdentStart hc (List.all_eq_true.mp houtside c hmem) rfl
  simp [startsSymbol, hnot]

private theorem afterNumber_of_isIdentStart (hc : isIdentStart c = true) (cs : List Char) :
    afterNumber (c :: cs) = none := by
  simp only [afterNumber, if_neg (not_isDecimalDigit_of_isIdentStart hc)]

theorem isBlank_of_isIdentContinue (hc : isIdentContinue c = true) : isBlank c = false := by
  rcases Bool.or_eq_true_iff.mp hc with hc | hc
  · exact not_inRanges_of_apart (by decide +kernel) hc
  · exact not_inRanges_of_apart (by decide +kernel) hc

private theorem afterSeparator?_of_isIdentStart (hc : isIdentStart c = true) (cs : List Char) :
    Token.afterSeparator? (c :: cs) = none := by
  have hblank := isBlank_of_isIdentContinue (isIdentContinue_of_isIdentStart hc)
  have hleft : c ≠ '\u200e' := ne_of_isIdentStart hc (by decide)
  have hright : c ≠ '\u200f' := ne_of_isIdentStart hc (by decide)
  have hslash : c ≠ '/' := ne_of_isIdentStart hc (by decide)
  simp [Token.afterSeparator?, isSeparator, hblank, hleft, hright, afterComment?, hslash]

/-- The text cannot go on with an identifier, and does not make one in front of it the beginning of a
    quoted literal. -/
def EndsIdent (rest : List Char) : Prop :=
  ∀ c ∈ rest.head?, isIdentContinue c = false ∧ c ∉ ['"', '\'', '#']

theorem endsIdent_nil : EndsIdent [] := by
  intro c hc
  cases hc

theorem endsIdent_colon (cs : List Char) : EndsIdent (':' :: cs) := by
  intro c hc
  obtain rfl := Option.some.inj hc
  exact ⟨isIdentContinue_colon, by decide⟩

private theorem takeWhile_append_endsIdent (hcs : ∀ c ∈ cs, isIdentContinue c = true)
    (hrest : EndsIdent rest) : (cs ++ rest).takeWhile isIdentContinue = cs := by
  rw [List.takeWhile_append_of_pos hcs]
  cases rest with
  | nil => simp
  | cons c rest => simp [(hrest c rfl).1]

private theorem dropWhile_append_endsIdent (hcs : ∀ c ∈ cs, isIdentContinue c = true)
    (hrest : EndsIdent rest) : (cs ++ rest).dropWhile isIdentContinue = rest := by
  rw [List.dropWhile_append_of_pos hcs]
  cases rest with
  | nil => rfl
  | cons c rest => simp [(hrest c rfl).1]

/-- The letters in front of a quoted literal are followed by a quote or by the raw marker. -/
theorem head?_dropWhile_of_afterQuotedLiteral (hread : afterQuotedLiteral cs = some rest) :
    ∃ c ∈ (cs.dropWhile isIdentContinue).head?, c ∈ ['"', '\'', '#'] := by
  have hletters := isIdentContinue_literalLetters
  have hmarks := isIdentContinue_literalMarks
  have hraw : ∀ kind after, ∀ cs, afterRaw kind cs = some after →
      ∃ c ∈ (cs.dropWhile isIdentContinue).head?, c ∈ ['"', '\'', '#'] := by
    intro kind after cs hafter
    cases cs with
    | nil => simp [afterRaw] at hafter
    | cons c cs =>
      by_cases hhash : c = '#'
      · simp [hhash, hmarks]
      · by_cases hquote : c = '"'
        · simp [hquote, hmarks]
        · simp [afterRaw, hhash, hquote] at hafter
  obtain ⟨after, hafter, -⟩ := Option.map_eq_some_iff.mp hread
  split at hafter
  · simp [hmarks]
  · simp [hletters, hmarks]
  · simp [hletters, hmarks]
  · simp [hmarks]
  · simp [hletters, hmarks]
  · simpa [hletters] using hraw _ _ _ hafter
  · simpa [hletters] using hraw _ _ _ hafter
  · simpa [hletters] using hraw _ _ _ hafter
  · cases hafter

/-- An identifier that a text can hold. -/
structure Identifier.Readable (ident : Identifier) : Prop where
  starts : ∃ c cs, ident.name.toList = c :: cs ∧ isIdentStart c = true
  continues : ∀ c ∈ ident.name.toList, isIdentContinue c = true
  unreserved : ident.raw = true → ident.name ∉ neverRaw

private theorem plainIdent?_starts {name : String} (hread : plainIdent? cs = some (name, rest)) :
    ∃ c cs, name.toList = c :: cs ∧ isIdentStart c = true := by
  unfold plainIdent? at hread
  split at hread
  · cases hread
  next c cs =>
    split at hread
    next hstart =>
      cases hread
      exact ⟨c, _, String.toList_ofList, hstart⟩
    · cases hread

theorem anyIdent?_readable (hread : anyIdent? cs = some (ident, rest)) : ident.Readable := by
  have hcontinues := (anyIdent?_wellSpelled hread).chars
  unfold anyIdent? at hread
  split at hread
  · split at hread
    next name rest' hplain =>
      split at hread
      · cases hread
      next hfree =>
        cases hread
        exact ⟨plainIdent?_starts hplain, hcontinues, fun _ => by simpa using hfree⟩
    · cases hread
  · obtain ⟨⟨name, rest'⟩, hplain, heq⟩ := Option.map_eq_some_iff.mp hread
    cases heq
    exact ⟨plainIdent?_starts hplain, hcontinues, fun hraw => by cases hraw⟩

private theorem eq_append_of_plainIdent? {name : String} (hread : plainIdent? cs = some (name, rest)) :
    cs = name.toList ++ rest := by
  unfold plainIdent? at hread
  split at hread
  · cases hread
  next c cs =>
    split at hread
    next =>
      cases hread
      simp
    next => cases hread

theorem eq_append_of_anyIdent? (hread : anyIdent? cs = some (ident, rest)) :
    cs = ident.text.toList ++ rest := by
  unfold anyIdent? at hread
  split at hread
  · split at hread
    next name after hplain =>
      split at hread
      · cases hread
      · cases hread
        simp [Identifier.text, eq_append_of_plainIdent? hplain]
    · cases hread
  · obtain ⟨⟨name, after⟩, hplain, heq⟩ := Option.map_eq_some_iff.mp hread
    cases heq
    exact eq_append_of_plainIdent? hplain

/-- A readable identifier stands in front of the text. -/
theorem plainIdent?_append (hident : ident.Readable) (hrest : EndsIdent rest) :
    plainIdent? (ident.name.toList ++ rest) = some (ident.name, rest) := by
  obtain ⟨c, cs, hname, hstart⟩ := hident.starts
  have hcs : ∀ c ∈ cs, isIdentContinue c = true := by
    intro c hc
    apply hident.continues
    rw [hname]
    exact List.mem_cons_of_mem _ hc
  rw [hname, List.cons_append, plainIdent?, if_pos hstart, takeWhile_append_endsIdent hcs hrest,
    dropWhile_append_endsIdent hcs hrest, ← hname, String.ofList_toList]

private theorem name_append_ne_raw (hident : ident.Readable) (hrest : EndsIdent rest) (after : List Char) :
    ident.name.toList ++ rest ≠ 'r' :: '#' :: after := by
  intro heq
  have hdrop := dropWhile_append_endsIdent hident.continues hrest
  have hmarker : ('r' :: '#' :: after).dropWhile isIdentContinue = '#' :: after := by
    simp [isIdentContinue_literalLetters, isIdentContinue_hash]
  rw [heq, hmarker] at hdrop
  subst hdrop
  exact absurd (hrest '#' rfl).2 (by decide)

private theorem anyIdent?_append (hident : ident.Readable) (hrest : EndsIdent rest) :
    anyIdent? (ident.text.toList ++ rest) = some (ident, rest) := by
  have hplain := plainIdent?_append hident hrest
  obtain ⟨raw, name⟩ := ident
  cases raw with
  | true =>
    have hfree : name ∉ neverRaw := hident.unreserved rfl
    have htext : (Identifier.text ⟨true, name⟩).toList ++ rest =
        'r' :: '#' :: (name.toList ++ rest) := by
      simp [Identifier.text]
    rw [htext]
    simp [anyIdent?, hplain, hfree]
  | false =>
    have htext : (Identifier.text ⟨false, name⟩).toList = name.toList := rfl
    rw [htext]
    unfold anyIdent?
    split
    next after heq => exact absurd heq (name_append_ne_raw hident hrest after)
    next => simp [hplain]

theorem text_eq_cons (hident : ident.Readable) :
    ∃ c cs, ident.text.toList = c :: cs ∧ isIdentStart c = true := by
  unfold Identifier.text
  split
  · exact ⟨'r', '#' :: ident.name.toList, by simp, by decide +kernel⟩
  · exact hident.starts

/-- After the letters of a quoted literal would come a mark that no identifier is followed by. -/
theorem afterQuotedLiteral_name_append (hident : ident.Readable) (hrest : EndsIdent rest) :
    afterQuotedLiteral (ident.name.toList ++ rest) = none := by
  cases hread : afterQuotedLiteral (ident.name.toList ++ rest) with
  | none => rfl
  | some after =>
    obtain ⟨mark, hmark, hquoting⟩ := head?_dropWhile_of_afterQuotedLiteral hread
    rw [dropWhile_append_endsIdent hident.continues hrest] at hmark
    exact absurd hquoting (hrest mark hmark).2

private theorem not_opener_name_append {opener : List Char} (hident : ident.Readable)
    (hrest : EndsIdent rest) (hopener : opener ∈ quoteOpeners) :
    ¬opener.isPrefixOf (ident.name.toList ++ rest) = true := by
  intro hprefix
  obtain ⟨after, heq⟩ := List.isPrefixOf_iff_prefix.mp hprefix
  have hdrop := dropWhile_append_endsIdent hident.continues hrest
  have hmarks : ∀ opener ∈ quoteOpeners, ∃ mark ∈ ['"', '\'', '#'],
      (opener.dropWhile isIdentContinue).head? = some mark := by
    simp [quoteOpeners, isIdentContinue_literalLetters, isIdentContinue_literalMarks]
  obtain ⟨mark, hquoting, hhead⟩ := hmarks opener hopener
  have hne : (opener.dropWhile isIdentContinue).isEmpty = false := by
    cases hletters : opener.dropWhile isIdentContinue with
    | nil =>
      rw [hletters] at hhead
      cases hhead
    | cons _ _ => rfl
  rw [← heq, List.dropWhile_append, hne, if_neg Bool.false_ne_true] at hdrop
  have hmark : mark ∈ rest.head? := by
    rw [← hdrop]
    exact List.mem_head?_append_of_mem_head? hhead
  exact absurd hquoting (hrest mark hmark).2

/-- No quoted literal stands where an identifier does. -/
theorem not_quoted_text_append (hident : ident.Readable) (hrest : EndsIdent rest) :
    afterQuotedLiteral (ident.text.toList ++ rest) = none ∧
      ∀ opener ∈ quoteOpeners, ¬opener.isPrefixOf (ident.text.toList ++ rest) = true := by
  have hquoted := afterQuotedLiteral_name_append hident hrest
  have hopeners : ∀ opener ∈ quoteOpeners, ¬opener.isPrefixOf (ident.name.toList ++ rest) = true :=
    fun _ => not_opener_name_append hident hrest
  obtain ⟨c, cs, hname, hstart⟩ := hident.starts
  obtain ⟨raw, name⟩ := ident
  cases raw with
  | true =>
    -- The mark after `r#` would have to be a quote or another `#`, which begin no identifier.
    have htext : (Identifier.text ⟨true, name⟩).toList ++ rest = 'r' :: '#' :: c :: (cs ++ rest) := by
      simp [Identifier.text, hname]
    have hhash : c ≠ '#' := ne_of_isIdentStart hstart (by decide)
    have hquote : c ≠ '"' := ne_of_isIdentStart hstart (by decide)
    rw [htext]
    constructor
    · simp [afterQuotedLiteral, afterRaw, hhash, hquote]
    · simp [quoteOpeners, hhash.symm, hquote.symm]
  | false => exact ⟨hquoted, hopeners⟩

namespace Token

private theorem first?_identifier (hident : ident.Readable) (hrest : EndsIdent rest) :
    first? (ident.text.toList ++ rest) = some (.identifier ident, rest) := by
  obtain ⟨hquoted, hopeners⟩ := not_quoted_text_append hident hrest
  have hany := anyIdent?_append hident hrest
  obtain ⟨c, cs, htext, hstart⟩ := text_eq_cons hident
  rw [htext, List.cons_append] at hquoted hopeners hany ⊢
  have hident? : ident? (c :: (cs ++ rest)) = some (ident, rest) := by
    rw [ident?, if_neg, hany]
    rw [List.any_eq_true]
    rintro ⟨opener, hopener, hprefix⟩
    exact hopeners opener hopener hprefix
  simp [first?, bracketToken?_of_isIdentStart hstart, hquoted, afterNumber_of_isIdentStart hstart,
    startsSymbol_of_isIdentStart hstart, hident?]

theorem read_of_first? {token : Token} (hseparator : afterSeparator? cs = none)
    (hfirst : first? cs = some (token, rest)) (hlt : rest.length < cs.length) :
    read cs = (read rest).map (token :: ·) := by
  have hne : cs ≠ [] := by
    rintro rfl
    cases hlt
  rw [read, if_neg hne]
  simp only [hseparator, hfirst, if_pos hlt]

/-- An identifier is the first token of a text that it stands in front of. -/
theorem read_identifier (hident : ident.Readable) (hrest : EndsIdent rest) :
    read (ident.text.toList ++ rest) = (read rest).map (.identifier ident :: ·) := by
  have hfirst := first?_identifier hident hrest
  obtain ⟨c, cs, htext, hstart⟩ := text_eq_cons hident
  rw [htext, List.cons_append] at hfirst ⊢
  apply read_of_first? (afterSeparator?_of_isIdentStart hstart _) hfirst
  simp only [List.length_cons, List.length_append]
  omega

theorem startsSymbol_colon (cs : List Char) : startsSymbol (':' :: cs) = true := by
  have hmark : ':' ∈ marks := by decide
  simp [startsSymbol, opensComment, hmark]

private theorem read_colon (cs : List Char) :
    read (':' :: cs) = (read cs).map (.symbol ':' (startsSymbol cs) :: ·) := by
  have hnotSeparator : isSeparator ':' = false := by decide +kernel
  have hnotBracket : bracketToken? ':' = none := by decide
  have hnotDigit : ¬('0' ≤ ':' ∧ ':' ≤ '9') := by decide
  have hquoted : afterQuotedLiteral (':' :: cs) = none := by simp [afterQuotedLiteral]
  have hnumber : afterNumber (':' :: cs) = none := by simp only [afterNumber, if_neg hnotDigit]
  apply read_of_first?
  · simp [afterSeparator?, afterComment?, hnotSeparator]
  · simp [first?, hnotBracket, hquoted, hnumber, startsSymbol_colon]
  · exact Nat.lt_succ_self _

theorem read_colons (cs : List Char) : read (':' :: ':' :: cs) =
    (read cs).map (.symbol ':' true :: .symbol ':' (startsSymbol cs) :: ·) := by
  rw [read_colon, read_colon, startsSymbol_colon, Option.map_map]
  rfl

/-- The tokens of identifiers that each follow two colons. -/
def following (idents : List Identifier) : List Token :=
  idents.flatMap fun ident => [.symbol ':' true, .symbol ':' false, .identifier ident]

private theorem endsIdent_colonsAnd (pieces : List (List Char)) : EndsIdent (colonsAnd pieces) := by
  cases pieces with
  | nil => exact endsIdent_nil
  | cons piece pieces => exact endsIdent_colon _

private theorem read_colonsAnd {idents : List Identifier} (hidents : ∀ ident ∈ idents, ident.Readable) :
    read (colonsAnd (idents.map fun ident => ident.text.toList)) = some (following idents) := by
  induction idents with
  | nil =>
    rw [List.map_nil, colonsAnd, read, if_pos rfl]
    rfl
  | cons ident idents ih =>
    obtain ⟨hident, hidents⟩ := List.forall_mem_cons.mp hidents
    have hsymbol : ∀ rest, startsSymbol (ident.text.toList ++ rest) = false := by
      intro rest
      obtain ⟨c, cs, htext, hstart⟩ := text_eq_cons hident
      rw [htext]
      exact startsSymbol_of_isIdentStart hstart _
    rw [List.map_cons, colonsAnd, read_colons, intercalate_colons_cons, hsymbol,
      read_identifier hident (endsIdent_colonsAnd _), ih hidents]
    rfl

/-- Identifiers joined by two colons are read one by one. -/
theorem read_intercalate {idents : List Identifier}
    (hidents : ∀ other ∈ ident :: idents, other.Readable) :
    read ([':', ':'].intercalate ((ident :: idents).map fun ident => ident.text.toList)) =
      some (.identifier ident :: following idents) := by
  obtain ⟨hident, hidents⟩ := List.forall_mem_cons.mp hidents
  rw [List.map_cons, intercalate_colons_cons, read_identifier hident (endsIdent_colonsAnd _),
    read_colonsAnd hidents]
  rfl

end Token

namespace Path

/-- A path that a text can spell. -/
structure Readable (path : Path) : Prop where
  nonempty : path.segments ≠ []
  segments : ∀ ident ∈ path.segments, ident.Readable ∧ ident.isSegment = true

theorem segmentsOfTokens?_sound {tokens : List Token} {segments : List Identifier}
    (hsegments : segmentsOfTokens? tokens = some segments) :
    segments ≠ [] ∧ ∀ ident ∈ segments, ident.isSegment = true := by
  fun_induction segmentsOfTokens? tokens generalizing segments with
  | case1 ident hsegment =>
    cases hsegments
    simpa using hsegment
  | case2 => cases hsegments
  | case3 ident mark rest hsegment ih =>
    obtain ⟨later, hlater, rfl⟩ := Option.map_eq_some_iff.mp hsegments
    exact ⟨List.cons_ne_nil _ _, List.forall_mem_cons.mpr ⟨hsegment, (ih hlater).2⟩⟩
  | case4 => cases hsegments
  | case5 => cases hsegments

private theorem segmentsOfTokens?_following {idents : List Identifier}
    (hidents : ∀ other ∈ ident :: idents, other.isSegment = true) :
    segmentsOfTokens? (.identifier ident :: Token.following idents) = some (ident :: idents) := by
  induction idents generalizing ident with
  | nil =>
    have hident := hidents ident (List.mem_cons_self ..)
    simp [Token.following, segmentsOfTokens?, hident]
  | cons next idents ih =>
    obtain ⟨hident, hidents⟩ := List.forall_mem_cons.mp hidents
    have hnext := ih hidents
    rw [Token.following] at hnext ⊢
    simp [segmentsOfTokens?, hident, hnext]

theorem readable_of_parse? {text : String} (hpath : parse? text = some path) : path.Readable := by
  have hread := exists_anyIdent?_of_parse? hpath
  obtain ⟨tokens, -, hpath⟩ := Option.bind_eq_some_iff.mp hpath
  have hsound : path.segments ≠ [] ∧ ∀ ident ∈ path.segments, ident.isSegment = true := by
    unfold ofTokens? at hpath
    split at hpath
    · obtain ⟨segments, hsegments, rfl⟩ := Option.map_eq_some_iff.mp hpath
      exact segmentsOfTokens?_sound hsegments
    · obtain ⟨segments, hsegments, rfl⟩ := Option.map_eq_some_iff.mp hpath
      exact segmentsOfTokens?_sound hsegments
  refine ⟨hsound.1, fun ident hident => ⟨?_, hsound.2 ident hident⟩⟩
  obtain ⟨cs, rest, hread⟩ := hread ident hident
  exact anyIdent?_readable hread

/-- A readable path is read from its spelling. -/
theorem parse?_text (hpath : path.Readable) : parse? path.text = some path := by
  obtain ⟨rooted, segments⟩ := path
  obtain ⟨hne, hsegments⟩ := hpath
  cases segments with
  | nil => exact absurd rfl hne
  | cons ident idents =>
    have hreadable := fun other hother => (hsegments other hother).1
    have hread := Token.read_intercalate hreadable
    have hofTokens := segmentsOfTokens?_following fun other hother => (hsegments other hother).2
    obtain ⟨c, cs, htext, hstart⟩ := text_eq_cons (hreadable ident (List.mem_cons_self ..))
    have hlist := toList_text ⟨rooted, ident :: idents⟩
    rw [parse?, Token.ofText?]
    cases rooted with
    | true =>
      have hsymbol : Token.read (text ⟨true, ident :: idents⟩).toList =
          some (.symbol ':' true :: .symbol ':' false :: .identifier ident ::
            Token.following idents) := by
        rw [hlist, if_pos rfl, List.cons_append, List.singleton_append, Token.read_colons, hread,
          List.map_cons, intercalate_colons_cons, htext, List.cons_append,
          startsSymbol_of_isIdentStart hstart]
        rfl
      split
      next rest heq =>
        rw [hlist] at heq
        cases heq
      next => simp [hsymbol, ofTokens?, hofTokens]
    | false =>
      split
      next rest heq =>
        rw [hlist, if_neg Bool.false_ne_true, List.nil_append, List.map_cons,
          intercalate_colons_cons, htext, List.cons_append] at heq
        have hmark := (List.cons.inj heq).1
        exact absurd hmark (ne_of_isIdentStart hstart (by decide))
      next =>
        rw [hlist, if_neg Bool.false_ne_true, List.nil_append, hread]
        simp [ofTokens?, hofTokens]

private theorem trim_text (hpath : path.WellSpelled) : trim path.text = path.text := by
  have hnone : ∀ c ∈ path.text.toList, isBlank c = false := by
    intro c hc
    rcases mem_text hpath hc with hc | rfl | rfl
    · exact isBlank_of_isIdentContinue hc
    · decide
    · decide
  rw [trim_eq_self_iff]
  exact trimChars_eq_self (fun c hc => hnone c (List.mem_of_mem_head? hc))
    fun c hc => hnone c (List.mem_of_mem_getLast? hc)

end Path

end RetainerTable.Source

namespace RetainerTable.Associations

open RetainerTable.Text RetainerTable.Source

/-- The spelling of a retainer that was read names the retainer. -/
theorem retainer?_text {path : String} {retainer : Source.Path}
    (hread : retainer? path = some retainer) : retainer? retainer.text = some retainer := by
  rw [retainer?, Path.trim_text (Path.wellSpelled_of_parse? hread)]
  exact Path.parse?_text (Path.readable_of_parse? hread)

end RetainerTable.Associations
