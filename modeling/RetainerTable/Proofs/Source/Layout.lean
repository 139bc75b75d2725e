import RetainerTable.Proofs.Source.Gap

/-!
What a text that spells a path looks like.

A path is written with its pieces, the identifiers and the pairs of colons, in their order. A text
spells the path exactly if it is laid out with these pieces (`LaidOut`, `Path.parse?_eq_some_iff`): gaps
may stand around each, and nothing else may. Blanks at either end make no difference to that, so
trimming makes none but to expose a byte order mark (`Associations.retainer?_eq_some_iff`).
-/

namespace RetainerTable.Source

open RetainerTable.Text

/-- The text holds the pieces in their order, a gap in front of each and what may stand behind the
    last token at the end. -/
inductive LaidOut : List (List Char) → List Char → Prop
  | nil {cs : List Char} (hend : EndGap cs) : LaidOut [] cs
  | cons {gap piece rest : List Char} {pieces : List (List Char)} (hgap : Gap gap)
      (hrest : LaidOut pieces rest) : LaidOut (piece :: pieces) (gap ++ (piece ++ rest))

variable {c : Char} {cs rest : List Char} {ident : Identifier} {idents : List Identifier}
  {token : Token} {tokens : List Token} {path : Path}

section Blanks

variable {pieces : List (List Char)}

/-- No piece is empty or holds a separating character. -/
def Solid (pieces : List (List Char)) : Prop :=
  ∀ piece ∈ pieces, piece ≠ [] ∧ ∀ c ∈ piece, isSeparator c = false

private theorem laidOut_separator_cons_iff (hpieces : Solid pieces) (hc : isSeparator c = true) :
    LaidOut pieces (c :: cs) ↔ LaidOut pieces cs := by
  constructor
  · intro hlaid
    generalize hall : c :: cs = all at hlaid
    cases hlaid with
    | nil hend => exact .nil (EndGap.of_separator_cons hc (hall ▸ hend))
    | @cons gap piece rest pieces hgap hrest =>
      cases gap with
      | nil =>
        obtain ⟨⟨hne, hsolid⟩, -⟩ := List.forall_mem_cons.mp hpieces
        cases piece with
        | nil => exact absurd rfl hne
        | cons d piece =>
          obtain ⟨rfl, -⟩ := List.cons.inj hall
          rw [hsolid c (List.mem_cons_self ..)] at hc
          cases hc
      | cons d gap =>
        obtain ⟨rfl, rfl⟩ := List.cons.inj hall
        exact .cons (hgap.of_separator_cons hc) hrest
  · intro hlaid
    cases hlaid with
    | nil hend => exact .nil ((Gap.separator hc .nil).append_endGap hend)
    | cons hgap hrest => exact .cons (.separator hc hgap) hrest

theorem LaidOut.append_separator (hlaid : LaidOut pieces cs) (hc : isSeparator c = true) :
    LaidOut pieces (cs ++ [c]) := by
  induction hlaid with
  | nil hend => exact .nil (hend.append_separator hc)
  | cons hgap _ ih =>
    rw [List.append_assoc, List.append_assoc]
    exact .cons hgap ih

theorem LaidOut.of_append_separator (hpieces : Solid pieces) (hc : isSeparator c = true)
    (hlaid : LaidOut pieces (cs ++ [c])) : LaidOut pieces cs := by
  generalize hall : cs ++ [c] = all at hlaid
  induction hlaid generalizing cs with
  | nil hend => exact .nil (EndGap.of_append_separator (hall ▸ hend) hc)
  | @cons gap piece rest pieces hgap hrest ih =>
    obtain ⟨⟨hne, hsolid⟩, hpieces⟩ := List.forall_mem_cons.mp hpieces
    rw [← List.append_assoc] at hall
    by_cases hnil : rest = []
    · -- The text would end with the piece.
      rw [hnil, List.append_nil] at hall
      obtain ⟨behind, rfl, -⟩ := exists_append_of_concat_eq hall hne
      rw [hsolid c (by simp)] at hc
      cases hc
    · obtain ⟨behind, rfl, rfl⟩ := exists_append_of_concat_eq hall hnil
      rw [List.append_assoc]
      exact .cons hgap (ih hpieces rfl)

theorem laidOut_trimChars_iff (hpieces : Solid pieces) :
    LaidOut pieces (trimChars cs) ↔ LaidOut pieces cs := by
  have hbefore : ∀ before rest : List Char, (∀ c ∈ before, isBlank c = true) →
      (LaidOut pieces (before ++ rest) ↔ LaidOut pieces rest) := by
    intro before rest hblank
    induction before with
    | nil => rfl
    | cons c before ih =>
      obtain ⟨hc, hblank⟩ := List.forall_mem_cons.mp hblank
      rw [List.cons_append, laidOut_separator_cons_iff hpieces (isSeparator_of_isBlank hc), ih hblank]
  have hbehind : ∀ behind front : List Char, (∀ c ∈ behind, isBlank c = true) →
      (LaidOut pieces (front ++ behind) ↔ LaidOut pieces front) := by
    intro behind
    induction behind with
    | nil => simp
    | cons c behind ih =>
      intro front hblank
      obtain ⟨hc, hblank⟩ := List.forall_mem_cons.mp hblank
      have hseparator := isSeparator_of_isBlank hc
      rw [List.append_cons, ih _ hblank]
      exact ⟨.of_append_separator hpieces hseparator, fun hlaid => hlaid.append_separator hseparator⟩
  obtain ⟨before, behind, hsplit, hbefore', hbehind'⟩ := exists_blanks cs
  rw [hsplit, hbehind _ _ hbehind', hbefore _ _ hbefore', ← hsplit]

/-- A text begins with a gap or with its first piece. -/
theorem LaidOut.head?_ne (hlaid : LaidOut pieces cs) (hpieces : ∀ piece ∈ pieces, piece ≠ [] ∧ c ∉ piece)
    (hc : isSeparator c = false) (hslash : c ≠ '/') : cs.head? ≠ some c := by
  have hgap : ¬(isSeparator c = true ∨ c = '/') := by simp [hc, hslash]
  intro hhead
  cases hlaid with
  | nil hend => exact hgap (hend.head? hhead)
  | @cons gap piece rest pieces hgap' hrest =>
    cases gap with
    | cons d gap => exact hgap (hgap'.head? hhead)
    | nil =>
      obtain ⟨hne, hnot⟩ := hpieces piece (List.mem_cons_self ..)
      cases piece with
      | nil => exact hne rfl
      | cons d piece => exact hnot (Option.some.inj hhead ▸ List.mem_cons_self ..)

end Blanks

namespace Token

/-- The token that a text begins with and what stands behind it, by the reader that finds it. A reader
    is tried where those before it find nothing. -/
inductive First : List Char → Token → List Char → Prop
  | bracket {c : Char} {cs : List Char} {token : Token} (hbracket : bracketToken? c = some token) :
      First (c :: cs) token cs
  | quoted {c : Char} {cs rest : List Char} (hbracket : bracketToken? c = none)
      (hquoted : afterQuotedLiteral (c :: cs) = some rest) : First (c :: cs) (.literal false) rest
  | number {c : Char} {cs rest : List Char} (hbracket : bracketToken? c = none)
      (hquoted : afterQuotedLiteral (c :: cs) = none)
      (hnumber : afterNumber (c :: cs) = some rest) : First (c :: cs) (.literal true) rest
  | lifetime {cs rest : List Char} (hquoted : afterQuotedLiteral ('\'' :: cs) = none)
      (hsymbol : startsSymbol ('\'' :: cs) = true) (hlifetime : lifetime? cs = some rest) :
      First ('\'' :: cs) .lifetime rest
  | symbol {c : Char} {cs : List Char} (hbracket : bracketToken? c = none)
      (hquoted : afterQuotedLiteral (c :: cs) = none) (hnumber : afterNumber (c :: cs) = none)
      (hsymbol : startsSymbol (c :: cs) = true) (hc : c ≠ '\'') :
      First (c :: cs) (.symbol c (startsSymbol cs)) cs
  | identifier {c : Char} {cs rest : List Char} {ident : Identifier}
      (hbracket : bracketToken? c = none) (hquoted : afterQuotedLiteral (c :: cs) = none)
      (hnumber : afterNumber (c :: cs) = none) (hsymbol : startsSymbol (c :: cs) = false)
      (hident : ident? (c :: cs) = some (ident, rest)) : First (c :: cs) (.identifier ident) rest

private theorem first_of_first? (hread : first? cs = some (token, rest)) : First cs token rest := by
  unfold first? at hread
  split at hread
  · cases hread
  next c cs =>
    split at hread
    next found hbracket =>
      cases hread
      exact .bracket hbracket
    next hbracket =>
      split at hread
      next after hquoted =>
        cases hread
        exact .quoted hbracket hquoted
      next hquoted =>
        split at hread
        next after hnumber =>
          cases hread
          exact .number hbracket hquoted hnumber
        next hnumber =>
          split at hread
          next hsymbol =>
            split at hread
            next hc =>
              subst hc
              obtain ⟨after, hlifetime, heq⟩ := Option.map_eq_some_iff.mp hread
              cases heq
              exact .lifetime hquoted hsymbol hlifetime
            next hc =>
              cases hread
              exact .symbol hbracket hquoted hnumber hsymbol hc
          next hsymbol =>
            obtain ⟨⟨ident, after⟩, hident, heq⟩ := Option.map_eq_some_iff.mp hread
            cases heq
            exact .identifier hbracket hquoted hnumber (Bool.eq_false_iff.mpr hsymbol) hident

private theorem First.first?_eq (hfirst : First cs token rest) : first? cs = some (token, rest) := by
  cases hfirst with
  | bracket hbracket => simp [first?, hbracket]
  | quoted hbracket hquoted => simp [first?, hbracket, hquoted]
  | number hbracket hquoted hnumber => simp [first?, hbracket, hquoted, hnumber]
  | lifetime hquoted hsymbol hlifetime =>
    have hbracket : bracketToken? '\'' = none := by decide
    have hnumber : ∀ cs, afterNumber ('\'' :: cs) = none := fun cs => by simp [afterNumber]
    simp [first?, hbracket, hquoted, hnumber, hsymbol, hlifetime]
  | symbol hbracket hquoted hnumber hsymbol hc =>
    simp [first?, hbracket, hquoted, hnumber, hsymbol, hc]
  | identifier hbracket hquoted hnumber hsymbol hident =>
    simp [first?, hbracket, hquoted, hnumber, hsymbol, hident]

theorem first?_eq_some_iff : first? cs = some (token, rest) ↔ First cs token rest :=
  ⟨first_of_first?, First.first?_eq⟩

private theorem bracketToken?_ne_symbol (c mark : Char) (joined : Bool) :
    bracketToken? c ≠ some (.symbol mark joined) := by
  unfold bracketToken?
  repeat' split
  all_goals simp

private theorem eq_cons_of_first?_symbol {mark : Char} {joined : Bool}
    (hread : first? cs = some (.symbol mark joined, rest)) :
    cs = mark :: rest ∧ joined = startsSymbol rest := by
  cases first?_eq_some_iff.mp hread with
  | bracket hbracket => exact absurd hbracket (bracketToken?_ne_symbol _ mark joined)
  | symbol => exact ⟨rfl, rfl⟩

private theorem exists_gap_identifier (hread : read cs = some (.identifier ident :: tokens)) :
    ∃ gap rest, cs = gap ++ (ident.text.toList ++ rest) ∧ Gap gap ∧ read rest = some tokens := by
  obtain ⟨gap, front, rest, rfl, hgap, -, hfirst, hrest⟩ := exists_gap_of_read_cons hread
  exact ⟨gap, rest, by rw [eq_append_of_anyIdent? (anyIdent?_of_first? hfirst)], hgap, hrest⟩

/-- Two colons of which the first is joined to the second stand together. -/
theorem exists_gap_colons {mark : Bool}
    (hread : read cs = some (.symbol ':' true :: .symbol ':' mark :: tokens)) :
    ∃ gap rest, cs = gap ++ ([':', ':'] ++ rest) ∧ Gap gap ∧ read rest = some tokens := by
  obtain ⟨gap, front, behind, rfl, hgap, -, hfirst, hbehind⟩ := exists_gap_of_read_cons hread
  obtain ⟨rfl, hjoined⟩ := eq_cons_of_first?_symbol hfirst
  obtain ⟨gap', front, rest, rfl, hgap', -, hfirst, hrest⟩ := exists_gap_of_read_cons hbehind
  obtain ⟨rfl, -⟩ := eq_cons_of_first?_symbol hfirst
  obtain rfl := hgap'.eq_nil_of_startsSymbol hjoined.symm
  exact ⟨gap, rest, rfl, hgap, hrest⟩

end Token

theorem LaidOut.read_identifier (hlaid : LaidOut [ident.text.toList] cs)
    (hident : ident.Readable) : Token.read cs = some [.identifier ident] := by
  cases hlaid with
  | cons hgap hrest =>
    cases hrest with
    | nil hend =>
      rw [hgap.read_append, Token.read_identifier hident hend.endsIdent, hend.read_eq_nil]
      rfl

namespace Path

/-- The pieces that identifiers are written with when they are joined by two colons. -/
def joinedPieces (idents : List Identifier) : List (List Char) :=
  (idents.map fun ident => ident.text.toList).intersperse [':', ':']

/-- The pieces that the path is written with. -/
def pieces (path : Path) : List (List Char) :=
  (if path.rooted then [[':', ':']] else []) ++ joinedPieces path.segments

private theorem joinedPieces_cons_cons (ident next : Identifier) (idents : List Identifier) :
    joinedPieces (ident :: next :: idents) =
      ident.text.toList :: [':', ':'] :: joinedPieces (next :: idents) := rfl

theorem flatten_pieces (path : Path) : path.pieces.flatten = path.text.toList := by
  rw [toList_text, pieces, List.flatten_append]
  cases path.rooted <;> rfl

private theorem exists_read_of_laidOut {idents : List Identifier}
    (hidents : ∀ other ∈ ident :: idents, other.Readable ∧ other.isSegment = true)
    (hlaid : LaidOut (joinedPieces (ident :: idents)) cs) :
    ∃ tokens, Token.read cs = some (.identifier ident :: tokens) ∧
      segmentsOfTokens? (.identifier ident :: tokens) = some (ident :: idents) := by
  induction idents generalizing ident cs with
  | nil =>
    obtain ⟨hreadable, hsegment⟩ := hidents ident (List.mem_cons_self ..)
    exact ⟨[], hlaid.read_identifier hreadable, by simp [segmentsOfTokens?, hsegment]⟩
  | cons next idents ih =>
    obtain ⟨⟨hreadable, hsegment⟩, hidents⟩ := List.forall_mem_cons.mp hidents
    rw [joinedPieces_cons_cons] at hlaid
    cases hlaid with
    | cons hgap hrest =>
      cases hrest with
      | @cons gap' piece rest _ hgap' hrest =>
        obtain ⟨tokens, hread, hsegments⟩ := ih hidents hrest
        refine ⟨.symbol ':' true :: .symbol ':' (startsSymbol rest) :: .identifier next :: tokens,
          ?_, by simp [segmentsOfTokens?, hsegment, hsegments]⟩
        have hends : EndsIdent (gap' ++ ([':', ':'] ++ rest)) :=
          (EndGap.gap hgap').endsIdent_append (endsIdent_colon _)
        rw [hgap.read_append, Token.read_identifier hreadable hends, hgap'.read_append,
          List.cons_append, List.singleton_append, Token.read_colons, hread]
        rfl

private theorem laidOut_of_read (hread : Token.read cs = some tokens)
    (hsegments : segmentsOfTokens? tokens = some idents) : LaidOut (joinedPieces idents) cs := by
  fun_induction segmentsOfTokens? tokens generalizing cs idents with
  | case1 ident =>
    cases hsegments
    obtain ⟨gap, rest, rfl, hgap, hrest⟩ := Token.exists_gap_identifier hread
    exact .cons hgap (.nil (Token.endGap_of_read_nil hrest))
  | case2 => cases hsegments
  | case3 ident mark tokens hsegment ih =>
    obtain ⟨later, hlater, rfl⟩ := Option.map_eq_some_iff.mp hsegments
    obtain ⟨gap, rest, rfl, hgap, hrest⟩ := Token.exists_gap_identifier hread
    obtain ⟨gap', rest, rfl, hgap', hrest⟩ := Token.exists_gap_colons hrest
    have hlaid := ih hrest hlater
    cases later with
    | nil => exact absurd rfl (segmentsOfTokens?_sound hlater).1
    | cons next later => exact .cons hgap (.cons hgap' hlaid)
  | case4 => cases hsegments
  | case5 => cases hsegments

/-- The text without the byte order mark that it may begin with. -/
def withoutMark : List Char → List Char
  | '\ufeff' :: rest => rest
  | cs => cs

theorem withoutMark_of_head?_ne (hmark : cs.head? ≠ some '\ufeff') : withoutMark cs = cs := by
  unfold withoutMark
  split
  · exact absurd rfl hmark
  · rfl

theorem ofText?_eq_read (text : String) :
    Token.ofText? text = Token.read (withoutMark text.toList) := by
  unfold Token.ofText?
  split
  next heq => rw [heq, withoutMark]
  next hmark => rw [withoutMark]; exact hmark

/-- A text spells a path exactly if it is laid out with the pieces of the path, all of them legible. -/
theorem parse?_eq_some_iff {text : String} : parse? text = some path ↔
    path.Readable ∧ LaidOut path.pieces (withoutMark text.toList) := by
  constructor
  · intro hparse
    refine ⟨readable_of_parse? hparse, ?_⟩
    obtain ⟨tokens, hread, hpath⟩ := Option.bind_eq_some_iff.mp hparse
    rw [ofText?_eq_read] at hread
    unfold ofTokens? at hpath
    split at hpath
    · obtain ⟨segments, hsegments, rfl⟩ := Option.map_eq_some_iff.mp hpath
      obtain ⟨gap, rest, hsplit, hgap, hrest⟩ := Token.exists_gap_colons hread
      rw [hsplit]
      exact .cons hgap (laidOut_of_read hrest hsegments)
    · obtain ⟨segments, hsegments, rfl⟩ := Option.map_eq_some_iff.mp hpath
      exact laidOut_of_read hread hsegments
  · rintro ⟨⟨hne, hsegments⟩, hlaid⟩
    rw [parse?, ofText?_eq_read]
    generalize withoutMark text.toList = cs at hlaid
    obtain ⟨rooted, segments⟩ := path
    cases segments with
    | nil => exact absurd rfl hne
    | cons ident idents =>
      cases rooted with
      | true =>
        cases hlaid with
        | cons hgap hrest =>
          obtain ⟨tokens, hread, hofTokens⟩ := exists_read_of_laidOut hsegments hrest
          rw [hgap.read_append, List.cons_append, List.singleton_append, Token.read_colons, hread]
          simp [ofTokens?, hofTokens]
      | false =>
        obtain ⟨tokens, hread, hofTokens⟩ := exists_read_of_laidOut hsegments hlaid
        simp [hread, ofTokens?, hofTokens]

theorem WellSpelled.isSeparator_eq_false (hpath : path.WellSpelled) (hc : c ∈ path.text.toList) :
    isSeparator c = false := by
  rcases mem_text hpath hc with hcontinue | rfl | rfl
  · exact not_isSeparator_of_isIdentContinue hcontinue
  · decide
  · decide

theorem Readable.wellSpelled (hpath : path.Readable) : path.WellSpelled := by
  intro ident hident
  obtain ⟨⟨c, cs, hname, -⟩, hcontinues, -⟩ := (hpath.segments ident hident).1
  exact ⟨hname ▸ List.cons_ne_nil c cs, hcontinues⟩

private theorem mem_joinedPieces {piece : List Char} {idents : List Identifier}
    (hpiece : piece ∈ joinedPieces idents) :
    piece = [':', ':'] ∨ ∃ ident ∈ idents, piece = ident.text.toList := by
  induction idents with
  | nil => cases hpiece
  | cons ident idents ih =>
    cases idents with
    | nil => exact .inr ⟨ident, List.mem_singleton_self ident, List.mem_singleton.mp hpiece⟩
    | cons next idents =>
      rw [joinedPieces_cons_cons] at hpiece
      rcases List.mem_cons.mp hpiece with rfl | hpiece
      · exact .inr ⟨ident, List.mem_cons_self .., rfl⟩
      rcases List.mem_cons.mp hpiece with rfl | hpiece
      · exact .inl rfl
      obtain hcolons | ⟨other, hother, htext⟩ := ih hpiece
      · exact .inl hcolons
      · exact .inr ⟨other, List.mem_cons_of_mem _ hother, htext⟩

/-- A piece is a pair of colons or an identifier. -/
theorem mem_pieces {piece : List Char} (hpiece : piece ∈ path.pieces) :
    piece = [':', ':'] ∨ ∃ ident ∈ path.segments, piece = ident.text.toList := by
  rcases List.mem_append.mp hpiece with hcolons | hjoined
  · split at hcolons
    · exact .inl (List.mem_singleton.mp hcolons)
    · cases hcolons
  · exact mem_joinedPieces hjoined

theorem Readable.solid (hpath : path.Readable) : Solid path.pieces := by
  intro piece hpiece
  refine ⟨?_, fun c hc => hpath.wellSpelled.isSeparator_eq_false ?_⟩
  · rcases mem_pieces hpiece with rfl | ⟨ident, hident, rfl⟩
    · exact List.cons_ne_nil _ _
    · exact Identifier.text_ne_nil (hpath.wellSpelled ident hident)
  · rw [← flatten_pieces]
    exact List.mem_flatten_of_mem hpiece hc

/-- A byte order mark stands neither in a gap's front nor in a piece. -/
theorem Readable.head?_ne_mark (hpath : path.Readable) (hlaid : LaidOut path.pieces cs) :
    cs.head? ≠ some '\ufeff' := by
  have hcontinue : isIdentContinue '\ufeff' = false := isIdentContinue_of_outside (by decide)
  refine hlaid.head?_ne (fun piece hpiece => ⟨(hpath.solid piece hpiece).1, fun hmem => ?_⟩)
    (by decide) (by decide)
  refine notMem_text hpath.wellSpelled hcontinue (by decide) (by decide) ?_
  rw [← flatten_pieces]
  exact List.mem_flatten_of_mem hpiece hmem

end Path

private theorem Token.readable_of_read (hread : Token.read cs = some tokens)
    (hmem : .identifier ident ∈ tokens) : ident.Readable := by
  obtain ⟨front, behind, hany⟩ := Token.exists_anyIdent?_of_mem_read hread hmem
  exact anyIdent?_readable hany

/-- A text is accepted as a name exactly if it is laid out with one identifier, which can name
    something. -/
theorem isNameText_iff {text : String} : isNameText text = true ↔
    ∃ ident : Identifier, ident.Readable ∧ ident.isName = true ∧
      LaidOut [ident.text.toList] (Path.withoutMark text.toList) := by
  rw [isNameText, Path.ofText?_eq_read]
  constructor
  · intro hname
    split at hname
    next ident hread =>
      obtain ⟨gap, rest, hsplit, hgap, hrest⟩ := Token.exists_gap_identifier hread
      refine ⟨ident, Token.readable_of_read hread (List.mem_singleton_self _), hname, ?_⟩
      rw [hsplit]
      exact .cons hgap (.nil (Token.endGap_of_read_nil hrest))
    next => cases hname
  · rintro ⟨ident, hreadable, hname, hlaid⟩
    rw [hlaid.read_identifier hreadable]
    exact hname

end RetainerTable.Source

namespace RetainerTable.Associations

open RetainerTable.Text RetainerTable.Source

/-- A text names a retainer exactly if it is laid out with the pieces of the retainer's path, a byte
    order mark behind leading blanks set aside. -/
theorem retainer?_eq_some_iff {text : String} {path : Source.Path} : retainer? text = some path ↔
    path.Readable ∧ LaidOut path.pieces (Path.withoutMark (trimChars text.toList)) := by
  rw [retainer?, Path.parse?_eq_some_iff, toList_trim]

end RetainerTable.Associations
