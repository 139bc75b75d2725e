import RetainerTable.Proofs.Text.Lines
import RetainerTable.Source.Path

/-!
How the paths that were read are spelled.

Every identifier of a path that was read is made of identifier characters
(`Path.wellSpelled_of_parse?`), so its spelling holds nothing else but colons and the raw marker
(`Path.mem_text`), and different paths are spelled differently (`Path.text_injective`).
-/

namespace RetainerTable.Source

open RetainerTable.Text

/-- The name is one or more identifier characters. -/
structure Identifier.WellSpelled (ident : Identifier) : Prop where
  nonempty : ident.name.toList ≠ []
  chars : ∀ c ∈ ident.name.toList, isIdentContinue c = true

private theorem plainIdent?_spelled {cs rest : List Char} {name : String}
    (hread : plainIdent? cs = some (name, rest)) :
    name.toList ≠ [] ∧ ∀ c ∈ name.toList, isIdentContinue c = true := by
  unfold plainIdent? at hread
  split at hread
  · cases hread
  next first cs =>
    split at hread
    next hstart =>
      cases hread
      simp only [String.toList_ofList]
      refine ⟨by simp, fun c hc => ?_⟩
      rcases List.mem_cons.mp hc with rfl | hc
      · exact isIdentContinue_of_isIdentStart hstart
      · exact List.all_eq_true.mp List.all_takeWhile c hc
    · cases hread

theorem anyIdent?_wellSpelled {cs rest : List Char} {ident : Identifier}
    (hread : anyIdent? cs = some (ident, rest)) : ident.WellSpelled := by
  unfold anyIdent? at hread
  split at hread
  · split at hread
    next name rest' hplain =>
      split at hread
      · cases hread
      · cases hread
        obtain ⟨hne, hall⟩ := plainIdent?_spelled hplain
        exact ⟨hne, hall⟩
    · cases hread
  · obtain ⟨⟨name, rest'⟩, hplain, heq⟩ := Option.map_eq_some_iff.mp hread
    cases heq
    obtain ⟨hne, hall⟩ := plainIdent?_spelled hplain
    exact ⟨hne, hall⟩

private theorem bracketToken?_ne_identifier (c : Char) (ident : Identifier) :
    bracketToken? c ≠ some (.identifier ident) := by
  unfold bracketToken?
  repeat' split
  all_goals simp

namespace Token

theorem anyIdent?_of_first? {cs rest : List Char} {ident : Identifier}
    (hread : first? cs = some (.identifier ident, rest)) : anyIdent? cs = some (ident, rest) := by
  unfold first? at hread
  split at hread
  · cases hread
  next c cs =>
    split at hread
    next token hbracket =>
      cases hread
      exact absurd hbracket (bracketToken?_ne_identifier c ident)
    · split at hread
      · cases hread
      · split at hread
        · cases hread
        · split at hread
          · split at hread
            · obtain ⟨after, -, heq⟩ := Option.map_eq_some_iff.mp hread
              cases heq
            · cases hread
          · obtain ⟨⟨found, after⟩, hident, heq⟩ := Option.map_eq_some_iff.mp hread
            cases heq
            unfold ident? at hident
            split at hident
            · cases hident
            · exact hident

/-- The identifiers among the tokens of a text were each read somewhere in it. -/
theorem exists_anyIdent?_of_mem_read {cs : List Char} {tokens : List Token} {ident : Identifier}
    (hread : read cs = some tokens) (hmem : .identifier ident ∈ tokens) :
    ∃ cs rest, anyIdent? cs = some (ident, rest) := by
  fun_induction read cs generalizing tokens with
  | case1 =>
    cases hread
    cases hmem
  | case2 cs hne rest hseparator hlt ih => exact ih hread hmem
  | case3 => cases hread
  | case4 cs hne hseparator token rest hfirst hlt ih =>
    obtain ⟨later, hlater, rfl⟩ := Option.map_eq_some_iff.mp hread
    rcases List.mem_cons.mp hmem with rfl | hmem
    · exact ⟨cs, rest, anyIdent?_of_first? hfirst⟩
    · exact ih hlater hmem
  | case5 => cases hread
  | case6 => cases hread

end Token

namespace Path

/-- Every segment is well spelled. -/
def WellSpelled (path : Path) : Prop :=
  ∀ ident ∈ path.segments, ident.WellSpelled

private theorem mem_of_segmentsOfTokens? {tokens : List Token} {segments : List Identifier}
    (hsegments : segmentsOfTokens? tokens = some segments) :
    ∀ ident ∈ segments, .identifier ident ∈ tokens := by
  fun_induction segmentsOfTokens? tokens generalizing segments with
  | case1 ident =>
    cases hsegments
    simp
  | case2 => cases hsegments
  | case3 ident mark rest hsegment ih =>
    obtain ⟨later, hlater, rfl⟩ := Option.map_eq_some_iff.mp hsegments
    intro other hother
    rcases List.mem_cons.mp hother with rfl | hother
    · exact List.mem_cons_self ..
    · simp [ih hlater other hother]
  | case4 => cases hsegments
  | case5 => cases hsegments

private theorem mem_of_ofTokens? {tokens : List Token} {path : Path} (hpath : ofTokens? tokens = some path) :
    ∀ ident ∈ path.segments, .identifier ident ∈ tokens := by
  unfold ofTokens? at hpath
  split at hpath
  · obtain ⟨segments, hsegments, rfl⟩ := Option.map_eq_some_iff.mp hpath
    intro ident hident
    simp [mem_of_segmentsOfTokens? hsegments ident hident]
  · obtain ⟨segments, hsegments, rfl⟩ := Option.map_eq_some_iff.mp hpath
    exact mem_of_segmentsOfTokens? hsegments

theorem exists_anyIdent?_of_parse? {text : String} {path : Path} (hpath : parse? text = some path) :
    ∀ ident ∈ path.segments, ∃ cs rest, anyIdent? cs = some (ident, rest) := by
  obtain ⟨tokens, htokens, hpath⟩ := Option.bind_eq_some_iff.mp hpath
  intro ident hident
  have hmem := mem_of_ofTokens? hpath ident hident
  unfold Token.ofText? at htokens
  split at htokens
  · exact Token.exists_anyIdent?_of_mem_read htokens hmem
  · exact Token.exists_anyIdent?_of_mem_read htokens hmem

theorem wellSpelled_of_parse? {text : String} {path : Path} (hpath : parse? text = some path) :
    path.WellSpelled := by
  intro ident hident
  obtain ⟨cs, rest, hread⟩ := exists_anyIdent?_of_parse? hpath ident hident
  exact anyIdent?_wellSpelled hread

end Path

theorem isIdentContinue_colon : isIdentContinue ':' = false := by decide +kernel

theorem isIdentContinue_hash : isIdentContinue '#' = false := by decide +kernel

theorem Identifier.mem_text {ident : Identifier} (hident : ident.WellSpelled) {c : Char}
    (hc : c ∈ ident.text.toList) : isIdentContinue c = true ∨ c = '#' := by
  unfold text at hc
  split at hc
  · rw [String.toList_append] at hc
    rcases List.mem_append.mp hc with hc | hc
    · rcases List.mem_cons.mp hc with rfl | hc
      · exact .inl (by decide +kernel)
      · exact .inr (List.mem_singleton.mp hc)
    · exact .inl (hident.chars c hc)
  · exact .inl (hident.chars c hc)

theorem Identifier.text_ne_nil {ident : Identifier} (hident : ident.WellSpelled) :
    ident.text.toList ≠ [] := by
  unfold text
  split
  · simp
  · exact hident.nonempty

private theorem Identifier.colon_notMem_text {ident : Identifier} (hident : ident.WellSpelled) :
    ':' ∉ ident.text.toList := by
  intro hc
  rcases mem_text hident hc with hc | hc
  · rw [isIdentContinue_colon] at hc
    cases hc
  · cases hc

theorem Identifier.text_injective {first second : Identifier} (hfirst : first.WellSpelled)
    (hsecond : second.WellSpelled) (htext : first.text = second.text) : first = second := by
  have hplain : ∀ ident : Identifier, ident.WellSpelled → '#' ∉ ident.name.toList := by
    intro ident hident hc
    have hcontinue := hident.chars _ hc
    rw [isIdentContinue_hash] at hcontinue
    cases hcontinue
  obtain ⟨raw, name⟩ := first
  obtain ⟨raw', name'⟩ := second
  have hname := hplain _ hfirst
  have hname' := hplain _ hsecond
  have hlist := congrArg String.toList htext
  cases raw <;> cases raw' <;> simp only [text, Bool.false_eq_true, ↓reduceIte,
    String.toList_append] at hlist
  · rw [String.toList_injective hlist]
  · rw [hlist] at hname
    simp at hname
  · rw [← hlist] at hname'
    simp at hname'
  · rw [String.toList_injective (List.append_cancel_left hlist)]

/-- Lists are told apart by what tells their members apart. -/
theorem eq_of_map_eq {α β : Type} {f : α → β} : {as bs : List α} →
    (∀ a ∈ as, ∀ b ∈ bs, f a = f b → a = b) → as.map f = bs.map f → as = bs
  | [], [], _, _ => rfl
  | [], _ :: _, _, heq => by cases heq
  | _ :: _, [], _, heq => by cases heq
  | a :: as, b :: bs, hinj, heq => by
    obtain ⟨hhead, htail⟩ := List.cons.inj heq
    rw [hinj a (List.mem_cons_self ..) b (List.mem_cons_self ..) hhead,
      eq_of_map_eq (fun a ha b hb => hinj a (List.mem_cons_of_mem _ ha) b
        (List.mem_cons_of_mem _ hb)) htail]

/-- What two colons join to a first piece. -/
def colonsAnd : List (List Char) → List Char
  | [] => []
  | piece :: pieces => ':' :: ':' :: [':', ':'].intercalate (piece :: pieces)

theorem intercalate_colons_cons (piece : List Char) (pieces : List (List Char)) :
    [':', ':'].intercalate (piece :: pieces) = piece ++ colonsAnd pieces := by
  cases pieces <;> simp [colonsAnd]

private theorem takeWhile_colonsAnd {piece : List Char} (hpiece : ':' ∉ piece)
    (pieces : List (List Char)) : (piece ++ colonsAnd pieces).takeWhile (· ≠ ':') = piece := by
  rw [List.takeWhile_append_of_pos (forall_ne_of_notMem hpiece)]
  cases pieces <;> simp [colonsAnd]

private theorem mem_intercalate_colons {c : Char} {pieces : List (List Char)}
    (hc : c ∈ [':', ':'].intercalate pieces) : c = ':' ∨ ∃ piece ∈ pieces, c ∈ piece := by
  induction pieces with
  | nil => cases hc
  | cons piece pieces ih =>
    rw [intercalate_colons_cons] at hc
    rcases List.mem_append.mp hc with hc | hc
    · exact .inr ⟨piece, List.mem_cons_self .., hc⟩
    · cases pieces with
      | nil => cases hc
      | cons next pieces =>
        rcases List.mem_cons.mp hc with rfl | hc
        · exact .inl rfl
        · rcases List.mem_cons.mp hc with rfl | hc
          · exact .inl rfl
          · obtain hcolon | ⟨other, hother, hin⟩ := ih hc
            · exact .inl hcolon
            · exact .inr ⟨other, List.mem_cons_of_mem _ hother, hin⟩

/-- Pieces without colons are told apart when they are joined by two colons. -/
theorem intercalate_colons_injective : {pieces others : List (List Char)} →
    (∀ piece ∈ pieces, piece ≠ [] ∧ ':' ∉ piece) → (∀ piece ∈ others, piece ≠ [] ∧ ':' ∉ piece) →
    [':', ':'].intercalate pieces = [':', ':'].intercalate others → pieces = others
  | [], [], _, _, _ => rfl
  | [], other :: others, _, hothers, heq => by
    rw [List.intercalate_nil, intercalate_colons_cons] at heq
    exact absurd (List.append_eq_nil_iff.mp heq.symm).1 (hothers other (List.mem_cons_self ..)).1
  | piece :: pieces, [], hpieces, _, heq => by
    rw [List.intercalate_nil, intercalate_colons_cons] at heq
    exact absurd (List.append_eq_nil_iff.mp heq).1 (hpieces piece (List.mem_cons_self ..)).1
  | piece :: pieces, other :: others, hpieces, hothers, heq => by
    obtain ⟨⟨-, hpiece⟩, hrest⟩ := List.forall_mem_cons.mp hpieces
    obtain ⟨⟨-, hother⟩, hrest'⟩ := List.forall_mem_cons.mp hothers
    rw [intercalate_colons_cons, intercalate_colons_cons] at heq
    have hhead : piece = other := by
      rw [← takeWhile_colonsAnd hpiece pieces, heq, takeWhile_colonsAnd hother]
    subst hhead
    have htail := List.append_cancel_left heq
    congr 1
    cases pieces with
    | nil =>
      cases others with
      | nil => rfl
      | cons _ _ => cases htail
    | cons _ _ =>
      cases others with
      | nil => cases htail
      | cons _ _ =>
        exact intercalate_colons_injective hrest hrest'
          (List.cons.inj (List.cons.inj htail).2).2

namespace Path

theorem toList_text (path : Path) : path.text.toList = (if path.rooted then [':', ':'] else []) ++
    [':', ':'].intercalate (path.segments.map fun ident => ident.text.toList) := by
  rw [text, String.toList_append, String.toList_intercalate, List.map_map]
  cases path.rooted <;> rfl

/-- The spelling of a path holds identifier characters, colons and the raw marker only. -/
theorem mem_text {path : Path} (hpath : path.WellSpelled) {c : Char} (hc : c ∈ path.text.toList) :
    isIdentContinue c = true ∨ c = '#' ∨ c = ':' := by
  rw [toList_text] at hc
  rcases List.mem_append.mp hc with hc | hc
  · split at hc
    · exact .inr (.inr (by simpa using hc))
    · cases hc
  · obtain hcolon | ⟨piece, hpiece, hin⟩ := mem_intercalate_colons hc
    · exact .inr (.inr hcolon)
    · obtain ⟨ident, hident, rfl⟩ := List.mem_map.mp hpiece
      obtain hcontinue | hhash := Identifier.mem_text (hpath ident hident) hin
      · exact .inl hcontinue
      · exact .inr (.inl hhash)

theorem notMem_text {path : Path} (hpath : path.WellSpelled) {c : Char}
    (hc : isIdentContinue c = false) (hhash : c ≠ '#') (hcolon : c ≠ ':') :
    c ∉ path.text.toList := by
  intro hmem
  rcases mem_text hpath hmem with hcontinue | heq | heq
  · rw [hc] at hcontinue
    cases hcontinue
  · exact hhash heq
  · exact hcolon heq

private theorem pieces_spelled {path : Path} (hpath : path.WellSpelled) :
    ∀ piece ∈ path.segments.map fun ident => ident.text.toList, piece ≠ [] ∧ ':' ∉ piece := by
  intro piece hpiece
  obtain ⟨ident, hident, rfl⟩ := List.mem_map.mp hpiece
  exact ⟨Identifier.text_ne_nil (hpath ident hident),
    Identifier.colon_notMem_text (hpath ident hident)⟩

private theorem head?_intercalate_ne {path : Path} (hpath : path.WellSpelled) :
    ([':', ':'].intercalate (path.segments.map fun ident => ident.text.toList)).head? ≠
      some ':' := by
  intro hhead
  have hspelled := pieces_spelled hpath
  cases hpieces : path.segments.map fun ident => ident.text.toList with
  | nil =>
    rw [hpieces] at hhead
    cases hhead
  | cons piece pieces =>
    rw [hpieces, intercalate_colons_cons] at hhead
    obtain ⟨hne, hcolon⟩ := hspelled piece (hpieces ▸ List.mem_cons_self ..)
    cases piece with
    | nil => exact hne rfl
    | cons c cs => exact hcolon (Option.some.inj hhead ▸ List.mem_cons_self ..)

/-- A path that was read is known by its spelling. -/
theorem text_injective {first second : Path} (hfirst : first.WellSpelled)
    (hsecond : second.WellSpelled) (htext : first.text = second.text) : first = second := by
  have hlist := congrArg String.toList htext
  rw [toList_text, toList_text] at hlist
  have hhead := head?_intercalate_ne hfirst
  have hhead' := head?_intercalate_ne hsecond
  have hpieces := pieces_spelled hfirst
  have hpieces' := pieces_spelled hsecond
  obtain ⟨rooted, segments⟩ := first
  obtain ⟨rooted', segments'⟩ := second
  have hsegments : rooted = rooted' ∧ (segments.map fun ident => ident.text.toList) =
      segments'.map fun ident => ident.text.toList := by
    cases rooted <;> cases rooted' <;> simp only [Bool.false_eq_true, ↓reduceIte, List.nil_append]
      at hlist
    · exact ⟨rfl, intercalate_colons_injective hpieces hpieces' hlist⟩
    · rw [hlist] at hhead
      exact absurd rfl hhead
    · rw [← hlist] at hhead'
      exact absurd rfl hhead'
    · exact ⟨rfl, intercalate_colons_injective hpieces hpieces' (List.append_cancel_left hlist)⟩
  obtain ⟨rfl, hsegments⟩ := hsegments
  refine congrArg (mk rooted) (eq_of_map_eq (fun ident hident other hother htext => ?_) hsegments)
  exact Identifier.text_injective (hfirst ident hident) (hsecond other hother)
    (String.toList_injective htext)

end Path

end RetainerTable.Source
