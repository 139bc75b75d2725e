import RetainerTable.Proofs.TypeReference.Brackets

/-!
Which texts are type references, and which references they are.

`Spells` gives the two written forms of a reference, with the brackets and the commas of the
arguments said by `Balanced` and `Cut`. `parse?_spells` shows that reading accepts these texts and no
others, and yields the reference that is spelled.
-/

namespace RetainerTable.TypeReference

open RetainerTable.Text RetainerTable.Brackets

variable {c : Char} {cs inner piece tail : List Char} {pieces : List (List Char)} {opened : Nat}

section Pieces

private theorem grow_eq_some_iff {read : Option (List (List Char))} : pieces?.grow c read = some pieces ↔
    ∃ piece rest, read = some (piece :: rest) ∧ pieces = (c :: piece) :: rest := by
  constructor
  · intro hgrow
    unfold pieces?.grow at hgrow
    split at hgrow
    next piece rest =>
      cases hgrow
      exact ⟨piece, rest, rfl, rfl⟩
    · cases hgrow
  · rintro ⟨piece, rest, rfl, rfl⟩
    rfl

private theorem pieces?_comma (cs : List Char) : pieces? 0 (',' :: cs) = (pieces? 0 cs).map ([] :: ·) := by
  simp [pieces?]

/-- A character that does not cut belongs to the piece that goes on behind it. -/
theorem pieces?_cons {behind : Nat} (hcomma : c = ',' → opened ≠ 0)
    (hbehind : (behind : Int) = opened + depth [c]) :
    pieces? opened (c :: cs) = pieces?.grow c (pieces? behind cs) := by
  by_cases hopen : c = '<'
  · subst hopen
    rw [depth_open] at hbehind
    obtain rfl : behind = opened + 1 := by omega
    cases opened <;> simp [pieces?]
  · by_cases hclose : c = '>'
    · subst hclose
      rw [depth_close] at hbehind
      obtain rfl : opened = behind + 1 := by omega
      simp [pieces?]
    · rw [depth_other hopen hclose] at hbehind
      obtain rfl : behind = opened := by omega
      cases behind with
      | zero =>
        have hpart : c ≠ ',' := fun heq => hcomma heq rfl
        simp [pieces?, hopen, hclose, hpart]
      | succ behind => simp [pieces?, hopen, hclose]

/-- Unless a bracket closes that was not opened, some number of brackets is open behind a
    character. -/
theorem exists_behind (hclosed : c = '>' → opened ≠ 0) :
    ∃ behind : Nat, (behind : Int) = opened + depth [c] := by
  refine ⟨(opened + depth [c]).toNat, Int.toNat_of_nonneg ?_⟩
  by_cases hclose : c = '>'
  · have hpos := hclosed hclose
    rw [hclose, depth_close]
    omega
  · by_cases hopen : c = '<'
    · rw [hopen, depth_open]
      omega
    · rw [depth_other hopen hclose]
      omega

/-- What is behind a character was scanned with the brackets that are then open, unless it cuts. -/
theorem cases_of_pieces?_cons (hread : pieces? opened (c :: cs) = some pieces) :
    (c = ',' ∧ opened = 0 ∧ ∃ rest, pieces? 0 cs = some rest ∧ pieces = [] :: rest) ∨
    (c = ',' → opened ≠ 0) ∧ ∃ (behind : Nat) (piece : List Char) (rest : List (List Char)),
      (behind : Int) = opened + depth [c] ∧ pieces? behind cs = some (piece :: rest) ∧
        pieces = (c :: piece) :: rest := by
  by_cases hcut : c = ',' ∧ opened = 0
  · obtain ⟨rfl, rfl⟩ := hcut
    rw [pieces?_comma, Option.map_eq_some_iff] at hread
    obtain ⟨rest, hrest, rfl⟩ := hread
    exact .inl ⟨rfl, rfl, rest, hrest, rfl⟩
  · have hcomma : c = ',' → opened ≠ 0 := fun heq hzero => hcut ⟨heq, hzero⟩
    have hclosed : c = '>' → opened ≠ 0 := by
      rintro rfl rfl
      simp [pieces?] at hread
    obtain ⟨behind, hbehind⟩ := exists_behind hclosed
    rw [pieces?_cons hcomma hbehind, grow_eq_some_iff] at hread
    obtain ⟨piece, rest, hread, rfl⟩ := hread
    exact .inr ⟨hcomma, behind, piece, rest, hbehind, hread, rfl⟩

theorem intercalate_grow (rest : List (List Char)) :
    [','].intercalate ((c :: piece) :: rest) = c :: [','].intercalate (piece :: rest) := by
  cases rest with
  | nil => simp
  | cons next rest => simp only [intercalate_comma_cons_cons, List.cons_append]

/-- The scan yields pieces. The first of them begins with the brackets that are open already. -/
theorem isPiece_of_pieces? (hread : pieces? opened cs = some pieces) :
    ∃ piece rest, pieces = piece :: rest ∧ IsPiece opened piece ∧ (∀ p ∈ rest, IsPiece 0 p) ∧
      [','].intercalate pieces = cs := by
  induction cs generalizing opened pieces with
  | nil =>
    cases opened with
    | zero =>
      cases hread
      exact ⟨[], [], rfl, isPiece_nil_iff.mpr rfl, by simp, by simp⟩
    | succ opened => cases hread
  | cons c cs ih =>
    rcases cases_of_pieces?_cons hread with
      ⟨rfl, rfl, rest, hrest, rfl⟩ | ⟨hcomma, behind, piece, rest, hbehind, hrest, rfl⟩
    · obtain ⟨next, rest, rfl, hnext, hrest, hjoined⟩ := ih hrest
      refine ⟨[], next :: rest, rfl, isPiece_nil_iff.mpr rfl,
        List.forall_mem_cons.mpr ⟨hnext, hrest⟩, ?_⟩
      rw [intercalate_comma_cons_cons, hjoined, List.nil_append]
    · obtain ⟨_, _, heq, hpiece, hpieces, hjoined⟩ := ih hrest
      cases heq
      refine ⟨c :: piece, rest, rfl, isPiece_cons_iff.mpr ⟨by omega, ?_, hbehind ▸ hpiece⟩,
        hpieces, ?_⟩
      · intro heq
        have hne := hcomma heq
        omega
      · rw [intercalate_grow, hjoined]

/-- A piece in front of a text goes into the text's first piece. -/
theorem pieces?_append {next : List Char} {rest : List (List Char)} (hpiece : IsPiece opened piece)
    (htail : pieces? 0 tail = some (next :: rest)) :
    pieces? opened (piece ++ tail) = some ((piece ++ next) :: rest) := by
  induction piece generalizing opened with
  | nil =>
    obtain rfl : opened = 0 := by simpa using isPiece_nil_iff.mp hpiece
    simpa using htail
  | cons c piece ih =>
    obtain ⟨-, hcomma, hpiece⟩ := isPiece_cons_iff.mp hpiece
    obtain ⟨behind, hbehind⟩ := Int.eq_ofNat_of_zero_le hpiece.opened_nonneg
    rw [hbehind] at hpiece
    have hcomma' : c = ',' → opened ≠ 0 := fun heq hzero => hcomma heq (by simp [hzero])
    rw [List.cons_append, pieces?_cons hcomma' hbehind.symm, ih hpiece]
    rfl

private theorem pieces?_intercalate (hnonempty : pieces ≠ []) (hpieces : ∀ p ∈ pieces, IsPiece 0 p) :
    pieces? 0 ([','].intercalate pieces) = some pieces := by
  induction pieces with
  | nil => exact absurd rfl hnonempty
  | cons piece rest ih =>
    obtain ⟨hpiece, hrest⟩ := List.forall_mem_cons.mp hpieces
    cases rest with
    | nil =>
      have hread : pieces? 0 (piece ++ []) = some [piece ++ []] := pieces?_append hpiece rfl
      rw [List.append_nil] at hread
      rwa [List.intercalate_singleton]
    | cons next rest =>
      have htail : pieces? 0 (',' :: [','].intercalate (next :: rest)) = some ([] :: next :: rest) := by
        rw [pieces?_comma, ih (List.cons_ne_nil _ _) hrest]
        rfl
      rw [intercalate_comma_cons_cons]
      have hread := pieces?_append hpiece htail
      rwa [List.append_nil] at hread

/-- The scan succeeds on balanced texts, and cuts them at the commas outside all brackets. -/
theorem pieces?_eq_some_iff : pieces? 0 cs = some pieces ↔ Balanced cs ∧ Cut cs pieces := by
  rw [balanced_cut_iff]
  constructor
  · intro hread
    obtain ⟨piece, rest, rfl, hpiece, hrest, hjoined⟩ := isPiece_of_pieces? hread
    exact ⟨List.cons_ne_nil _ _, hjoined, List.forall_mem_cons.mpr ⟨hpiece, hrest⟩⟩
  · rintro ⟨hnonempty, rfl, hpieces⟩
    exact pieces?_intercalate hnonempty hpieces

end Pieces

/-- The trimmed text of a piece. -/
def argument (piece : List Char) : String :=
  String.ofList (trimChars piece)

/-- The reference that a text spells: a name without brackets, or a name and, between brackets, the
    arguments with commas between them. Blanks at the ends of the text, of the name and of each
    argument do not belong to it. -/
inductive Spells (text : String) : TypeReference → Prop
  | plain (hname : trim text ≠ "") (hopen : '<' ∉ (trim text).toList)
      (hclose : '>' ∉ (trim text).toList) : Spells text ⟨trim text, []⟩
  | generic {name inner : List Char} {pieces : List (List Char)}
      (hsplit : (trim text).toList = name ++ '<' :: (inner ++ ['>'])) (hopen : '<' ∉ name)
      (hname : trimChars name ≠ []) (hbalanced : Balanced inner) (hcut : Cut inner pieces)
      (hpieces : ∀ piece ∈ pieces, trimChars piece ≠ []) :
      Spells text ⟨String.ofList (trimChars name), pieces.map argument⟩

private theorem beforeClosing?_eq_some_iff : beforeClosing? cs = some inner ↔ cs = inner ++ ['>'] := by
  unfold beforeClosing?
  constructor
  · intro hbefore
    split at hbefore
    next hlast =>
      cases hbefore
      obtain ⟨front, rfl⟩ := List.getLast?_eq_some_iff.mp hlast
      rw [List.dropLast_concat]
    · cases hbefore
  · rintro rfl
    simp

private theorem arguments?_eq_some_iff {arguments : List String} : arguments? inner = some arguments ↔
    ∃ pieces, pieces? 0 inner = some pieces ∧ (∀ piece ∈ pieces, trimChars piece ≠ []) ∧
      arguments = pieces.map argument := by
  unfold arguments?
  cases pieces? 0 inner with
  | none => simp
  | some pieces =>
    have hany : (pieces.map trimChars).any List.isEmpty = true ↔
        ∃ piece ∈ pieces, trimChars piece = [] := by simp
    dsimp only
    split
    next hblank =>
      obtain ⟨piece, hpiece, hnil⟩ := hany.mp hblank
      constructor
      · intro heq
        cases heq
      · rintro ⟨_, heq, hpieces, -⟩
        cases heq
        exact absurd hnil (hpieces piece hpiece)
    next hfull =>
      have hpieces : ∀ piece ∈ pieces, trimChars piece ≠ [] :=
        fun piece hpiece hnil => hfull (hany.mpr ⟨piece, hpiece, hnil⟩)
      rw [List.map_map]
      constructor
      · intro heq
        cases heq
        exact ⟨pieces, rfl, hpieces, rfl⟩
      · rintro ⟨_, heq, -, rfl⟩
        cases heq
        rfl

private theorem ne_open_of_notMem (hopen : '<' ∉ cs) : ∀ c ∈ cs, decide (c ≠ '<') = true := by
  intro c hc
  have hne : c ≠ '<' := fun heq => hopen (heq ▸ hc)
  simpa using hne

/-- Without an opening bracket the whole text is the name. -/
theorem parse?_of_open_notMem {text : String} {ref : TypeReference}
    (hopen : '<' ∉ trimChars text.toList) : parse? text = some ref ↔
      trimChars text.toList ≠ [] ∧ '>' ∉ trimChars text.toList ∧ ref = ⟨trim text, []⟩ := by
  have hdrop : (trimChars text.toList).dropWhile (· ≠ '<') = [] := by
    rw [← List.append_nil (trimChars text.toList),
      List.dropWhile_append_of_pos (ne_open_of_notMem hopen), List.dropWhile_nil]
  unfold parse?
  simp only [hdrop]
  split
  next hbad =>
    constructor
    · intro heq
      cases heq
    · rintro ⟨hname, hclose, -⟩
      rcases hbad with hnil | hin
      · exact absurd (List.isEmpty_iff.mp hnil) hname
      · exact absurd hin hclose
  next hgood =>
    rw [not_or, List.isEmpty_iff] at hgood
    constructor
    · intro heq
      cases heq
      exact ⟨hgood.1, hgood.2, rfl⟩
    · rintro ⟨-, -, rfl⟩
      rfl

/-- The first opening bracket ends the name. -/
theorem parse?_of_split {text : String} {ref : TypeReference} {name rest : List Char}
    (hsplit : trimChars text.toList = name ++ '<' :: rest) (hopen : '<' ∉ name) :
    parse? text = some ref ↔ trimChars name ≠ [] ∧ ∃ inner arguments, rest = inner ++ ['>'] ∧
      arguments? inner = some arguments ∧ ref = ⟨String.ofList (trimChars name), arguments⟩ := by
  have hall := ne_open_of_notMem hopen
  have htake : (trimChars text.toList).takeWhile (· ≠ '<') = name := by
    rw [hsplit, List.takeWhile_append_of_pos hall]
    simp
  have hdrop : (trimChars text.toList).dropWhile (· ≠ '<') = '<' :: rest := by
    rw [hsplit, List.dropWhile_append_of_pos hall]
    simp
  unfold parse?
  simp only [hdrop, htake]
  split
  next hnil =>
    constructor
    · intro heq
      cases heq
    · rintro ⟨hname, -⟩
      exact absurd (List.isEmpty_iff.mp hnil) hname
  next hname =>
    rw [List.isEmpty_iff] at hname
    simp only [Option.map_eq_some_iff, Option.bind_eq_some_iff, beforeClosing?_eq_some_iff]
    constructor
    · rintro ⟨arguments, ⟨inner, hinner, harguments⟩, rfl⟩
      exact ⟨hname, inner, arguments, hinner, harguments, rfl⟩
    · rintro ⟨-, inner, arguments, hinner, harguments, rfl⟩
      exact ⟨arguments, ⟨inner, hinner, harguments⟩, rfl⟩

theorem spells_of_parse? {text : String} {ref : TypeReference} (hparse : parse? text = some ref) :
    Spells text ref := by
  by_cases hopen : '<' ∈ trimChars text.toList
  · obtain ⟨name, rest, hsplit, hopen⟩ := List.eq_append_cons_of_mem hopen
    obtain ⟨hname, inner, arguments, rfl, harguments, rfl⟩ :=
      (parse?_of_split hsplit hopen).mp hparse
    obtain ⟨pieces, hread, hpieces, rfl⟩ := arguments?_eq_some_iff.mp harguments
    obtain ⟨hbalanced, hcut⟩ := pieces?_eq_some_iff.mp hread
    exact .generic ((toList_trim text).trans hsplit) hopen hname hbalanced hcut hpieces
  · obtain ⟨hname, hclose, rfl⟩ := (parse?_of_open_notMem hopen).mp hparse
    rw [← toList_trim] at hname hopen hclose
    exact .plain (fun hnil => hname (congrArg String.toList hnil)) hopen hclose

theorem parse?_of_spells {text : String} {ref : TypeReference} (hspells : Spells text ref) :
    parse? text = some ref := by
  cases hspells with
  | plain hname hopen hclose =>
    rw [toList_trim] at hopen hclose
    refine (parse?_of_open_notMem hopen).mpr ⟨fun hnil => hname ?_, hclose, rfl⟩
    rw [trim, hnil]
  | generic hsplit hopen hname hbalanced hcut hpieces =>
    rw [toList_trim] at hsplit
    have hread := pieces?_eq_some_iff.mpr ⟨hbalanced, hcut⟩
    exact (parse?_of_split hsplit hopen).mpr
      ⟨hname, _, _, rfl, arguments?_eq_some_iff.mpr ⟨_, hread, hpieces, rfl⟩, rfl⟩

/-- A text is read as the reference that it spells, and as none if it spells none. -/
theorem parse?_spells (text : String) :
    (∀ ref, parse? text = some ref ↔ Spells text ref) ∧
    (parse? text = none ↔ ¬∃ ref, Spells text ref) := by
  have hiff : ∀ ref, parse? text = some ref ↔ Spells text ref :=
    fun ref => ⟨spells_of_parse?, parse?_of_spells⟩
  refine ⟨hiff, ?_⟩
  simp only [← hiff, ← Option.isSome_iff_exists, Option.not_isSome_iff_eq_none]

end RetainerTable.TypeReference
