import RetainerTable.TypeReference

/-!
Texts with angle brackets, and their pieces.

A text is `Balanced` if no front of it closes more brackets than it opens and the whole closes all.
Its pieces are what lies between the commas outside all brackets: `Cut` says this by the fronts that
end before such a comma, and `balanced_cut_iff` piece by piece. A piece closes all the brackets that
it opens, and has each of its commas inside brackets (`IsPiece`).
-/

namespace RetainerTable.Brackets

variable {c : Char} {cs front tail piece : List Char} {pieces rest : List (List Char)} {opened : Int}

/-- How many more brackets the text opens than it closes. -/
def depth (cs : List Char) : Int := cs.count '<' - cs.count '>'

@[simp] theorem depth_nil : depth [] = 0 := rfl

@[simp] theorem depth_append (first second : List Char) :
    depth (first ++ second) = depth first + depth second := by
  simp only [depth, List.count_append, Int.natCast_add]
  omega

private theorem depth_cons (c : Char) (cs : List Char) : depth (c :: cs) = depth [c] + depth cs :=
  depth_append [c] cs

@[simp] theorem depth_open : depth ['<'] = 1 := rfl

@[simp] theorem depth_close : depth ['>'] = -1 := rfl

private theorem depth_eq_zero (hopen : '<' ∉ cs) (hclose : '>' ∉ cs) : depth cs = 0 := by
  rw [depth, List.count_eq_zero.mpr hopen, List.count_eq_zero.mpr hclose]
  rfl

theorem depth_other (hopen : c ≠ '<') (hclose : c ≠ '>') : depth [c] = 0 :=
  depth_eq_zero (by simpa using hopen.symm) (by simpa using hclose.symm)

@[simp] theorem depth_comma_cons (cs : List Char) : depth (',' :: cs) = depth cs := by
  rw [depth_cons, depth_other (by decide) (by decide), Int.zero_add]

private theorem prefix_append_iff : front <+: piece ++ tail ↔
    front <+: piece ∨ ∃ after, front = piece ++ after ∧ after <+: tail := by
  constructor
  · intro hfront
    rcases List.prefix_or_prefix_of_prefix hfront (List.prefix_append piece tail) with
      hshort | ⟨after, rfl⟩
    · exact .inl hshort
    · exact .inr ⟨after, rfl, (List.prefix_append_right_inj piece).mp hfront⟩
  · rintro (hfront | ⟨after, rfl, hafter⟩)
    · exact hfront.trans (List.prefix_append piece tail)
    · exact (List.prefix_append_right_inj piece).mpr hafter

/-- No front closes more brackets than it opens, and the whole closes all that it opens. -/
structure Balanced (cs : List Char) : Prop where
  front : ∀ front, front <+: cs → 0 ≤ depth front
  whole : depth cs = 0

theorem balanced_of_notMem (hopen : '<' ∉ cs) (hclose : '>' ∉ cs) : Balanced cs where
  front front hfront := by
    have hdepth := depth_eq_zero (fun hin => hopen (hfront.subset hin))
      fun hin => hclose (hfront.subset hin)
    exact Int.le_of_eq hdepth.symm
  whole := depth_eq_zero hopen hclose

theorem balanced_append_iff_of_left (hbalanced : Balanced piece) :
    Balanced (piece ++ tail) ↔ Balanced tail := by
  have hdepth : ∀ after, depth (piece ++ after) = depth after := by
    intro after
    rw [depth_append, hbalanced.whole, Int.zero_add]
  constructor
  · rintro ⟨hfront, hwhole⟩
    refine ⟨fun front hin => ?_, (hdepth tail).symm.trans hwhole⟩
    rw [← hdepth front]
    exact hfront _ ((List.prefix_append_right_inj piece).mpr hin)
  · rintro ⟨hfront, hwhole⟩
    refine ⟨fun front hin => ?_, (hdepth tail).trans hwhole⟩
    rcases prefix_append_iff.mp hin with hin | ⟨after, rfl, hafter⟩
    · exact hbalanced.front front hin
    · rw [hdepth after]
      exact hfront after hafter

theorem balanced_append_iff_of_right (hbalanced : Balanced tail) :
    Balanced (piece ++ tail) ↔ Balanced piece := by
  constructor
  · rintro ⟨hfront, hwhole⟩
    rw [depth_append, hbalanced.whole, Int.add_zero] at hwhole
    exact ⟨fun front hin => hfront front (hin.trans (List.prefix_append _ _)), hwhole⟩
  · intro hpiece
    exact (balanced_append_iff_of_left hpiece).mpr hbalanced

/-- A balanced text in brackets is balanced. -/
theorem Balanced.bracketed (hbalanced : Balanced cs) : Balanced ('<' :: (cs ++ ['>'])) := by
  refine ⟨fun front hfront => ?_, ?_⟩
  · rcases List.prefix_cons_iff.mp hfront with rfl | ⟨inside, rfl, hinside⟩
    · exact Int.le_refl 0
    · rw [depth_cons, depth_open]
      rcases List.prefix_concat_iff.mp hinside with rfl | hinside
      · rw [depth_append, depth_close, hbalanced.whole]
        decide
      · have hnonneg := hbalanced.front inside hinside
        omega
  · rw [depth_cons, depth_append, depth_open, depth_close, hbalanced.whole]
    rfl

/-- Behind the front stands a comma outside all brackets. -/
def CommaBehind (cs front : List Char) : Prop :=
  front ++ [','] <+: cs ∧ depth front = 0

/-- The front ends with a piece that is not the last. -/
def EndsPiece (pieces : List (List Char)) (front : List Char) : Prop :=
  ∃ first last, first ≠ [] ∧ last ≠ [] ∧ pieces = first ++ last ∧ front = [','].intercalate first

/-- The pieces are those of the text, cut at exactly the commas outside all brackets: with commas
    between them they make the text, and such a comma stands where a piece ends and nowhere else. -/
structure Cut (cs : List Char) (pieces : List (List Char)) : Prop where
  nonempty : pieces ≠ []
  joined : [','].intercalate pieces = cs
  commas : ∀ front, CommaBehind cs front ↔ EndsPiece pieces front

/-- Read when so many brackets are open, the text closes them all at its end and never one more, and
    each of its commas stands inside brackets. -/
structure IsPiece (opened : Int) (cs : List Char) : Prop where
  front : ∀ front, front <+: cs → 0 ≤ opened + depth front
  whole : opened + depth cs = 0
  inside : ∀ front, front ++ [','] <+: cs → opened + depth front ≠ 0

theorem isPiece_zero_iff : IsPiece 0 cs ↔ Balanced cs ∧ ∀ front, ¬CommaBehind cs front := by
  constructor
  · rintro ⟨hfront, hwhole, hinside⟩
    simp only [Int.zero_add] at hfront hwhole hinside
    exact ⟨⟨hfront, hwhole⟩, fun front ⟨hcomma, hdepth⟩ => hinside front hcomma hdepth⟩
  · rintro ⟨⟨hfront, hwhole⟩, hcommas⟩
    refine ⟨?_, ?_, ?_⟩ <;> simp only [Int.zero_add]
    · exact hfront
    · exact hwhole
    · exact fun front hcomma hdepth => hcommas front ⟨hcomma, hdepth⟩

/-- A piece is one still without a balanced text at either end. -/
theorem IsPiece.of_append {before behind : List Char} (hbefore : Balanced before)
    (hbehind : Balanced behind) (hpiece : IsPiece 0 (before ++ cs ++ behind)) : IsPiece 0 cs := by
  obtain ⟨hbalanced, hcommas⟩ := isPiece_zero_iff.mp hpiece
  rw [balanced_append_iff_of_right hbehind, balanced_append_iff_of_left hbefore] at hbalanced
  refine isPiece_zero_iff.mpr ⟨hbalanced, fun front ⟨hfront, hdepth⟩ => ?_⟩
  refine hcommas (before ++ front) ⟨?_, ?_⟩
  · rw [List.append_assoc, List.append_assoc]
    exact (List.prefix_append_right_inj before).mpr (hfront.trans (List.prefix_append _ _))
  · rw [depth_append, hbefore.whole, hdepth, Int.zero_add]

theorem isPiece_nil_iff : IsPiece opened [] ↔ opened = 0 := by
  constructor
  · intro hpiece
    simpa using hpiece.whole
  · rintro rfl
    exact ⟨by simp, rfl, by simp⟩

theorem IsPiece.opened_nonneg (hpiece : IsPiece opened cs) : 0 ≤ opened := by
  simpa using hpiece.front [] List.nil_prefix

private theorem IsPiece.of_cons (hpiece : IsPiece opened (c :: cs)) : IsPiece (opened + depth [c]) cs := by
  have hdepth : ∀ after, opened + depth [c] + depth after = opened + depth (c :: after) := by
    intro after
    rw [depth_cons c after, Int.add_assoc]
  refine ⟨fun front hfront => ?_, ?_, fun front hfront => ?_⟩ <;> rw [hdepth]
  · exact hpiece.front _ (List.cons_prefix_cons.mpr ⟨rfl, hfront⟩)
  · exact hpiece.whole
  · exact hpiece.inside _ (List.cons_prefix_cons.mpr ⟨rfl, hfront⟩)

theorem isPiece_cons_iff : IsPiece opened (c :: cs) ↔
    0 ≤ opened ∧ (c = ',' → opened ≠ 0) ∧ IsPiece (opened + depth [c]) cs := by
  constructor
  · intro hpiece
    refine ⟨hpiece.opened_nonneg, ?_, hpiece.of_cons⟩
    rintro rfl
    simpa using hpiece.inside [] (by simp)
  · rintro ⟨hopened, hcomma, hpiece⟩
    have hdepth := depth_cons c
    refine ⟨fun front hfront => ?_, ?_, fun front hfront => ?_⟩
    · rcases List.prefix_cons_iff.mp hfront with rfl | ⟨after, rfl, hafter⟩
      · simpa using hopened
      · have hnonneg := hpiece.front after hafter
        rw [hdepth]
        omega
    · have hwhole := hpiece.whole
      rw [hdepth]
      omega
    · cases front with
      | nil =>
        obtain ⟨rfl, -⟩ := List.cons_prefix_cons.mp hfront
        simpa using hcomma rfl
      | cons d front =>
        obtain ⟨rfl, hafter⟩ := List.cons_prefix_cons.mp hfront
        have hne := hpiece.inside front hafter
        rw [hdepth]
        omega

section Piece

variable (hpiece : IsPiece 0 piece)

include hpiece

private theorem balanced_piece_comma_iff : Balanced (piece ++ ',' :: tail) ↔ Balanced tail := by
  have hcomma : Balanced [','] := balanced_of_notMem (by decide) (by decide)
  rw [balanced_append_iff_of_left (isPiece_zero_iff.mp hpiece).1]
  exact balanced_append_iff_of_left hcomma

/-- Behind a piece and its comma, brackets are counted afresh. -/
theorem depth_piece_comma (tail : List Char) : depth (piece ++ ',' :: tail) = depth tail := by
  rw [depth_append, (isPiece_zero_iff.mp hpiece).1.whole, depth_comma_cons, Int.zero_add]

private theorem commaBehind_piece_comma_iff : CommaBehind (piece ++ ',' :: tail) front ↔
    front = piece ∨ ∃ after, front = piece ++ ',' :: after ∧ CommaBehind tail after := by
  constructor
  · rintro ⟨hfront, hdepth⟩
    have hlonger : ¬front ++ [','] <+: piece :=
      fun hin => (isPiece_zero_iff.mp hpiece).2 front ⟨hin, hdepth⟩
    obtain ⟨after, heq, hafter⟩ := (prefix_append_iff.mp hfront).resolve_left hlonger
    rcases List.prefix_cons_iff.mp hafter with rfl | ⟨rest, rfl, hrest⟩
    · rw [List.append_nil] at heq
      exact absurd (heq ▸ List.prefix_refl _) hlonger
    · rcases List.eq_nil_or_concat rest with rfl | ⟨before, d, rfl⟩
      · exact .inl (List.append_inj_left' heq rfl)
      · rw [List.concat_eq_append, ← List.cons_append, ← List.append_assoc] at heq
        obtain ⟨rfl, hcomma⟩ := List.append_inj' heq rfl
        rw [List.concat_eq_append, ← hcomma] at hrest
        rw [depth_piece_comma hpiece] at hdepth
        exact .inr ⟨before, rfl, hrest, hdepth⟩
  · rintro (rfl | ⟨after, rfl, hafter, hdepth⟩)
    · exact ⟨⟨tail, by simp⟩, (isPiece_zero_iff.mp hpiece).1.whole⟩
    · obtain ⟨behind, rfl⟩ := hafter
      exact ⟨⟨behind, by simp⟩, (depth_piece_comma hpiece after).trans hdepth⟩

end Piece

theorem intercalate_comma_cons_cons {next : List Char} :
    [','].intercalate (piece :: next :: rest) = piece ++ ',' :: [','].intercalate (next :: rest) := by
  rw [List.intercalate_cons_cons, List.append_assoc, List.singleton_append]

private theorem not_endsPiece_singleton : ¬EndsPiece [piece] front := by
  rintro ⟨first, last, hfirst, hlast, heq, -⟩
  rcases List.singleton_eq_append_iff.mp heq with ⟨hnil, -⟩ | ⟨-, hnil⟩
  · exact hfirst hnil
  · exact hlast hnil

private theorem endsPiece_cons_cons_iff {next : List Char} : EndsPiece (piece :: next :: rest) front ↔
    front = piece ∨ ∃ after, front = piece ++ ',' :: after ∧ EndsPiece (next :: rest) after := by
  constructor
  · rintro ⟨first, last, hfirst, hlast, heq, rfl⟩
    rcases List.cons_eq_append_iff.mp heq with ⟨hnil, -⟩ | ⟨first, rfl, hsplit⟩
    · exact absurd hnil hfirst
    · cases first with
      | nil => exact .inl List.intercalate_singleton
      | cons p first =>
        exact .inr ⟨_, intercalate_comma_cons_cons, p :: first, last, List.cons_ne_nil _ _, hlast,
          hsplit, rfl⟩
  · rintro (rfl | ⟨after, rfl, first, last, hfirst, hlast, hsplit, rfl⟩)
    · exact ⟨[front], next :: rest, List.cons_ne_nil _ _, List.cons_ne_nil _ _, rfl,
        List.intercalate_singleton.symm⟩
    · refine ⟨piece :: first, last, List.cons_ne_nil _ _, hlast, congrArg _ hsplit, ?_⟩
      rw [List.intercalate_cons_of_ne_nil hfirst, List.append_assoc, List.singleton_append]

/-- The first piece is over when a piece ends. -/
theorem prefix_of_endsPiece (hends : EndsPiece (piece :: rest) front) : piece <+: front := by
  cases rest with
  | nil => exact absurd hends not_endsPiece_singleton
  | cons next rest =>
    rcases endsPiece_cons_cons_iff.mp hends with rfl | ⟨after, rfl, -⟩
    · exact List.prefix_refl _
    · exact List.prefix_append _ _

private theorem cut_singleton_iff : Cut cs [piece] ↔ piece = cs ∧ ∀ front, ¬CommaBehind cs front := by
  constructor
  · rintro ⟨-, hjoined, hcommas⟩
    exact ⟨List.intercalate_singleton.symm.trans hjoined,
      fun front hcomma => not_endsPiece_singleton ((hcommas front).mp hcomma)⟩
  · rintro ⟨rfl, hcommas⟩
    exact ⟨List.cons_ne_nil _ _, List.intercalate_singleton,
      fun front => iff_of_false (hcommas front) not_endsPiece_singleton⟩

private theorem cut_cons_cons_iff {next : List Char} (hpiece : IsPiece 0 piece) :
    Cut cs (piece :: next :: rest) ↔ ∃ tail, cs = piece ++ ',' :: tail ∧ Cut tail (next :: rest) := by
  constructor
  · rintro ⟨-, rfl, hcommas⟩
    rw [intercalate_comma_cons_cons] at hcommas ⊢
    refine ⟨_, rfl, List.cons_ne_nil _ _, rfl, fun front => ?_⟩
    -- A front of the tail is seen from the whole text behind the piece and its comma.
    have hwhole := hcommas (piece ++ ',' :: front)
    rw [commaBehind_piece_comma_iff hpiece, endsPiece_cons_cons_iff] at hwhole
    simpa using hwhole
  · rintro ⟨tail, rfl, -, rfl, hcommas⟩
    refine ⟨List.cons_ne_nil _ _, intercalate_comma_cons_cons, fun front => ?_⟩
    rw [commaBehind_piece_comma_iff hpiece, endsPiece_cons_cons_iff]
    simp only [hcommas]

/-- The first piece of a balanced text is one. -/
theorem Cut.isPiece_head (hbalanced : Balanced cs) (hcut : Cut cs (piece :: rest)) :
    IsPiece 0 piece := by
  cases rest with
  | nil =>
    obtain ⟨rfl, hcommas⟩ := cut_singleton_iff.mp hcut
    exact isPiece_zero_iff.mpr ⟨hbalanced, hcommas⟩
  | cons next rest =>
    obtain ⟨-, rfl, hcommas⟩ := hcut
    rw [intercalate_comma_cons_cons] at hbalanced hcommas
    have hends := (hcommas piece).mpr (endsPiece_cons_cons_iff.mpr (.inl rfl))
    refine isPiece_zero_iff.mpr ⟨⟨fun front hfront => ?_, hends.2⟩, fun front hcomma => ?_⟩
    · exact hbalanced.front front (hfront.trans (List.prefix_append _ _))
    · have hends := (hcommas front).mp ⟨hcomma.1.trans (List.prefix_append _ _), hcomma.2⟩
      have hlonger := hcomma.1.trans (prefix_of_endsPiece hends)
      have hlength := hlonger.length_le
      rw [List.length_append, List.length_singleton] at hlength
      omega

/-- A balanced text is cut into pieces. -/
theorem balanced_cut_iff : Balanced cs ∧ Cut cs pieces ↔
    pieces ≠ [] ∧ [','].intercalate pieces = cs ∧ ∀ piece ∈ pieces, IsPiece 0 piece := by
  induction pieces generalizing cs with
  | nil =>
    constructor
    · rintro ⟨-, hcut⟩
      exact absurd rfl hcut.nonempty
    · rintro ⟨hnonempty, -⟩
      exact absurd rfl hnonempty
  | cons piece rest ih =>
    cases rest with
    | nil =>
      rw [cut_singleton_iff, List.intercalate_singleton, List.forall_mem_singleton]
      constructor
      · rintro ⟨hbalanced, rfl, hcommas⟩
        exact ⟨List.cons_ne_nil _ _, rfl, isPiece_zero_iff.mpr ⟨hbalanced, hcommas⟩⟩
      · rintro ⟨-, rfl, hpiece⟩
        obtain ⟨hbalanced, hcommas⟩ := isPiece_zero_iff.mp hpiece
        exact ⟨hbalanced, rfl, hcommas⟩
    | cons next rest =>
      rw [intercalate_comma_cons_cons, List.forall_mem_cons]
      constructor
      · rintro ⟨hbalanced, hcut⟩
        have hpiece := hcut.isPiece_head hbalanced
        obtain ⟨tail, rfl, htail⟩ := (cut_cons_cons_iff hpiece).mp hcut
        obtain ⟨-, hjoined, hrest⟩ :=
          ih.mp ⟨(balanced_piece_comma_iff hpiece).mp hbalanced, htail⟩
        exact ⟨List.cons_ne_nil _ _, by rw [hjoined], hpiece, hrest⟩
      · rintro ⟨-, rfl, hpiece, hrest⟩
        obtain ⟨hbalanced, hcut⟩ := ih.mpr ⟨List.cons_ne_nil _ _, rfl, hrest⟩
        exact ⟨(balanced_piece_comma_iff hpiece).mpr hbalanced,
          (cut_cons_cons_iff hpiece).mpr ⟨_, rfl, hcut⟩⟩

end RetainerTable.Brackets
