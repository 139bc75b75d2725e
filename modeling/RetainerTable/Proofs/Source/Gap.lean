import RetainerTable.Proofs.Source.Rereading

/-!
What separates tokens.

A `Gap` is made of separating characters and of ordinary comments that end within it; at the end of a
text a line comment may also be left open (`EndGap`). Reading passes over a gap
(`Gap.read_append`), and what it passes over is one (`Token.exists_gap_of_read_cons`,
`Token.endGap_of_read_nil`). A separating character more or less at the end makes no difference
(`EndGap.append_separator`, `EndGap.of_append_separator`).
-/

namespace RetainerTable.Source

open RetainerTable.Text

/-- What stands behind the slashes of a line comment does not make it documentation, as one more slash
    or an exclamation mark would. -/
def OrdinaryLine (body : List Char) : Prop :=
  ¬['!'] <+: body ∧ (['/'] <+: body → ['/', '/'] <+: body)

/-- What stands behind the opening mark of a block comment does not make it documentation, as one more
    star in front of its text or an exclamation mark would. -/
def OrdinaryBlock (body : List Char) : Prop :=
  ¬['!'] <+: body ∧ (['*'] <+: body → ['*', '*'] <+: body ∨ ['*', '/'] <+: body)

/-- The text of a block comment that lies in as many others as the depth says, up to the mark that
    closes the outermost of them. The marks are read from left to right, each once. -/
inductive Closes : Nat → List Char → Prop
  | closing : Closes 0 ['*', '/']
  | inner {depth : Nat} {cs : List Char} (hcs : Closes (depth + 1) cs) :
      Closes depth ('/' :: '*' :: cs)
  | outer {depth : Nat} {cs : List Char} (hcs : Closes depth cs) :
      Closes (depth + 1) ('*' :: '/' :: cs)
  | other {depth : Nat} {c : Char} {cs : List Char} (hopen : ¬['/', '*'] <+: c :: cs)
      (hclose : ¬['*', '/'] <+: c :: cs) (hcs : Closes depth cs) : Closes depth (c :: cs)

variable {c : Char} {cs rest body gap : List Char} {depth : Nat} {token : Token}
  {tokens : List Token}

private theorem Closes.two_le_length (hcloses : Closes depth cs) : 2 ≤ cs.length := by
  induction hcloses with
  | closing => exact Nat.le_refl 2
  | inner _ ih | outer _ ih | other _ _ _ ih =>
    simp only [List.length_cons]
    omega

/-- A mark of two characters at the front of a text is at the front of a part of it that is no
    shorter. -/
theorem prefix_of_prefix_append {mark front : List Char} (hfront : mark <+: front ++ rest)
    (hlength : mark.length ≤ front.length) : mark <+: front :=
  List.prefix_of_prefix_length_le hfront (List.prefix_append front rest) hlength

private theorem afterBlock_other (hopen : ¬['/', '*'] <+: c :: cs) (hclose : ¬['*', '/'] <+: c :: cs) :
    afterBlock depth (c :: cs) = afterBlock depth cs := by
  rw [afterBlock.eq_def]
  split
  next heq =>
    rw [heq] at hopen
    simp at hopen
  next heq =>
    rw [heq] at hclose
    simp at hclose
  next heq =>
    rw [heq] at hclose
    simp at hclose
  next heq => rw [(List.cons.inj heq).2]
  next heq => cases heq

private theorem Closes.afterBlock_append (hcloses : Closes depth cs) (rest : List Char) :
    afterBlock depth (cs ++ rest) = some rest := by
  induction hcloses with
  | closing => simp [afterBlock]
  | inner _ ih | outer _ ih => simpa [afterBlock] using ih
  | other hopen hclose hcs ih =>
    have hlength := hcs.two_le_length
    rw [List.cons_append, afterBlock_other, ih]
    · intro hfront
      refine hopen (prefix_of_prefix_append hfront ?_)
      simp only [List.length_cons, List.length_nil]
      omega
    · intro hfront
      refine hclose (prefix_of_prefix_append hfront ?_)
      simp only [List.length_cons, List.length_nil]
      omega

private theorem exists_closes_of_afterBlock (hafter : afterBlock depth cs = some rest) :
    ∃ body, cs = body ++ rest ∧ Closes depth body := by
  fun_induction afterBlock depth cs with
  | case1 depth cs ih =>
    obtain ⟨body, rfl, hbody⟩ := ih hafter
    exact ⟨'/' :: '*' :: body, rfl, .inner hbody⟩
  | case2 cs =>
    cases hafter
    exact ⟨['*', '/'], rfl, .closing⟩
  | case3 depth cs ih =>
    obtain ⟨body, rfl, hbody⟩ := ih hafter
    exact ⟨'*' :: '/' :: body, rfl, .outer hbody⟩
  | case4 depth c cs hinner hclosing houter ih =>
    obtain ⟨body, rfl, hbody⟩ := ih hafter
    refine ⟨c :: body, rfl, .other ?_ ?_ hbody⟩
    · rintro ⟨behind, heq⟩
      obtain ⟨rfl, rfl⟩ := List.cons.inj heq
      exact hinner _ rfl rfl
    · rintro ⟨behind, heq⟩
      obtain ⟨rfl, rfl⟩ := List.cons.inj heq
      cases depth with
      | zero => exact hclosing _ rfl rfl rfl
      | succ depth => exact houter depth _ rfl rfl rfl
  | case5 => cases hafter

instance (body : List Char) : Decidable (OrdinaryLine body) :=
  inferInstanceAs (Decidable (_ ∧ _))

instance (body : List Char) : Decidable (OrdinaryBlock body) :=
  inferInstanceAs (Decidable (_ ∧ _))

private theorem not_prefix_of_ne (hne : ∀ behind, cs = c :: behind → False) : ¬[c] <+: cs := by
  rintro ⟨behind, heq⟩
  exact hne behind heq.symm

/-- A line comment is passed over unless it is documentation. -/
theorem afterComment?_line (cs : List Char) : afterComment? ('/' :: '/' :: cs) =
    if OrdinaryLine cs then some (cs.dropWhile (· ≠ '\n')) else none := by
  simp only [afterComment?, OrdinaryLine]
  split
  next => simp
  next cs hsingle => simp [not_prefix_of_ne hsingle]
  next => simp
  next _ hslash hmark => simp [not_prefix_of_ne hslash, not_prefix_of_ne hmark]

/-- A block comment is passed over unless it is documentation or does not end. -/
theorem afterComment?_block (cs : List Char) : afterComment? ('/' :: '*' :: cs) =
    if OrdinaryBlock cs then afterBlock 0 cs else none := by
  simp only [afterComment?, OrdinaryBlock]
  split
  next => simp
  next => simp
  next cs hslash hstar => simp [not_prefix_of_ne hslash, not_prefix_of_ne hstar]
  next => simp
  next _ _ hstar hmark => simp [not_prefix_of_ne hstar, not_prefix_of_ne hmark]

private theorem ne_of_isSeparator {other : Char} (hc : isSeparator c = true)
    (hother : isSeparator other = false) : c ≠ other := by
  rintro rfl
  rw [hc] at hother
  cases hother

private theorem isSeparator_slash : isSeparator '/' = false := by decide

private theorem ne_marks_of_isSeparator (hc : isSeparator c = true) : c ≠ '/' ∧ c ≠ '!' :=
  ⟨ne_of_isSeparator hc isSeparator_slash, ne_of_isSeparator hc (by decide)⟩

/-- Nothing behind a line comment makes it documentation unless it begins with one of the marks that
    do. -/
theorem ordinaryLine_append_iff (hrest : ∀ c ∈ rest.head?, c ≠ '/' ∧ c ≠ '!') :
    OrdinaryLine (body ++ rest) ↔ OrdinaryLine body := by
  unfold OrdinaryLine
  match body with
  | [] =>
    cases rest with
    | nil => rfl
    | cons c rest => simp [(hrest c rfl).1.symm, (hrest c rfl).2.symm]
  | [c] =>
    cases rest with
    | nil => simp
    | cons d rest => simp [(hrest d rfl).1.symm]
  | c :: d :: body => simp

private theorem ordinaryBlock_append_iff (hlength : 2 ≤ body.length) :
    OrdinaryBlock (body ++ rest) ↔ OrdinaryBlock body := by
  have hmark : ∀ mark : List Char, mark.length ≤ 2 → (mark <+: body ++ rest ↔ mark <+: body) := by
    intro mark hshort
    constructor
    · intro hfront
      exact prefix_of_prefix_append hfront (by omega)
    · intro hfront
      exact hfront.trans (List.prefix_append _ _)
  unfold OrdinaryBlock
  rw [hmark, hmark, hmark, hmark] <;> decide

/-- Separating characters and ordinary comments, each of which ends. -/
inductive Gap : List Char → Prop
  | nil : Gap []
  | separator {c : Char} {cs : List Char} (hc : isSeparator c = true) (hcs : Gap cs) : Gap (c :: cs)
  | line {body cs : List Char} (hordinary : OrdinaryLine body) (hline : '\n' ∉ body)
      (hcs : Gap cs) : Gap ('/' :: '/' :: (body ++ '\n' :: cs))
  | block {body cs : List Char} (hordinary : OrdinaryBlock body) (hcloses : Closes 0 body)
      (hcs : Gap cs) : Gap ('/' :: '*' :: (body ++ cs))

/-- What may stand behind the last token: a gap, or one and a line comment that ends with the text. -/
inductive EndGap : List Char → Prop
  | gap {cs : List Char} (hcs : Gap cs) : EndGap cs
  | line {body cs : List Char} (hcs : Gap cs) (hordinary : OrdinaryLine body)
      (hline : '\n' ∉ body) : EndGap (cs ++ '/' :: '/' :: body)

theorem Gap.append {behind : List Char} (hgap : Gap gap) (hbehind : Gap behind) :
    Gap (gap ++ behind) := by
  induction hgap with
  | nil => exact hbehind
  | separator hc _ ih => exact .separator hc ih
  | line hordinary hline _ ih =>
    rw [List.cons_append, List.cons_append, List.append_assoc]
    exact .line hordinary hline ih
  | block hordinary hcloses _ ih =>
    rw [List.cons_append, List.cons_append, List.append_assoc]
    exact .block hordinary hcloses ih

theorem Gap.append_endGap {behind : List Char} (hgap : Gap gap) (hbehind : EndGap behind) :
    EndGap (gap ++ behind) := by
  cases hbehind with
  | gap hbehind => exact .gap (hgap.append hbehind)
  | line hbehind hordinary hline =>
    rw [← List.append_assoc]
    exact .line (hgap.append hbehind) hordinary hline

theorem isSeparator_of_isBlank (hc : isBlank c = true) : isSeparator c = true := by
  simp [isSeparator, hc]

theorem Gap.of_separator_cons (hc : isSeparator c = true) (hgap : Gap (c :: cs)) : Gap cs := by
  cases hgap with
  | separator _ hcs => exact hcs
  | line => cases hc
  | block => cases hc

theorem EndGap.of_separator_cons (hc : isSeparator c = true) (hend : EndGap (c :: cs)) :
    EndGap cs := by
  generalize hall : c :: cs = all at hend
  cases hend with
  | gap hgap => exact .gap (Gap.of_separator_cons hc (hall ▸ hgap))
  | @line body front hgap hordinary hline =>
    cases front with
    | nil =>
      obtain ⟨rfl, -⟩ := List.cons.inj hall
      cases hc
    | cons d front =>
      obtain ⟨rfl, rfl⟩ := List.cons.inj hall
      exact .line (hgap.of_separator_cons hc) hordinary hline

private theorem Token.read_of_afterSeparator? (hafter : Token.afterSeparator? cs = some rest)
    (hlt : rest.length < cs.length) : Token.read cs = Token.read rest := by
  have hne : cs ≠ [] := by
    rintro rfl
    cases hlt
  rw [Token.read, if_neg hne]
  simp only [hafter, if_pos hlt]

theorem Token.read_separator (hc : isSeparator c = true) (cs : List Char) :
    Token.read (c :: cs) = Token.read cs :=
  Token.read_of_afterSeparator? (by rw [Token.afterSeparator?, if_pos hc]) (Nat.lt_succ_self _)

theorem isSeparator_newline : isSeparator '\n' = true := by decide

private theorem Token.afterSeparator?_slash (cs : List Char) :
    Token.afterSeparator? ('/' :: cs) = afterComment? ('/' :: cs) := by
  rw [Token.afterSeparator?, isSeparator_slash, if_neg Bool.false_ne_true]

private theorem dropWhile_line (hline : '\n' ∉ body) (hrest : ∀ c ∈ rest.head?, c = '\n') :
    (body ++ rest).dropWhile (· ≠ '\n') = rest := by
  rw [List.dropWhile_append_of_pos (forall_ne_of_notMem hline)]
  cases rest with
  | nil => rfl
  | cons c rest => simp [hrest c rfl]

theorem Token.read_line (hordinary : OrdinaryLine body) (hline : '\n' ∉ body)
    (hrest : ∀ c ∈ rest.head?, c = '\n') :
    Token.read ('/' :: '/' :: (body ++ rest)) = Token.read rest := by
  apply Token.read_of_afterSeparator?
  · have hmarks : ∀ c ∈ rest.head?, c ≠ '/' ∧ c ≠ '!' :=
      fun c hc => ne_marks_of_isSeparator (hrest c hc ▸ isSeparator_newline)
    rw [Token.afterSeparator?_slash, afterComment?_line,
      if_pos ((ordinaryLine_append_iff hmarks).mpr hordinary), dropWhile_line hline hrest]
  · simp only [List.length_cons, List.length_append]
    omega

theorem Token.read_block (hordinary : OrdinaryBlock body) (hcloses : Closes 0 body)
    (rest : List Char) : Token.read ('/' :: '*' :: (body ++ rest)) = Token.read rest := by
  apply Token.read_of_afterSeparator?
  · rw [Token.afterSeparator?_slash, afterComment?_block,
      if_pos ((ordinaryBlock_append_iff hcloses.two_le_length).mpr hordinary),
      hcloses.afterBlock_append]
  · simp only [List.length_cons, List.length_append]
    omega

/-- A gap in front of a text adds no token. -/
theorem Gap.read_append (hgap : Gap gap) (rest : List Char) :
    Token.read (gap ++ rest) = Token.read rest := by
  induction hgap with
  | nil => rfl
  | separator hc _ ih => rw [List.cons_append, Token.read_separator hc, ih]
  | line hordinary hline _ ih =>
    rw [List.cons_append, List.cons_append, List.append_assoc,
      Token.read_line hordinary hline (by simp), List.cons_append,
      Token.read_separator isSeparator_newline, ih]
  | block hordinary hcloses _ ih =>
    rw [List.cons_append, List.cons_append, List.append_assoc, Token.read_block hordinary hcloses, ih]

private theorem Token.read_nil : Token.read [] = some [] := by
  rw [Token.read, if_pos rfl]

/-- A line comment may end with the text. -/
theorem Token.read_openLine (hordinary : OrdinaryLine body) (hline : '\n' ∉ body) :
    Token.read ('/' :: '/' :: body) = some [] := by
  have hread : Token.read ('/' :: '/' :: (body ++ [])) = Token.read [] :=
    Token.read_line hordinary hline (by simp)
  rwa [List.append_nil, Token.read_nil] at hread

theorem EndGap.read_eq_nil (hend : EndGap cs) : Token.read cs = some [] := by
  cases hend with
  | gap hgap => rw [← List.append_nil cs, hgap.read_append, Token.read_nil]
  | line hgap hordinary hline => rw [hgap.read_append, Token.read_openLine hordinary hline]

private theorem eq_newline_of_mem_head? (hc : c ∈ (cs.dropWhile (· ≠ '\n')).head?) : c = '\n' := by
  have hstops := List.head?_dropWhile_not (· ≠ '\n') cs
  rw [Option.mem_def.mp hc] at hstops
  simpa using hstops

/-- A comment that is passed over is an ordinary one. A line comment is passed over up to the line
    feed that ends it. -/
theorem cases_of_afterComment? (hafter : afterComment? cs = some rest) :
    (∃ body, cs = '/' :: '/' :: (body ++ rest) ∧ OrdinaryLine body ∧ '\n' ∉ body ∧
      ∀ c ∈ rest.head?, c = '\n') ∨
    ∃ body, cs = '/' :: '*' :: (body ++ rest) ∧ OrdinaryBlock body ∧ Closes 0 body := by
  have hcomment := hafter
  unfold afterComment? at hafter
  split at hafter
  next cs =>
    rw [afterComment?_line] at hcomment
    split at hcomment
    next hordinary =>
      cases hcomment
      have hrest : ∀ c ∈ (cs.dropWhile (· ≠ '\n')).head?, c = '\n' :=
        fun c => eq_newline_of_mem_head?
      rw [← List.takeWhile_append_dropWhile (p := (· ≠ '\n')) (l := cs),
        ordinaryLine_append_iff fun c hc =>
          ne_marks_of_isSeparator (hrest c hc ▸ isSeparator_newline)] at hordinary
      refine .inl ⟨_, by rw [List.takeWhile_append_dropWhile], hordinary, ?_, hrest⟩
      intro hmem
      simpa using List.mem_takeWhile_imp hmem
    next => cases hcomment
  next cs =>
    rw [afterComment?_block] at hcomment
    split at hcomment
    next hordinary =>
      obtain ⟨body, rfl, hcloses⟩ := exists_closes_of_afterBlock hcomment
      exact .inr ⟨body, rfl, (ordinaryBlock_append_iff hcloses.two_le_length).mp hordinary, hcloses⟩
    next => cases hcomment
  next => cases hafter

theorem cases_of_afterSeparator? (hafter : Token.afterSeparator? cs = some rest) :
    (∃ c, cs = c :: rest ∧ isSeparator c = true) ∨ afterComment? cs = some rest := by
  unfold Token.afterSeparator? at hafter
  split at hafter
  · cases hafter
  next c cs =>
    split at hafter
    next hc =>
      cases hafter
      exact .inl ⟨c, rfl, hc⟩
    next => exact .inr hafter

/-- What is read first stands behind a gap. -/
theorem Token.exists_gap_of_read_cons (hread : Token.read cs = some (token :: tokens)) :
    ∃ gap front rest, cs = gap ++ front ∧ Gap gap ∧ Token.afterSeparator? front = none ∧
      Token.first? front = some (token, rest) ∧ Token.read rest = some tokens := by
  fun_induction Token.read cs with
  | case1 => cases hread
  | case2 cs hne rest hafter hlt ih =>
    obtain ⟨gap, front, behind, hsplit, hgap, hfront, hfirst, hbehind⟩ := ih hread
    rcases cases_of_afterSeparator? hafter with ⟨c, rfl, hc⟩ | hcomment
    · exact ⟨c :: gap, front, behind, by rw [hsplit, List.cons_append], .separator hc hgap, hfront,
        hfirst, hbehind⟩
    rcases cases_of_afterComment? hcomment with ⟨body, rfl, hordinary, hline, hrest⟩ |
      ⟨body, rfl, hordinary, hcloses⟩
    · -- The gap behind the comment has to begin with the line feed that ends it.
      cases rest with
      | nil =>
        obtain ⟨rfl, rfl⟩ := List.append_eq_nil_iff.mp hsplit.symm
        cases hfirst
      | cons c rest =>
        obtain rfl := hrest c rfl
        cases gap with
        | nil =>
          rw [List.nil_append] at hsplit
          rw [← hsplit, Token.afterSeparator?, if_pos isSeparator_newline] at hfront
          cases hfront
        | cons d gap =>
          obtain ⟨rfl, rfl⟩ := List.cons.inj hsplit
          exact ⟨'/' :: '/' :: (body ++ '\n' :: gap), front, behind, by simp,
            .line hordinary hline (hgap.of_separator_cons isSeparator_newline), hfront, hfirst, hbehind⟩
    · exact ⟨'/' :: '*' :: (body ++ gap), front, behind, by simp [hsplit], .block hordinary hcloses hgap,
        hfront, hfirst, hbehind⟩
  | case3 => cases hread
  | case4 cs hne hafter first rest hfirst hlt ih =>
    obtain ⟨later, hlater, heq⟩ := Option.map_eq_some_iff.mp hread
    obtain ⟨rfl, rfl⟩ := List.cons.inj heq
    exact ⟨[], cs, rest, rfl, .nil, hafter, hfirst, hlater⟩
  | case5 => cases hread
  | case6 => cases hread

/-- A text without tokens is a gap, which may be left open. -/
theorem Token.endGap_of_read_nil (hread : Token.read cs = some []) : EndGap cs := by
  fun_induction Token.read cs with
  | case1 => exact .gap .nil
  | case2 cs hne rest hafter hlt ih =>
    have hend := ih hread
    rcases cases_of_afterSeparator? hafter with ⟨c, rfl, hc⟩ | hcomment
    · exact (Gap.separator hc .nil).append_endGap hend
    rcases cases_of_afterComment? hcomment with ⟨body, rfl, hordinary, hline, hrest⟩ |
      ⟨body, rfl, hordinary, hcloses⟩
    · cases rest with
      | nil =>
        rw [List.append_nil]
        exact .line .nil hordinary hline
      | cons c rest =>
        obtain rfl := hrest c rfl
        have hgap := Gap.line hordinary hline .nil
        simpa using hgap.append_endGap (hend.of_separator_cons isSeparator_newline)
    · have hgap := Gap.block hordinary hcloses .nil
      simpa using hgap.append_endGap hend
  | case3 => cases hread
  | case4 cs hne hafter first rest hfirst hlt ih =>
    obtain ⟨later, hlater, heq⟩ := Option.map_eq_some_iff.mp hread
    cases heq
  | case5 => cases hread
  | case6 => cases hread

theorem not_isSeparator_of_isIdentContinue (hc : isIdentContinue c = true) :
    isSeparator c = false := by
  have hleft : c ≠ '\u200e' := ne_of_isIdentContinue hc (by decide)
  have hright : c ≠ '\u200f' := ne_of_isIdentContinue hc (by decide)
  simp [isSeparator, isBlank_of_isIdentContinue hc, hleft, hright]

private theorem not_isIdentContinue_of_isSeparator (hc : isSeparator c = true) :
    isIdentContinue c = false := by
  cases hcontinue : isIdentContinue c with
  | false => rfl
  | true =>
    rw [not_isSeparator_of_isIdentContinue hcontinue] at hc
    cases hc

theorem Gap.head? (hgap : Gap gap) (hc : c ∈ gap.head?) : isSeparator c = true ∨ c = '/' := by
  cases hgap with
  | nil => cases hc
  | separator hd _ => exact .inl (Option.some.inj hc ▸ hd)
  | line _ _ _ => exact .inr (Option.some.inj hc).symm
  | block _ _ _ => exact .inr (Option.some.inj hc).symm

theorem EndGap.head? (hend : EndGap cs) (hc : c ∈ cs.head?) : isSeparator c = true ∨ c = '/' := by
  cases hend with
  | gap hgap => exact hgap.head? hc
  | @line body front hgap hordinary hline =>
    cases front with
    | nil => exact .inr (Option.some.inj hc).symm
    | cons d front => exact hgap.head? hc

theorem endsIdent_of_head? (hcs : ∀ c ∈ cs.head?, isSeparator c = true ∨ c = '/') :
    EndsIdent cs := by
  intro c hc
  rcases hcs c hc with hseparator | rfl
  · refine ⟨not_isIdentContinue_of_isSeparator hseparator, fun hmem => ?_⟩
    have hmarks : ['"', '\'', '#'].all (fun mark => !isSeparator mark) = true := by decide
    have hmark := List.all_eq_true.mp hmarks c hmem
    rw [hseparator] at hmark
    cases hmark
  · exact ⟨isIdentContinue_of_outside (by decide), by decide⟩

theorem EndGap.endsIdent_append (hend : EndGap gap) (hrest : EndsIdent rest) :
    EndsIdent (gap ++ rest) := by
  cases gap with
  | nil => exact hrest
  | cons c gap => exact endsIdent_of_head? fun _ => hend.head?

theorem EndGap.endsIdent (hend : EndGap cs) : EndsIdent cs := by
  rw [← List.append_nil cs]
  exact hend.endsIdent_append endsIdent_nil

/-- No symbol stands where a gap does. -/
theorem Gap.eq_nil_of_startsSymbol (hgap : Gap gap) (hsymbol : startsSymbol (gap ++ rest) = true) :
    gap = [] := by
  cases hgap with
  | nil => rfl
  | @separator c gap hc hgap =>
    have hmarks : marks.all (fun mark => !isSeparator mark) = true := by decide
    have hmem : c ∈ marks := by
      simp only [List.cons_append, startsSymbol, Bool.and_eq_true, List.contains_iff_mem] at hsymbol
      exact hsymbol.1
    have hmark := List.all_eq_true.mp hmarks c hmem
    rw [hc] at hmark
    cases hmark
  | line => cases hsymbol
  | block => cases hsymbol

private theorem Closes.exists_eq_append (hcloses : Closes depth cs) : ∃ front, cs = front ++ ['*', '/'] := by
  induction hcloses with
  | closing => exact ⟨[], rfl⟩
  | inner _ ih =>
    obtain ⟨front, rfl⟩ := ih
    exact ⟨'/' :: '*' :: front, rfl⟩
  | outer _ ih =>
    obtain ⟨front, rfl⟩ := ih
    exact ⟨'*' :: '/' :: front, rfl⟩
  | @other _ c _ _ _ _ ih =>
    obtain ⟨front, rfl⟩ := ih
    exact ⟨c :: front, rfl⟩

theorem EndGap.append_separator (hend : EndGap cs) (hc : isSeparator c = true) :
    EndGap (cs ++ [c]) := by
  have hgap : Gap [c] := .separator hc .nil
  cases hend with
  | gap hcs => exact .gap (hcs.append hgap)
  | @line body front hfront hordinary hline =>
    rw [List.append_assoc]
    by_cases hnewline : c = '\n'
    · have hcomment : Gap ('/' :: '/' :: (body ++ '\n' :: [])) := .line hordinary hline .nil
      exact .gap (hfront.append (hnewline ▸ hcomment))
    · refine .line hfront ((ordinaryLine_append_iff ?_).mpr hordinary) ?_
      · intro d hd
        exact ne_marks_of_isSeparator (Option.some.inj hd ▸ hc)
      · simp [hline, Ne.symm hnewline]

/-- The last character of a text is the last of each part that the text ends with. -/
theorem exists_append_of_concat_eq {front back : List Char} (heq : cs ++ [c] = front ++ back)
    (hne : back ≠ []) : ∃ behind, back = behind ++ [c] ∧ cs = front ++ behind := by
  rw [← List.dropLast_append_getLast hne, ← List.append_assoc] at heq
  obtain ⟨hfront, hlast⟩ := List.append_inj' heq rfl
  refine ⟨back.dropLast, ?_, hfront⟩
  rw [hlast, List.dropLast_append_getLast hne]

/-- The character that a comment ends with is no separator, unless it is the line feed behind a line
    comment, which may be left open. -/
theorem Gap.of_append_separator (hgap : Gap (cs ++ [c])) (hc : isSeparator c = true) :
    EndGap cs := by
  generalize hall : cs ++ [c] = all at hgap
  induction hgap generalizing cs with
  | nil => simp at hall
  | @separator d rest hd hrest ih =>
    cases cs with
    | nil => exact .gap .nil
    | cons e cs =>
      obtain ⟨rfl, rfl⟩ := List.cons.inj hall
      exact (Gap.separator hd .nil).append_endGap (ih rfl)
  | @line body rest hordinary hline hrest ih =>
    have hsplit : cs ++ [c] = ('/' :: '/' :: body) ++ '\n' :: rest := hall
    obtain ⟨behind, hbehind, rfl⟩ := exists_append_of_concat_eq hsplit (List.cons_ne_nil _ _)
    cases behind with
    | nil =>
      rw [List.append_nil]
      exact .line .nil hordinary hline
    | cons d behind =>
      obtain ⟨rfl, rfl⟩ := List.cons.inj hbehind
      have hcomment := (Gap.line hordinary hline .nil).append_endGap (ih rfl)
      simpa using hcomment
  | @block body rest hordinary hcloses hrest ih =>
    have hsplit : cs ++ [c] = ('/' :: '*' :: body) ++ rest := hall
    by_cases hnil : rest = []
    · obtain ⟨front, rfl⟩ := hcloses.exists_eq_append
      subst hnil
      have hslash : cs ++ [c] = ('/' :: '*' :: front ++ ['*']) ++ ['/'] := by simpa using hsplit
      obtain ⟨-, hlast⟩ := List.append_inj' hslash rfl
      obtain ⟨rfl, -⟩ := List.cons.inj hlast
      cases hc
    · obtain ⟨behind, rfl, rfl⟩ := exists_append_of_concat_eq hsplit hnil
      have hcomment := (Gap.block hordinary hcloses .nil).append_endGap (ih rfl)
      simpa using hcomment

theorem EndGap.of_append_separator (hend : EndGap (cs ++ [c])) (hc : isSeparator c = true) :
    EndGap cs := by
  generalize hall : cs ++ [c] = all at hend
  cases hend with
  | gap hgap => exact Gap.of_append_separator (hall ▸ hgap) hc
  | @line body front hfront hordinary hline =>
    obtain ⟨behind, hbehind, rfl⟩ := exists_append_of_concat_eq hall (List.cons_ne_nil _ _)
    match behind with
    | [] =>
      obtain ⟨rfl, -⟩ := List.cons.inj hbehind
      cases hc
    | [_] =>
      obtain ⟨-, hlast⟩ := List.cons.inj hbehind
      obtain ⟨rfl, -⟩ := List.cons.inj hlast
      cases hc
    | _ :: _ :: behind =>
      obtain ⟨rfl, hbody⟩ := List.cons.inj hbehind
      obtain ⟨rfl, rfl⟩ := List.cons.inj hbody
      have hmarks : ∀ d ∈ [c].head?, d ≠ '/' ∧ d ≠ '!' := by
        intro d hd
        exact ne_marks_of_isSeparator (Option.some.inj hd ▸ hc)
      refine .line hfront ((ordinaryLine_append_iff hmarks).mp hordinary) fun hmem => ?_
      exact hline (List.mem_append_left _ hmem)

end RetainerTable.Source
