import Mathlib.Algebra.GroupWithZero.Nat
import Mathlib.Data.List.Basic
import RetainerTable.Proofs.Text.Hex
import RetainerTable.Text.Escape
import RetainerTable.Text.Lines

namespace RetainerTable.Text

/-- The lines that begin with what is read of the first of them, the latest character first. Each
    ends at a line feed; what follows the last line feed is a line if there is anything. -/
def linesFrom (begun : List Char) : List Char → List (List Char)
  | [] => if begun = [] then [] else [begun.reverse]
  | c :: cs => if c = '\n' then begun.reverse :: linesFrom [] cs else linesFrom (c :: begun) cs

/-- The lines of a text. -/
def lines (cs : List Char) : List (List Char) := linesFrom [] cs

/-- What follows a number of lines. -/
def afterLines : Nat → List Char → List Char
  | 0, cs => cs
  | count + 1, cs => afterLines count ((cs.dropWhile (· ≠ '\n')).drop 1)

/-- The text after a beginning, if it begins so. -/
def after? (beginning cs : List Char) : Option (List Char) :=
  if beginning <+: cs then some (cs.drop beginning.length) else none

@[simp] theorem after?_append (beginning rest : List Char) :
    after? beginning (beginning ++ rest) = some rest := by
  simp [after?]

theorem forall_ne_of_notMem {stop : Char} {cs : List Char} (hstop : stop ∉ cs) :
    ∀ c ∈ cs, decide (c ≠ stop) = true := by
  intro c hc
  have hne : c ≠ stop := by
    intro heq
    exact hstop (heq ▸ hc)
  exact decide_eq_true hne

private theorem linesFrom_append {line : List Char} (hline : '\n' ∉ line) (begun rest : List Char) :
    linesFrom begun (line ++ rest) = linesFrom (line.reverse ++ begun) rest := by
  induction line generalizing begun with
  | nil => rfl
  | cons c line ih =>
    obtain ⟨hc, hline⟩ := not_or.mp (mt List.mem_cons.mpr hline)
    rw [List.cons_append, linesFrom, if_neg (Ne.symm hc), ih hline, List.reverse_cons,
      List.append_assoc]
    rfl

private theorem toList_unlines_cons (line : String) (rest : List String) :
    (unlines (line :: rest)).toList = line.toList ++ '\n' :: (unlines rest).toList := by
  simp [unlines_cons]

/-- A text made of lines has these lines. -/
theorem lines_unlines {texts : List String} (htexts : ∀ text ∈ texts, '\n' ∉ text.toList) :
    lines (unlines texts).toList = texts.map String.toList := by
  induction texts with
  | nil => rfl
  | cons text texts ih =>
    obtain ⟨htext, hrest⟩ := List.forall_mem_cons.mp htexts
    have hlines := ih hrest
    unfold lines at hlines ⊢
    rw [toList_unlines_cons, linesFrom_append htext, linesFrom, if_pos rfl, hlines]
    simp

private theorem length_linesFrom_append (begun cs rest : List Char) :
    (linesFrom begun (cs ++ '\n' :: rest)).length =
      cs.count '\n' + 1 + (linesFrom [] rest).length := by
  induction cs generalizing begun with
  | nil =>
    rw [List.nil_append, linesFrom, if_pos rfl, List.length_cons, List.count_nil]
    omega
  | cons c cs ih =>
    rw [List.cons_append, linesFrom]
    split
    next hfeed =>
      rw [List.length_cons, ih, hfeed, List.count_cons_self]
      omega
    next hfeed => rw [ih, List.count_cons_of_ne hfeed]

/-- A text has a line for each that it is made of and one more for every line feed in them. -/
theorem length_lines_unlines (texts : List String) : (lines (unlines texts).toList).length =
    texts.length + (texts.map fun text => text.toList.count '\n').sum := by
  induction texts with
  | nil => rfl
  | cons text texts ih =>
    unfold lines at ih ⊢
    rw [toList_unlines_cons, length_linesFrom_append, ih, List.length_cons, List.map_cons,
      List.sum_cons]
    omega

theorem afterLines_unlines {texts : List String} (htexts : ∀ text ∈ texts, '\n' ∉ text.toList)
    (rest : List Char) : afterLines texts.length ((unlines texts).toList ++ rest) = rest := by
  induction texts with
  | nil => rfl
  | cons text texts ih =>
    obtain ⟨htext, hrest⟩ := List.forall_mem_cons.mp htexts
    have hdrop := ih hrest
    rw [toList_unlines_cons, List.length_cons, afterLines, List.append_assoc,
      List.dropWhile_append_of_pos (forall_ne_of_notMem htext)]
    simpa using hdrop

private theorem digitChar_ne_newline : ∀ digit < 16, Nat.digitChar digit ≠ '\n' := by
  decide

theorem newline_notMem_toDigits {base : Nat} (hlower : 1 < base) (hupper : base ≤ 16) (n : Nat) :
    '\n' ∉ Nat.toDigits base n := by
  intro hmem
  obtain ⟨digit, hdigit, heq⟩ := exists_digitChar_of_mem_toDigits hlower hmem
  exact digitChar_ne_newline digit (by omega) heq.symm

private theorem newline_notMem_escapeChar (style : EscapeStyle) (leads : Bool) (c : Char) :
    '\n' ∉ escapeChar style leads c := by
  unfold escapeChar
  split
  next => decide
  next =>
    split
    next => decide
    next =>
      split
      next => decide
      next =>
        split
        next => decide
        next hfeed =>
          split
          next => simpa [eq_comm] using hfeed
          next =>
            split
            next => simp [escapeCode, newline_notMem_toDigits (by decide : 1 < 16) (by decide)]
            next => simpa [eq_comm] using hfeed

private theorem newline_notMem_escapeChars (style : EscapeStyle) (cs : List Char) :
    '\n' ∉ escapeChars style cs := by
  cases cs with
  | nil => exact List.not_mem_nil
  | cons c cs =>
    intro hmem
    rcases List.mem_append.mp hmem with hmem | hmem
    · exact newline_notMem_escapeChar style true c hmem
    · obtain ⟨d, -, hd⟩ := List.mem_flatMap.mp hmem
      exact newline_notMem_escapeChar style false d hd

theorem newline_notMem_literal (text : String) : '\n' ∉ (literal text).toList := by
  simp [literal, newline_notMem_escapeChars]

theorem newline_notMem_inComment (text : String) : '\n' ∉ (inComment text).toList := by
  simp [inComment, newline_notMem_escapeChars]

end RetainerTable.Text
