import Mathlib.Data.List.Forall2
import RetainerTable.Proofs.Associations.Collection
import RetainerTable.Proofs.Source.Layout

/-!
Which texts name the same retainer.

How a text is laid out makes no difference to the retainer, while every identifier makes one as it is
spelled (`retainer?_spellings`). The raw marker is part of the spelling, though in front of most names
it means nothing to the language: pairs that repeat an association in such a spelling are refused
(`collect_respelled`).
-/

namespace RetainerTable.Source

/-- The identifiers name the same. The raw marker makes a difference in front of a keyword only. -/
def Identifier.SameName (first second : Identifier) : Prop :=
  first.name = second.name ∧ (first.name ∈ keywords → first.raw = second.raw)

namespace Path

/-- The paths lead to the same place. -/
structure SamePlace (first second : Path) : Prop where
  rooted : first.rooted = second.rooted
  segments : List.Forall₂ Identifier.SameName first.segments second.segments

theorem SamePlace.symm {first second : Path} (hsame : first.SamePlace second) :
    second.SamePlace first where
  rooted := hsame.rooted.symm
  segments := (hsame.segments.imp fun _ _ hname =>
    ⟨hname.1.symm, fun hkeyword => (hname.2 (hname.1 ▸ hkeyword)).symm⟩).flip

theorem SamePlace.refl (path : Path) : path.SamePlace path :=
  ⟨rfl, List.forall₂_same.mpr fun _ _ => ⟨rfl, fun _ => rfl⟩⟩

/-- Which segments are spelled with the raw marker. -/
def markers (path : Path) : List Bool :=
  path.segments.map Identifier.raw

private theorem eq_of_parts {first second : Path} (hrooted : first.rooted = second.rooted)
    (hsegments : first.segments = second.segments) : first = second := by
  obtain ⟨rooted, segments⟩ := first
  obtain ⟨rooted', segments'⟩ := second
  exact congrArg₂ mk hrooted hsegments

private theorem eq_of_sameName {first second : List Identifier}
    (hsame : List.Forall₂ Identifier.SameName first second)
    (hmarkers : first.map Identifier.raw = second.map Identifier.raw) : first = second := by
  induction hsame with
  | nil => rfl
  | @cons ident other idents others hname _ ih =>
    obtain ⟨hraw, hmarkers⟩ := List.cons.inj hmarkers
    have hident : ident = other := by
      obtain ⟨raw, name⟩ := ident
      obtain ⟨raw', name'⟩ := other
      exact congrArg₂ Identifier.mk hraw hname.1
    rw [hident, ih hmarkers]

private theorem SamePlace.eq_iff {first second : Path} (hsame : first.SamePlace second) :
    first = second ↔ first.markers = second.markers := by
  constructor
  · rintro rfl
    rfl
  · intro hmarkers
    obtain ⟨hrooted, hsegments⟩ := hsame
    exact eq_of_parts hrooted (eq_of_sameName hsegments hmarkers)

end Path

end RetainerTable.Source

namespace RetainerTable.Associations

open RetainerTable.Text RetainerTable.Source

variable {text other : String} {path path' : Source.Path} {pairs : List (String × String)}

/-- Texts that are laid out with the pieces of a path name the retainer. -/
theorem retainer?_of_laidOut (hpath : path.Readable) (hlaid : LaidOut path.pieces other.toList) :
    retainer? other = some path := by
  rw [← laidOut_trimChars_iff hpath.solid] at hlaid
  refine retainer?_eq_some_iff.mpr ⟨hpath, ?_⟩
  rwa [Path.withoutMark_of_head?_ne (hpath.head?_ne_mark hlaid)]

private theorem laidOut_of_retainer? (hread : retainer? text = some path)
    (hmark : (trimChars text.toList).head? ≠ some '\ufeff') : LaidOut path.pieces text.toList := by
  obtain ⟨hpath, hlaid⟩ := retainer?_eq_some_iff.mp hread
  rwa [Path.withoutMark_of_head?_ne hmark, laidOut_trimChars_iff hpath.solid] at hlaid

private theorem text_eq_iff_of_retainer? (hread : retainer? text = some path)
    (hother : retainer? other = some path') :
    path.text = path'.text ↔ path.rooted = path'.rooted ∧ path.segments = path'.segments := by
  constructor
  · intro htext
    obtain rfl := Path.text_injective (Path.wellSpelled_of_parse? hread)
      (Path.wellSpelled_of_parse? hother) htext
    exact ⟨rfl, rfl⟩
  · rintro ⟨hrooted, hsegments⟩
    rw [Path.eq_of_parts hrooted hsegments]

/-- What was read can be spelled with the pieces of its path alone, and is read again from that
    spelling. The trimmed text is laid out with these pieces behind a byte order mark, or with no mark in
    front of it, and then so is the text itself. Every text laid out with them is read alike, whatever
    the gaps. Two texts that were read have the same spelling if both or neither are rooted and their
    identifiers are the same, and only then. The spelling holds identifiers and pairs of colons, so no
    separating character, no comment and no argument in brackets. -/
theorem retainer?_spellings (hread : retainer? text = some path) :
    retainer? path.text = some path ∧
    LaidOut path.pieces (Path.withoutMark (trimChars text.toList)) ∧
    ((trimChars text.toList).head? ≠ some '\ufeff' → LaidOut path.pieces text.toList) ∧
    (∀ other : String, LaidOut path.pieces other.toList → retainer? other = some path) ∧
    (∀ other path', retainer? other = some path' → (path.text = path'.text ↔
      path.rooted = path'.rooted ∧ path.segments = path'.segments)) ∧
    path.text.toList = path.pieces.flatten ∧
    (∀ piece ∈ path.pieces, piece = [':', ':'] ∨
      ∃ ident ∈ path.segments, ident.Readable ∧ piece = ident.text.toList) ∧
    ∀ c ∈ path.text.toList, isSeparator c = false ∧ c ∉ "/<>()".toList := by
  have hpath : path.Readable := Path.readable_of_parse? hread
  refine ⟨retainer?_text hread, (retainer?_eq_some_iff.mp hread).2, laidOut_of_retainer? hread,
    fun other => retainer?_of_laidOut hpath, fun other path' => text_eq_iff_of_retainer? hread,
    path.flatten_pieces.symm, fun piece hpiece => ?_,
    fun c hc => ⟨hpath.wellSpelled.isSeparator_eq_false hc, fun hmem => ?_⟩⟩
  · obtain hcolons | ⟨ident, hident, htext⟩ := Path.mem_pieces hpiece
    · exact .inl hcolons
    · exact .inr ⟨ident, hident, (hpath.segments ident hident).1, htext⟩
  · have houtside : "/<>()".toList.all
        (fun c => inRanges outsideRanges c && c != '#' && c != ':') = true := by
      decide
    have hmarks := List.all_eq_true.mp houtside c hmem
    simp only [Bool.and_eq_true, bne_iff_ne] at hmarks
    obtain ⟨⟨hc', hhash⟩, hcolon⟩ := hmarks
    exact Path.notMem_text hpath.wellSpelled (isIdentContinue_of_outside hc') hhash hcolon hc

def rawRetainer : Source.Path := ⟨true, [⟨false, "a"⟩, ⟨true, "fn"⟩]⟩

/-- The retainer is read from a text with comments, and so it is from one with line feeds. -/
theorem retainer?_spellings_commented :
    retainer? " ::a/* /**/ */:: // b\n r#fn // c" = some rawRetainer ∧
    LaidOut rawRetainer.pieces "\n::\na::r#fn".toList ∧
    retainer? "\n::\na::r#fn" = some rawRetainer := by
  have hread : retainer? " ::a/* /**/ */:: // b\n r#fn // c" = some rawRetainer := by decide +kernel
  have hlaid : LaidOut rawRetainer.pieces "\n::\na::r#fn".toList := by
    have hfeed : Gap ['\n'] := .separator isSeparator_newline .nil
    exact @LaidOut.cons _ [':', ':'] _ _ hfeed <| @LaidOut.cons _ ['a'] _ _ hfeed <|
      @LaidOut.cons _ [':', ':'] _ _ .nil <| @LaidOut.cons _ "r#fn".toList _ _ .nil <| .nil (.gap .nil)
  obtain ⟨-, -, -, halike, -⟩ := retainer?_spellings hread
  exact ⟨hread, hlaid, halike _ hlaid⟩

/-- Leading blanks are trimmed off a byte order mark, and no comment is: a text that begins with a
    blank is read, and is not behind a comment. -/
theorem retainer?_behind_mark :
    retainer? " \ufeffa::b" = some ⟨false, [⟨false, "a"⟩, ⟨false, "b"⟩]⟩ ∧
    " \ufeffa::b".toList.head? = some ' ' ∧ Gap "/*x*/".toList ∧
    retainer? ("/*x*/" ++ " \ufeffa::b") = none := by
  refine ⟨by decide +kernel, by decide, ?_, by decide +kernel⟩
  have hcloses : Closes 0 "x*/".toList := .other (by decide) (by decide) .closing
  exact @Gap.block "x*/".toList _ (by decide) hcloses .nil

/-- Pairs that all name a type and spell a path, and that say the same where they repeat a type. -/
structure Repeating (pairs : List (String × String)) : Prop where
  named : ∀ pair ∈ pairs, trim pair.1 ≠ ""
  spelled : ∀ pair ∈ pairs, ∃ retainer, retainer? pair.2 = some retainer
  samePlace : ∀ first ∈ pairs, ∀ second ∈ pairs, trim first.1 = trim second.1 →
    ∀ path ∈ retainer? first.2, ∀ path' ∈ retainer? second.2, path.SamePlace path'

private theorem Repeating.text_eq_iff (hpairs : Repeating pairs) {first second : String × String}
    (hfirst : first ∈ pairs) (hsecond : second ∈ pairs) (hname : trim first.1 = trim second.1)
    (hpath : retainer? first.2 = some path) (hpath' : retainer? second.2 = some path') :
    path.text = path'.text ↔ path.markers = path'.markers := by
  rw [← (hpairs.samePlace first hfirst second hsecond hname path hpath path' hpath').eq_iff,
    text_eq_iff_of_retainer? hpath hpath']
  constructor
  · rintro ⟨hrooted, hsegments⟩
    exact Path.eq_of_parts hrooted hsegments
  · rintro rfl
    exact ⟨rfl, rfl⟩

private theorem Repeating.collectible_iff (hpairs : Repeating pairs) : Collectible pairs ↔
    ∀ first ∈ pairs, ∀ second ∈ pairs, trim first.1 = trim second.1 →
      (retainer? first.2).map Path.markers = (retainer? second.2).map Path.markers := by
  constructor
  · intro hcollectible first hfirst second hsecond hname
    rw [hcollectible.consistent first hfirst second hsecond hname]
  · intro hmarkers
    refine ⟨hpairs.named, hpairs.spelled, fun first hfirst second hsecond hname => ?_⟩
    obtain ⟨path, hpath⟩ := hpairs.spelled first hfirst
    obtain ⟨path', hpath'⟩ := hpairs.spelled second hsecond
    have hsame := hpairs.samePlace first hfirst second hsecond hname path hpath path' hpath'
    have hraw := hmarkers first hfirst second hsecond hname
    rw [hpath, hpath', Option.map_some, Option.map_some] at hraw
    rw [hpath, hpath', hsame.eq_iff.mpr (Option.some.inj hraw)]

/-- Only a raw marker is complained of. -/
theorem Repeating.conflict {error : Error} (hpairs : Repeating pairs)
    (hrefused : collect pairs = .error error) : ∃ name existing incoming,
      error = .conflictingRetainers name existing incoming ∧ existing.SamePlace incoming ∧
        existing.markers ≠ incoming.markers := by
  obtain ⟨before, pair, after, rfl, -, hbreaks⟩ := collect_eq_error_iff.mp hrefused
  have hpair : pair ∈ before ++ pair :: after := by simp
  cases hbreaks with
  | emptyTypeName hblank => exact absurd hblank (hpairs.named pair hpair)
  | invalidRetainer _ hunread =>
    obtain ⟨retainer, hretainer⟩ := hpairs.spelled pair hpair
    rw [hunread] at hretainer
    cases hretainer
  | @conflictingRetainers first existing incoming hnamed hincoming hfirst hexisting hdiffer =>
    have hmem := List.mem_append_left (pair :: after) (List.mem_of_find?_eq_some hfirst)
    have hname : trim first.1 = trim pair.1 := by simpa using List.find?_some hfirst
    have hsame := hpairs.samePlace first hmem pair hpair hname existing hexisting incoming hincoming
    exact ⟨_, existing, incoming, rfl, hsame, fun hmarkers => hdiffer (hsame.eq_iff.mpr hmarkers)⟩

/-- Pairs that only repeat what they say of a type, in whatever layout and with raw markers wherever
    the language lets them be put or left out, are collected if they agree in these markers, and only
    then. The spellings of the retainers tell them apart by nothing else, and what is complained of is
    always such a marker. -/
theorem collect_respelled (hpairs : Repeating pairs) :
    (∀ first ∈ pairs, ∀ second ∈ pairs, trim first.1 = trim second.1 →
      ∀ path ∈ retainer? first.2, ∀ path' ∈ retainer? second.2,
        (path.text = path'.text ↔ path.markers = path'.markers)) ∧
    ((∃ associations, collect pairs = .ok associations) ↔
      ∀ first ∈ pairs, ∀ second ∈ pairs, trim first.1 = trim second.1 →
        (retainer? first.2).map Path.markers = (retainer? second.2).map Path.markers) ∧
    ∀ error, collect pairs = .error error → ∃ name existing incoming,
      error = .conflictingRetainers name existing incoming ∧ existing.SamePlace incoming ∧
        existing.markers ≠ incoming.markers :=
  ⟨fun _ hfirst _ hsecond hname _ hpath _ => hpairs.text_eq_iff hfirst hsecond hname hpath,
    exists_collect_iff.trans hpairs.collectible_iff, fun _ => hpairs.conflict⟩

def plainPath : Source.Path := ⟨false, [⟨false, "a"⟩, ⟨false, "B"⟩]⟩

def markedPath : Source.Path := ⟨false, [⟨true, "a"⟩, ⟨false, "B"⟩]⟩

private theorem retainer?_plain_marked : retainer? "a::B" = some plainPath ∧
    retainer? "a /* b */:: B" = some plainPath ∧ retainer? "r#a::B" = some markedPath := by
  decide +kernel

/-- Both pairs of one type say the same, and in the same spelling; the raw marker is another type's. -/
theorem collect_respelled_agreeing : ∃ associations,
    collect [("T", "a::B"), (" T", "a /* b */:: B"), ("U", "r#a::B")] = .ok associations := by
  have htrim : trim "T" = "T" ∧ trim " T" = "T" ∧ trim "U" = "U" := by decide +kernel
  obtain ⟨hplain, hspaced, hmarked⟩ := retainer?_plain_marked
  have hpairs : Repeating [("T", "a::B"), (" T", "a /* b */:: B"), ("U", "r#a::B")] := by
    refine ⟨?_, ?_, ?_⟩
    · simp [htrim]
    · simp [hplain, hspaced, hmarked]
    · simp [htrim, hplain, hspaced, hmarked, Path.SamePlace.refl]
  refine (collect_respelled hpairs).2.1.mpr ?_
  simp [htrim, hplain, hspaced, hmarked]

/-- No name but that of a keyword changes with the raw marker, so both pairs say the same; still they
    are refused. -/
theorem collect_plain_marked : Repeating [("T", "a::B"), ("T", "r#a::B")] ∧
    plainPath.text ≠ markedPath.text ∧
    collect [("T", "a::B"), ("T", "r#a::B")] =
      .error (.conflictingRetainers "T" plainPath markedPath) := by
  have htrim : trim "T" = "T" := by decide +kernel
  obtain ⟨hplain, -, hmarked⟩ := retainer?_plain_marked
  have hfree : "a" ∉ keywords := by decide
  have hpath : plainPath.SamePlace markedPath :=
    ⟨rfl, .cons ⟨rfl, fun hkeyword => absurd hkeyword hfree⟩ (.cons ⟨rfl, fun _ => rfl⟩ .nil)⟩
  refine ⟨⟨?_, ?_, ?_⟩, by decide, collect_eq_error_iff.mpr ⟨[("T", "a::B")], ("T", "r#a::B"), [], rfl,
    ⟨?_, ?_, ?_⟩, ?_⟩⟩
  · simp [htrim]
  · simp [hplain, hmarked]
  · simp [hplain, hmarked, hpath, hpath.symm, Path.SamePlace.refl]
  · simp [htrim]
  · simp [hplain]
  · simp
  · have hfirst : [("T", "a::B")].find? (fun earlier => trim earlier.1 = trim "T") =
        some ("T", "a::B") := by simp
    have hbreaks : Breaks [("T", "a::B")] ("T", "r#a::B")
        (.conflictingRetainers (trim "T") plainPath markedPath) :=
      .conflictingRetainers (by simp [htrim]) hmarked hfirst hplain (by decide)
    rwa [htrim] at hbreaks

end RetainerTable.Associations
