import RetainerTable.Proofs.Files

/-!
Files side by side in one directory.

The steps of a joined path are those of the directory and then those of the name (`Path.steps_join`). So
different plain names in one directory lead to different files (`Files.eq_of_locate_join`), and a write
under one name leaves the text under another as it is (`Files.readText_of_writeText_sibling`).
-/

namespace RetainerTable

namespace Path

private theorem pieces_ne_nil (cs : List Char) : pieces cs ≠ [] := by
  cases cs with
  | nil => simp [pieces]
  | cons c cs =>
    unfold pieces
    split <;> simp

private theorem pieces_slash (cs : List Char) : pieces ('/' :: cs) = [] :: pieces cs := rfl

private theorem pieces_cons_of_ne {c : Char} {cs piece : List Char} {found : List (List Char)}
    (hc : c ≠ '/') (hcs : pieces cs = piece :: found) :
    pieces (c :: cs) = (c :: piece) :: found := by
  unfold pieces
  rw [hcs]
  split
  next => exact absurd rfl hc
  next heq => rw [(List.cons.inj heq).1, (List.cons.inj heq).2]
  next heq => cases heq

/-- A slash parts the pieces in front of it from those behind it. -/
theorem pieces_append_slash (front behind : List Char) :
    pieces (front ++ '/' :: behind) = pieces front ++ pieces behind := by
  induction front with
  | nil => exact pieces_slash behind
  | cons c front ih =>
    by_cases hc : c = '/'
    · rw [hc, List.cons_append, pieces_slash, pieces_slash, ih, List.cons_append]
    · obtain ⟨piece, found, hfound⟩ := List.exists_cons_of_ne_nil (pieces_ne_nil front)
      rw [pieces_cons_of_ne hc hfound, List.cons_append]
      rw [hfound, List.cons_append] at ih
      exact pieces_cons_of_ne hc ih

private theorem pieces_of_notMem {cs : List Char} (hcs : '/' ∉ cs) : pieces cs = [cs] := by
  induction cs with
  | nil => rfl
  | cons c cs ih =>
    obtain ⟨hc, hcs⟩ := not_or.mp (mt List.mem_cons.mpr hcs)
    exact pieces_cons_of_ne (Ne.symm hc) (ih hcs)

/-- The steps along pieces, dots included. -/
theorem steps_eq (path : String) :
    steps path = ((pieces path.toList).filter (· ≠ [])).map String.ofList := rfl

/-- A name without slashes is one step, unless it is empty. -/
theorem steps_of_plain {name : String} (hplain : '/' ∉ name.toList) (hname : name ≠ "") :
    steps name = [name] := by
  have hne : name.toList ≠ [] := by simpa using hname
  simp [steps_eq, pieces_of_notMem hplain, hne]

private theorem isAbsolute_of_plain {name : String} (hplain : '/' ∉ name.toList) :
    isAbsolute name = false := by
  rw [isAbsolute, decide_eq_false_iff_not]
  intro hhead
  exact hplain (List.mem_of_mem_head? hhead)

/-- Behind a base, a relative path begins behind a slash of the base or a new one. -/
theorem exists_join {base path : String} (hrelative : isAbsolute path = false) (hbase : base ≠ "") :
    ∃ front : List Char, (join base path).toList = front ++ '/' :: path.toList ∧
      (base.toList = front ∨ base.toList = front ++ ['/']) := by
  rw [join, hrelative, Bool.false_or, decide_eq_false hbase, if_neg Bool.false_ne_true]
  split
  next hlast =>
    obtain ⟨front, hfront⟩ := List.getLast?_eq_some_iff.mp hlast
    exact ⟨front, by simp [hfront], .inr hfront⟩
  next => exact ⟨base.toList, by simp, .inl rfl⟩

/-- A relative path leads on from where the base leads. -/
theorem steps_join {base path : String} (hrelative : isAbsolute path = false) :
    steps (join base path) = steps base ++ steps path := by
  by_cases hbase : base = ""
  · rw [join, hbase]
    simp [steps_eq, pieces]
  · obtain ⟨front, hjoin, hfront⟩ := exists_join hrelative hbase
    rw [steps_eq, hjoin, pieces_append_slash, steps_eq, steps_eq]
    rcases hfront with hfront | hfront
    · simp [hfront]
    · simp [hfront, pieces_append_slash, pieces]

private theorem isAbsolute_join {base path : String} (hrelative : isAbsolute path = false) :
    isAbsolute (join base path) = isAbsolute base := by
  by_cases hbase : base = ""
  · rw [join, hbase, hrelative]
    simpa [isAbsolute] using hrelative
  · obtain ⟨front, hjoin, hfront⟩ := exists_join hrelative hbase
    have hne : base.toList ≠ [] := by simpa using hbase
    rw [isAbsolute, isAbsolute, hjoin]
    rcases hfront with hfront | hfront
    · rw [← hfront, List.head?_append, Option.or_of_isSome (List.isSome_head?.mpr hne)]
    · rw [hfront]
      cases front <;> simp

end Path

namespace Files

variable {files after : Files} {here place directory : Place} {base name other text source : String}

private theorem walk_append (files : Files) (here : Place) (steps more : List String) :
    files.walk here (steps ++ more) = (files.walk here steps).bind (files.walk · more) := by
  induction steps generalizing here with
  | nil => rfl
  | cons step steps ih =>
    rw [List.cons_append, walk, walk]
    split
    · rfl
    · rfl
    · split
      · exact ih here
      · split
        · exact ih here.dropLast
        · split
          · rfl
          · exact ih (here ++ [step])

/-- A step starts in a directory: it stays there, leads to the one around it, or to what is in it. -/
theorem walk_step (hwalk : files.walk directory [name] = .ok place) :
    files.at? directory = some .directory ∧
      (place = directory ∨ name = ".." ∧ place = directory.dropLast ∨ place = directory ++ [name]) := by
  rw [walk] at hwalk
  split at hwalk
  next => cases hwalk
  next => cases hwalk
  next hdirectory =>
    refine ⟨hdirectory, ?_⟩
    split at hwalk
    next => exact .inl (Except.ok.inj hwalk).symm
    next =>
      split at hwalk
      next hup => exact .inr (.inl ⟨hup, (Except.ok.inj hwalk).symm⟩)
      next =>
        split at hwalk
        next => cases hwalk
        next => exact .inr (.inr (Except.ok.inj hwalk).symm)

private theorem walk_of_locate {path : String} {target : Destination}
    (hlocate : files.locate here path = .ok target) :
    path.toList ≠ [] ∧ target.slashed = decide (path.toList.getLast? = some '/') ∧
      files.walk (if Path.isAbsolute path then [] else here) (Path.steps path) = .ok target.place := by
  unfold locate at hlocate
  dsimp only at hlocate
  split at hlocate
  next => cases hlocate
  next hne =>
    split at hlocate
    next => cases hlocate
    next =>
      split at hlocate
      next => cases hlocate
      next =>
        split at hlocate
        next => cases hlocate
        next hwalk =>
          cases hlocate
          exact ⟨hne, rfl, hwalk⟩

/-- A path to a file with a plain name ends with a step along the name. -/
theorem exists_walk_of_locate_join (hplain : '/' ∉ name.toList)
    (hlocate : files.locate here (Path.join base name) = .ok ⟨place, false⟩) :
    ∃ directory, files.walk (if Path.isAbsolute base then [] else here) (Path.steps base) =
        .ok directory ∧ files.walk directory [name] = .ok place := by
  have hrelative := Path.isAbsolute_of_plain hplain
  obtain ⟨hpath, hslashed, hwalk⟩ := walk_of_locate hlocate
  have hname : name ≠ "" := by
    rintro rfl
    by_cases hbase : base = ""
    · exact hpath (by simp [Path.join, hbase])
    · obtain ⟨front, hjoin, -⟩ := Path.exists_join hrelative hbase
      simp [hjoin] at hslashed
  rw [Path.isAbsolute_join hrelative, Path.steps_join hrelative, Path.steps_of_plain hplain hname,
    walk_append] at hwalk
  cases hdirectory :
      files.walk (if Path.isAbsolute base then [] else here) (Path.steps base) with
  | error fault =>
    rw [hdirectory] at hwalk
    cases hwalk
  | ok directory =>
    rw [hdirectory] at hwalk
    exact ⟨directory, rfl, hwalk⟩

/-- Different plain names in one directory do not lead to one file. -/
theorem eq_of_locate_join (hplain : '/' ∉ name.toList) (hplain' : '/' ∉ other.toList)
    (hlocate : files.locate here (Path.join base name) = .ok ⟨place, false⟩)
    (hlocate' : files.locate here (Path.join base other) = .ok ⟨place, false⟩)
    (hfile : files.at? place ≠ some .directory) : name = other := by
  obtain ⟨directory, hdirectory, hwalk⟩ := exists_walk_of_locate_join hplain hlocate
  obtain ⟨directory', hdirectory', hwalk'⟩ := exists_walk_of_locate_join hplain' hlocate'
  obtain rfl : directory = directory' := Except.ok.inj (hdirectory.symm.trans hdirectory')
  obtain ⟨hat, hstep⟩ := walk_step hwalk
  obtain ⟨-, hstep'⟩ := walk_step hwalk'
  have hleft : place ≠ directory := fun heq => hfile (heq ▸ hat)
  -- The directory around this one has a shorter way from the root, and what is in it has a longer.
  have hshort : directory.dropLast.length ≤ directory.length := by simp
  rcases hstep with heq | ⟨rfl, hup⟩ | hin
  · exact absurd heq hleft
  · rcases hstep' with heq | ⟨rfl, -⟩ | hin'
    · exact absurd heq hleft
    · rfl
    · have hlength := congrArg List.length (hup.symm.trans hin')
      rw [List.length_append, List.length_singleton] at hlength
      omega
  · rcases hstep' with heq | ⟨-, hup'⟩ | hin'
    · exact absurd heq hleft
    · have hlength := congrArg List.length (hup'.symm.trans hin)
      rw [List.length_append, List.length_singleton] at hlength
      omega
    · exact (List.cons.inj (List.append_cancel_left (hin.symm.trans hin'))).1

/-- A file that can be read is at the place that its path leads to. -/
theorem exists_of_readText (hread : files.readText here name = .ok text) :
    ∃ place, files.locate here name = .ok ⟨place, false⟩ ∧
      files.at? place = some (.file text.toUTF8) := by
  have hbytes := readText_eq_ok_iff.mp hread
  unfold readBytes at hbytes
  cases hlocate : files.locate here name with
  | error fault => simp [hlocate] at hbytes
  | ok target =>
    obtain ⟨place, slashed⟩ := target
    rw [hlocate] at hbytes
    dsimp only at hbytes
    split at hbytes
    next => cases hbytes
    next => cases hbytes
    next content hat =>
      cases slashed with
      | true => simp at hbytes
      | false =>
        obtain rfl : content = text.toUTF8 := by simpa using hbytes
        exact ⟨place, rfl, hat⟩

/-- A file that holds the text is as if it had just been written. -/
theorem wrote_of_readText (hread : files.readText here name = .ok text) :
    files.Wrote here name text.toUTF8 files := by
  obtain ⟨place, hlocate, hat⟩ := exists_of_readText hread
  exact ⟨place, hlocate, contentAt?_eq_some_iff.mpr hat, fun _ _ => rfl⟩

/-- Text that is written can be read. -/
theorem readText_of_writeText (hwrite : files.writeText here name source = .ok after) :
    after.readText here name = .ok source :=
  readText_eq_ok_iff.mpr (readBytes_of_writeBytes hwrite)

/-- A write under a plain name leaves the text under another as it is. -/
theorem readText_of_writeText_sibling (hplain : '/' ∉ name.toList) (hplain' : '/' ∉ other.toList)
    (hne : name ≠ other) (hread : files.readText here (Path.join base name) = .ok text)
    (hwrite : files.writeText here (Path.join base other) source = .ok after) :
    after.readText here (Path.join base name) = .ok text := by
  obtain ⟨place, hlocate, hat⟩ := exists_of_readText hread
  obtain ⟨place', hlocate', hroot, hfile, rfl⟩ := exists_of_writeBytes hwrite
  have hplaces : place ≠ place' := by
    rintro rfl
    exact hne (eq_of_locate_join hplain hplain' hlocate hlocate' hfile)
  rw [readText_eq_ok_iff, readBytes, locate_put_file _ hfile hlocate]
  dsimp only
  rw [at?_put, if_neg fun h => hplaces h.2, hat]
  rfl

end Files

end RetainerTable
