import RetainerTable.Loading

namespace RetainerTable

variable {files : Files} {here : Place} {path text : String}

namespace Files

private theorem fromUTF8?_eq_some_iff {bytes : ByteArray} :
    String.fromUTF8? bytes = some text ↔ bytes = text.toUTF8 := by
  constructor
  · intro h
    unfold String.fromUTF8? at h
    split at h
    · cases h
      rfl
    · cases h
  · rintro rfl
    rw [String.fromUTF8?, String.toUTF8_eq_toByteArray, dif_pos text.isValidUTF8]
    rfl

/-- The text of a file is the one that its bytes spell. -/
theorem readText_eq_ok_iff :
    files.readText here path = .ok text ↔ files.readBytes here path = .ok text.toUTF8 := by
  unfold readText
  cases files.readBytes here path with
  | error fault => simp
  | ok bytes =>
    simp only [Except.ok.injEq, ← fromUTF8?_eq_some_iff]
    cases String.fromUTF8? bytes <;> simp

theorem run_readText (files : Files) (here : Place) (path : String) :
    ((access here).readText path).run files = pure (files.readText here path, files) := rfl

theorem run_writeText (files : Files) (here : Place) (path text : String) :
    ((access here).writeText path text).run files =
      pure (match files.writeText here path text with
        | .ok after => (.ok (), after)
        | .error fault => (.error fault, files)) := rfl

theorem run_isPresent (files : Files) (here : Place) (path : String) :
    ((access here).isPresent path).run files = pure (files.isPresent here path, files) := rfl

theorem run_makeDirectories (files : Files) (here : Place) (path : String) :
    ((access here).makeDirectories path).run files =
      pure (match files.makeDirectories here path with
        | .ok after => (.ok (), after)
        | .error (fault, after) => (.error fault, after)) := rfl

/-- The bytes of the file at a place, if a file is there. -/
def contentAt? (files : Files) (place : Place) : Option ByteArray :=
  match files.at? place with
  | some (.file content) => some content
  | some .directory | none => none

/-- The same files are there before and after, each with the same bytes. There may be more
    directories. -/
def SameContents (before after : Files) : Prop :=
  ∀ place, after.contentAt? place = before.contentAt? place

/-- The path leads to a file of these bytes, and every other file is as it was before. -/
def Wrote (before : Files) (here : Place) (path : String) (content : ByteArray) (after : Files) :
    Prop :=
  ∃ place, after.locate here path = .ok ⟨place, false⟩ ∧ after.contentAt? place = some content ∧
    ∀ other, other ≠ place → after.contentAt? other = before.contentAt? other

section Contents

variable {between after : Files} {place : Place} {content : ByteArray}

theorem contentAt?_eq_some_iff :
    files.contentAt? place = some content ↔ files.at? place = some (.file content) := by
  unfold contentAt?
  split <;> simp_all

theorem SameContents.refl (files : Files) : files.SameContents files := fun _ => rfl

theorem SameContents.trans (hfirst : files.SameContents between)
    (hsecond : between.SameContents after) : files.SameContents after :=
  fun place => (hsecond place).trans (hfirst place)

theorem SameContents.wrote (hsame : files.SameContents between)
    (hwrote : between.Wrote here path content after) : files.Wrote here path content after := by
  obtain ⟨place, hlocate, hcontent, hothers⟩ := hwrote
  exact ⟨place, hlocate, hcontent, fun other hne => (hothers other hne).trans (hsame other)⟩

theorem Wrote.readBytes (hwrote : files.Wrote here path content after) :
    after.readBytes here path = .ok content := by
  obtain ⟨place, hlocate, hcontent, -⟩ := hwrote
  simp [Files.readBytes, hlocate, contentAt?_eq_some_iff.mp hcontent]

/-- A new directory changes no file. -/
theorem sameContents_put_directory (hfree : files.at? place = none) :
    files.SameContents (files.put place .directory) := by
  intro query
  by_cases hquery : query ≠ [] ∧ query = place
  · rw [contentAt?, contentAt?, at?_put, if_pos hquery, hquery.2, hfree]
  · rw [contentAt?, contentAt?, at?_put, if_neg hquery]

private theorem sameContents_of_makeDirectory (hmake : files.makeDirectory here path = .ok after) :
    files.SameContents after := by
  unfold makeDirectory at hmake
  cases hlocate : files.locate here path with
  | error fault => simp [hlocate] at hmake
  | ok target =>
    simp only [hlocate] at hmake
    split at hmake
    · cases hmake
    next hfree =>
      cases hmake
      exact sameContents_put_directory (by simpa using hfree)

/-- However it ends, what has been made are directories. -/
theorem ensureDirectory_sameContents (files : Files) (here : Place) (path : String) :
    ∃ after, (files.ensureDirectory here path = .ok after ∨
        ∃ fault, files.ensureDirectory here path = .error (fault, after)) ∧
      files.SameContents after := by
  unfold ensureDirectory
  cases hmake : files.makeDirectory here path with
  | ok after => exact ⟨after, .inl rfl, sameContents_of_makeDirectory hmake⟩
  | error fault =>
    dsimp only
    split
    · exact ⟨files, .inl rfl, .refl files⟩
    · exact ⟨files, .inr ⟨fault, rfl⟩, .refl files⟩

private theorem makeDirectoriesWithin_sameContents (bound : Nat) (files : Files) (here : Place)
    (path : String) :
    ∃ after, (makeDirectoriesWithin bound files here path = .ok after ∨
        ∃ fault, makeDirectoriesWithin bound files here path = .error (fault, after)) ∧
      files.SameContents after := by
  induction bound generalizing path with
  | zero => exact ⟨files, .inr ⟨_, rfl⟩, .refl files⟩
  | succ bound ih =>
    unfold makeDirectoriesWithin
    split
    · exact ⟨files, .inl rfl, .refl files⟩
    · split
      · cases Path.parent? path with
        | none => exact ⟨files, .inr ⟨_, rfl⟩, .refl files⟩
        | some parent =>
          obtain ⟨between, hmade | ⟨fault, hmade⟩, hsame⟩ := ih parent
          · obtain ⟨after, hensured, hsame'⟩ := ensureDirectory_sameContents between here path
            simp only [hmade]
            exact ⟨after, hensured, hsame.trans hsame'⟩
          · simp only [hmade]
            exact ⟨between, .inr ⟨fault, rfl⟩, hsame⟩
      · exact ensureDirectory_sameContents files here path

/-- Making directories changes no file, even if it fails on the way. -/
theorem run_makeDirectories_sameContents (files : Files) (here : Place) (path : String) :
    ∃ outcome after, ((access here).makeDirectories path).run files = pure (outcome, after) ∧
      files.SameContents after := by
  obtain ⟨after, hmade | ⟨fault, hmade⟩, hsame⟩ :=
    makeDirectoriesWithin_sameContents (path.length + 1) files here path
  · exact ⟨.ok (), after, by rw [run_makeDirectories, makeDirectories, hmade], hsame⟩
  · exact ⟨.error fault, after, by rw [run_makeDirectories, makeDirectories, hmade], hsame⟩

theorem wrote_of_writeText (hwrite : files.writeText here path text = .ok after) :
    files.Wrote here path text.toUTF8 after := by
  obtain ⟨place, hlocate, hroot, hplace, rfl⟩ := exists_of_writeBytes hwrite
  refine ⟨place, locate_put_file _ hplace hlocate, ?_, fun other hne => ?_⟩
  · rw [contentAt?_eq_some_iff, at?_put, if_pos ⟨hroot, rfl⟩]
  · rw [contentAt?, contentAt?, at?_put, if_neg fun h => hne h.2]

end Contents

end Files

/-- Reading a file in this state changes nothing and gives what the function says of its path. -/
def FileAccess.Reads {σ : Type} (access : FileAccess (StateM σ)) (state : σ)
    (readText : String → Except Fault String) : Prop :=
  ∀ path, (access.readText path).run state = pure (readText path, state)

/-- The manifest that the file holds, if it holds one. -/
def Manifest.inFile? (readText : String → Except Fault String) (path : String) : Option Manifest :=
  (readText path).toOption.bind parse?

/-- The settings that the file holds, if it holds some. -/
def Settings.inFile? (readText : String → Except Fault String) (path : String) : Option Settings :=
  (readText path).toOption.bind parse?

section Loading

variable {σ : Type} {access : FileAccess (StateM σ)} {state : σ}
  {readText : String → Except Fault String}

private theorem Manifest.toOption_read (text : String) :
    (Manifest.read text).toOption = Manifest.parse? text := by
  rw [Manifest.read]
  cases Manifest.parse? text <;> rfl

private theorem Settings.toOption_read (text : String) :
    (Settings.read text).toOption = Settings.parse? text := by
  rw [Settings.read]
  cases Settings.parse? text <;> rfl

theorem Manifest.run_load (hreads : access.Reads state readText) (path : String) :
    ∃ outcome, (Manifest.load access path).run state = pure (outcome, state) ∧
      outcome.toOption = inFile? readText path := by
  simp only [Manifest.load, StateT.run_bind, hreads path, pure_bind, inFile?]
  cases readText path with
  | error fault => exact ⟨_, rfl, rfl⟩
  | ok text => exact ⟨_, rfl, Manifest.toOption_read text⟩

theorem Settings.run_load (hreads : access.Reads state readText) (path : String) :
    ∃ outcome, (Settings.load access path).run state = pure (outcome, state) ∧
      outcome.toOption = inFile? readText path := by
  simp only [Settings.load, StateT.run_bind, hreads path, pure_bind, inFile?]
  cases readText path with
  | error fault => exact ⟨_, rfl, rfl⟩
  | ok text => exact ⟨_, rfl, Settings.toOption_read text⟩

end Loading

end RetainerTable
