import RetainerTable.AssociationList
import RetainerTable.Files.Fault
import RetainerTable.Files.Path

/-!
Files: directories and the bytes of files, each at its place.

Paths are resolved step by step, so that a path through a missing directory or through a file is
refused as such even where a later step would lead back. A write changes the file at one place and
nothing else, and one that fails changes nothing. Directories are made one by one, so those made before
a failure stay.
-/

namespace RetainerTable

/-- A place: the names on the way from the root. -/
abbrev Place := List String

/-- What can be at a place. -/
inductive Entry
  | directory
  | file (content : ByteArray)

instance : DecidableEq Entry
  | .directory, .directory => isTrue rfl
  | .directory, .file _ => isFalse nofun
  | .file _, .directory => isFalse nofun
  | .file first, .file second =>
    match ByteArray.instDecidableEq first second with
    | isTrue heq => isTrue (congrArg Entry.file heq)
    | isFalse hne => isFalse fun heq => hne (Entry.file.inj heq)

/-- What is where. The root is always a directory. -/
structure Files where
  entries : List (Place × Entry)

namespace Files

open AssociationList (lookup_cons_eq lookup_filter_ne)

/-- What is at the place. -/
def at? (files : Files) (place : Place) : Option Entry :=
  if place = [] then some .directory else files.entries.lookup place

/-- The same files but for what is at one place. -/
def put (files : Files) (place : Place) (entry : Entry) : Files :=
  ⟨(place, entry) :: files.entries.filter (·.1 ≠ place)⟩

/-- A change at one place is seen there, unless the place is the root, and nowhere else. -/
theorem at?_put (files : Files) (place query : Place) (entry : Entry) :
    (files.put place entry).at? query =
      if query ≠ [] ∧ query = place then some entry else files.at? query := by
  by_cases hroot : query = []
  · simp [at?, hroot]
  · by_cases hplace : query = place
    · rw [at?, if_neg hroot, put, lookup_cons_eq, if_pos hplace, if_pos ⟨hroot, hplace⟩]
    · rw [at?, if_neg hroot, put, lookup_cons_eq, if_neg hplace, lookup_filter_ne hplace,
        if_neg (fun h => hplace h.2), at?, if_neg hroot]

/-- Follows the steps from a place. Every step starts in a directory; the last may lead to a place
    where nothing is. -/
def walk (files : Files) : Place → List String → Except Fault Place
  | here, [] => .ok here
  | here, step :: steps =>
    match files.at? here with
    | none => .error .notFound
    | some (.file _) => .error .notDirectory
    | some .directory =>
      if step = "." then walk files here steps
      else if step = ".." then walk files here.dropLast steps
      else if 255 < step.utf8ByteSize then .error .nameTooLong
      else walk files (here ++ [step]) steps

/-- A walk passes through directories only, so it does not notice a file that comes to be where no
    directory was. -/
theorem walk_put_file {files : Files} {place : Place} (content : ByteArray)
    (hplace : files.at? place ≠ some .directory) :
    (steps : List String) → (here : Place) → {reached : Place} →
      files.walk here steps = .ok reached →
        (files.put place (.file content)).walk here steps = .ok reached
  | [], _, _, hwalk => hwalk
  | step :: steps, here, reached, hwalk => by
    unfold walk at hwalk ⊢
    have hhere : files.at? here = some .directory := by
      cases hat : files.at? here with
      | none => simp [hat] at hwalk
      | some entry => cases entry <;> simp_all
    have hne : here ≠ place := fun heq => hplace (heq ▸ hhere)
    have hkept : (files.put place (.file content)).at? here = some .directory := by
      rw [at?_put, if_neg (fun h => hne h.2), hhere]
    simp only [hhere] at hwalk
    simp only [hkept]
    split
    · rw [if_pos (by assumption)] at hwalk
      exact walk_put_file content hplace steps here hwalk
    · rw [if_neg (by assumption)] at hwalk
      split
      · rw [if_pos (by assumption)] at hwalk
        exact walk_put_file content hplace steps _ hwalk
      · rw [if_neg (by assumption)] at hwalk
        split
        · rw [if_pos (by assumption)] at hwalk
          cases hwalk
        · rw [if_neg (by assumption)] at hwalk
          exact walk_put_file content hplace steps _ hwalk

/-- Where a path leads. -/
structure Destination where
  place : Place
  /-- The path ends with a slash, so that only a directory can be meant. -/
  slashed : Bool
  deriving Repr, DecidableEq

/-- Where the path leads, as seen from a directory. -/
def locate (files : Files) (here : Place) (path : String) : Except Fault Destination :=
  let cs := path.toList
  if cs = [] then .error .notFound
  else if '\x00' ∈ cs then .error .zeroInPath
  else if 4095 < path.utf8ByteSize then .error .nameTooLong
  else
    match files.walk (if Path.isAbsolute path then [] else here) (Path.steps path) with
    | .error fault => .error fault
    | .ok place => .ok ⟨place, decide (cs.getLast? = some '/')⟩

theorem locate_put_file {files : Files} {place : Place} (content : ByteArray)
    (hplace : files.at? place ≠ some .directory) {here : Place} {path : String}
    {target : Destination} (hlocate : files.locate here path = .ok target) :
    (files.put place (.file content)).locate here path = .ok target := by
  unfold locate at hlocate ⊢
  simp only at hlocate ⊢
  split at hlocate
  · cases hlocate
  · rw [if_neg (by assumption)]
    split at hlocate
    · cases hlocate
    · rw [if_neg (by assumption)]
      split at hlocate
      · cases hlocate
      · rw [if_neg (by assumption)]
        cases hwalk : files.walk (if Path.isAbsolute path then [] else here) (Path.steps path) with
        | error fault => simp [hwalk] at hlocate
        | ok reached =>
          rw [walk_put_file content hplace _ _ hwalk]
          simpa [hwalk] using hlocate

/-- The bytes of the file that the path leads to. -/
def readBytes (files : Files) (here : Place) (path : String) : Except Fault ByteArray :=
  match files.locate here path with
  | .error fault => .error fault
  | .ok target =>
    match files.at? target.place with
    | none => .error .notFound
    | some .directory => .error .isDirectory
    | some (.file content) => if target.slashed then .error .notDirectory else .ok content

/-- The text of the file that the path leads to. -/
def readText (files : Files) (here : Place) (path : String) : Except Fault String :=
  match files.readBytes here path with
  | .error fault => .error fault
  | .ok content =>
    match String.fromUTF8? content with
    | some text => .ok text
    | none => .error .notText

/-- Makes the bytes the content of the file that the path leads to. The file need not exist, but its
    directory must. -/
def writeBytes (files : Files) (here : Place) (path : String) (content : ByteArray) :
    Except Fault Files :=
  match files.locate here path with
  | .error fault => .error fault
  | .ok target =>
    if target.slashed || decide (files.at? target.place = some .directory) then .error .isDirectory
    else .ok (files.put target.place (.file content))

/-- A successful write changes one place: the file is there, with the bytes written, and the path
    leads to it as before. -/
theorem exists_of_writeBytes {files after : Files} {here : Place} {path : String}
    {content : ByteArray} (hwrite : files.writeBytes here path content = .ok after) :
    ∃ place, files.locate here path = .ok ⟨place, false⟩ ∧ place ≠ [] ∧
      files.at? place ≠ some .directory ∧ after = files.put place (.file content) := by
  unfold writeBytes at hwrite
  cases hlocate : files.locate here path with
  | error fault => simp [hlocate] at hwrite
  | ok target =>
    obtain ⟨place, slashed⟩ := target
    simp only [hlocate] at hwrite
    split at hwrite
    · cases hwrite
    · rename_i hfree
      simp only [Bool.or_eq_true, decide_eq_true_eq, not_or, Bool.not_eq_true] at hfree
      obtain ⟨rfl, hplace⟩ := hfree
      refine ⟨place, rfl, fun hroot => hplace (by simp [hroot, at?]), hplace, ?_⟩
      cases hwrite
      rfl

/-- What was written can be read. -/
theorem readBytes_of_writeBytes {files after : Files} {here : Place} {path : String}
    {content : ByteArray} (hwrite : files.writeBytes here path content = .ok after) :
    after.readBytes here path = .ok content := by
  obtain ⟨place, hlocate, hroot, hplace, rfl⟩ := exists_of_writeBytes hwrite
  simp [readBytes, locate_put_file content hplace hlocate, at?_put, hroot]

/-- Makes the text the content of the file that the path leads to. -/
def writeText (files : Files) (here : Place) (path text : String) : Except Fault Files :=
  files.writeBytes here path text.toUTF8

/-- Something is where the path leads; with a slash at its end, a directory. -/
def isPresent (files : Files) (here : Place) (path : String) : Bool :=
  match files.locate here path with
  | .error _ => false
  | .ok target =>
    match files.at? target.place with
    | none => false
    | some .directory => true
    | some (.file _) => !target.slashed

/-- A directory is where the path leads. -/
def isDirectory (files : Files) (here : Place) (path : String) : Bool :=
  match files.locate here path with
  | .error _ => false
  | .ok target => decide (files.at? target.place = some .directory)

/-- Makes a directory where the path leads. -/
def makeDirectory (files : Files) (here : Place) (path : String) : Except Fault Files :=
  match files.locate here path with
  | .error fault => .error fault
  | .ok target =>
    if (files.at? target.place).isSome then .error .alreadyExists
    else .ok (files.put target.place .directory)

/-- Sees to it that a directory is where the path leads. A failure comes with the files as they are
    then. -/
def ensureDirectory (files : Files) (here : Place) (path : String) : Except (Fault × Files) Files :=
  match files.makeDirectory here path with
  | .ok after => .ok after
  | .error fault => if files.isDirectory here path then .ok files else .error (fault, files)

/-- Makes a directory where the path leads, and before it those it lies in, where they are missing.
    The first argument bounds the number of steps. -/
def makeDirectoriesWithin : Nat → Files → Place → String → Except (Fault × Files) Files
  | 0, files, _, _ => .error (.notFound, files)
  | bound + 1, files, here, path =>
    if path = "" then .ok files
    else
      match files.makeDirectory here path with
      | .error .notFound =>
        match Path.parent? path with
        | none => .error (.notFound, files)
        | some parent =>
          match makeDirectoriesWithin bound files here parent with
          | .error failure => .error failure
          | .ok files => files.ensureDirectory here path
      | _ => files.ensureDirectory here path

/-- Makes a directory where the path leads, and before it those it lies in, where they are
    missing. If one cannot be made, those made before it stay. -/
def makeDirectories (files : Files) (here : Place) (path : String) : Except (Fault × Files) Files :=
  makeDirectoriesWithin (path.length + 1) files here path

end Files

end RetainerTable
