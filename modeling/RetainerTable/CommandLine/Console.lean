import RetainerTable.Files.Access

/-!
Consoles: what a program of the command line can do besides computing.

A program that is written over `Console` runs on a disk with a terminal and on a value of `Machine`
alike. A machine of a host refuses some things that its files would allow: a host may lack the room or
the permission for them, and whoever reads what is printed may stop reading.
-/

namespace RetainerTable

/-- Reading and writing files and printing in a monad. -/
structure Console (m : Type → Type) extends FileAccess m where
  print : String → m (Except Fault Unit)

/-- Files, and the bytes printed until now. -/
structure Machine where
  files : Files
  printed : ByteArray

/-- The machine after more has been printed. -/
def Machine.append (machine : Machine) (bytes : ByteArray) : Machine :=
  { machine with printed := machine.printed ++ bytes }

/-- A directory to see the files of machines from, and what is refused there. -/
structure Host where
  here : Place
  /-- Why the file may not be read. -/
  readFault? : Machine → String → Option Fault
  /-- Why the text may not be written into the file. -/
  writeFault? : Machine → String → String → Option Fault
  /-- What is at the path may not even be seen. -/
  conceals : Machine → String → Bool
  /-- Why the directory may not be made, and how far the way to it is made all the same. -/
  makeFault? : Machine → String → Option (String × Fault)
  /-- Why printing the text breaks off, and after how many bytes. -/
  printFault? : Machine → String → Option (Nat × Fault)

namespace Host

/-- A host that refuses nothing. -/
def obliging (here : Place) : Host where
  here := here
  readFault? _ _ := none
  writeFault? _ _ _ := none
  conceals _ _ := false
  makeFault? _ _ := none
  printFault? _ _ := none

def readText (host : Host) (machine : Machine) (path : String) : Except Fault String :=
  match host.readFault? machine path with
  | some fault => .error fault
  | none => machine.files.readText host.here path

/-- Makes the text the content of the file. A write that fails leaves the machine as it is. -/
def writeText (host : Host) (machine : Machine) (path text : String) : Except Fault Machine :=
  match host.writeFault? machine path text with
  | some fault => .error fault
  | none => (machine.files.writeText host.here path text).map ({ machine with files := · })

def isPresent (host : Host) (machine : Machine) (path : String) : Bool :=
  machine.files.isPresent host.here path && !host.conceals machine path

/-- Makes a directory and those it lies in. If one of them cannot be made, those made before it
    stay. -/
def makeDirectories (host : Host) (machine : Machine) (path : String) :
    Except Fault Unit × Machine :=
  match host.makeFault? machine path with
  | some (reached, fault) =>
    (.error fault, { machine with
      files := ((Files.access host.here).makeDirectories reached machine.files).2 })
  | none =>
    let (outcome, files) := (Files.access host.here).makeDirectories path machine.files
    (outcome, { machine with files })

/-- Prints the text, or the first of its bytes. -/
def print (host : Host) (machine : Machine) (text : String) : Except Fault Unit × Machine :=
  match host.printFault? machine text with
  | some (count, fault) =>
    (.error fault, machine.append (text.toUTF8.extract 0 count))
  | none => (.ok (), machine.append text.toUTF8)

/-- The console of a host's machines. -/
def console (host : Host) : Console (StateM Machine) where
  readText path := fun machine => (host.readText machine path, machine)
  writeText path text := fun machine =>
    match host.writeText machine path text with
    | .ok after => (.ok (), after)
    | .error fault => (.error fault, machine)
  isPresent path := fun machine => (host.isPresent machine path, machine)
  makeDirectories path := fun machine => host.makeDirectories machine path
  print text := fun machine => host.print machine text

end Host

end RetainerTable
