/-!
Requests: what the arguments of the command line ask for.

An argument list is either a request or a misuse; there is nothing in between, and the reader is not
told which argument was at fault. Options may stand in any order after their command. A short option
may be followed by others in the same argument, the last of which may be followed by its value. A
wish for help is granted as soon as it is read, even if what comes after it makes no sense.
-/

namespace RetainerTable.CommandLine

/-- The files a table is made from. -/
structure Inputs where
  manifest : String
  settings : Option String
  /-- Inheritance is on, whatever the settings say. -/
  vectorizeInheritance : Bool
  deriving Repr, DecidableEq

inductive Command
  | generate
  | resolve
  deriving Repr, DecidableEq

def Command.ofWord? : String → Option Command
  | "generate" => some .generate
  | "resolve" => some .resolve
  | _ => none

/-- What help can be had on. -/
inductive Topic
  | program
  | command (command : Command)
  /-- The word that asks for help. -/
  | help
  deriving Repr, DecidableEq

/-- The topic that words after a wish for help name. -/
def Topic.ofWords? : List String → Option Topic
  | [] => some .program
  | ["help"] => some .help
  | [word] => (Command.ofWord? word).map .command
  | _ => none

/-- What can be asked for. -/
inductive Request
  /-- The rendered source, in a file or printed. -/
  | generate (inputs : Inputs) (out : Option String)
  /-- The rows of the table, printed. -/
  | resolve (inputs : Inputs)
  | version
  | help (topic : Topic)
  deriving Repr, DecidableEq

/-- The options of commands. The option `verbose` is for a running commentary and has no part in the
    answer. -/
inductive OptionName
  | manifest
  | settings
  | vectorizeInheritance
  | out
  | verbose
  | help
  deriving Repr, DecidableEq

namespace OptionName

def long : OptionName → String
  | manifest => "manifest"
  | settings => "config"
  | vectorizeInheritance => "vectorize-inheritance"
  | out => "out"
  | verbose => "verbose"
  | help => "help"

def short? : OptionName → Option Char
  | manifest => some 'm'
  | settings => some 'c'
  | vectorizeInheritance => none
  | out => some 'o'
  | verbose => some 'v'
  | help => some 'h'

def takesValue : OptionName → Bool
  | manifest | settings | out => true
  | vectorizeInheritance | verbose | help => false

end OptionName

/-- The options that the command understands. -/
def Command.options : Command → List OptionName
  | generate => [.manifest, .settings, .vectorizeInheritance, .out, .verbose, .help]
  | resolve => [.manifest, .settings, .vectorizeInheritance, .verbose, .help]

/-- An option and its value; one that takes none has the empty text. -/
abbrev Given := OptionName × String

/-- Options in full, and perhaps one after them whose value is still to come. -/
structure Reading where
  given : List Given
  pending : Option OptionName

/-- Help is among the options. -/
def asksForHelp (given : List Given) : Bool := (given.lookup .help).isSome

/-- Options in short form, the first of the given letters naming the first. Letters after a wish for
    help are not looked at. -/
def readLetters (options : List OptionName) : List Char → Option Reading
  | [] => some ⟨[], none⟩
  | letter :: letters =>
    match options.find? (·.short? = some letter) with
    | none => none
    | some option =>
      if option.takesValue then
        match letters with
        | [] => some ⟨[], some option⟩
        | ['='] => none
        | '=' :: value => some ⟨[(option, String.ofList value)], none⟩
        | value => some ⟨[(option, String.ofList value)], none⟩
      else if option = .help then some ⟨[(option, "")], none⟩
      else
        match readLetters options letters with
        | none => none
        | some reading => some { reading with given := (option, "") :: reading.given }

/-- An option in long form, its value perhaps after an equals sign. -/
def readWord (options : List OptionName) (cs : List Char) : Option Reading :=
  let name := String.ofList (cs.takeWhile (· ≠ '='))
  match options.find? (·.long = name) with
  | none => none
  | some option =>
    match option.takesValue, cs.dropWhile (· ≠ '=') with
    | false, [] => some ⟨[(option, "")], none⟩
    | false, _ => none
    | true, [] => some ⟨[], some option⟩
    | true, _ :: [] => none
    | true, _ :: value => some ⟨[(option, String.ofList value)], none⟩

/-- The options in one argument. -/
def readArgument (options : List OptionName) (argument : String) : Option Reading :=
  match argument.toList with
  | '-' :: '-' :: c :: cs => readWord options (c :: cs)
  | ['-', '-'] => none
  | '-' :: c :: cs => readLetters options (c :: cs)
  | _ => none

/-- The argument can be an option's value: it is not empty and does not look like an option. -/
def isValue (argument : String) : Bool :=
  match argument.toList with
  | [] => false
  | '-' :: _ :: _ => false
  | _ => true

/-- The options in the arguments of a command, up to a wish for help; the pending one takes the first
    of them for its value. Two dashes may end the list. -/
def readArguments (options : List OptionName) : Option OptionName → List String →
    Option (List Given)
  | none, [] | none, ["--"] => some []
  | some _, [] => none
  | some option, value :: arguments =>
    if isValue value then
      (readArguments options none arguments).map ((option, value) :: ·)
    else none
  | none, argument :: arguments =>
    match readArgument options argument with
    | none => none
    | some reading =>
      if asksForHelp reading.given then some reading.given
      else (readArguments options reading.pending arguments).map (reading.given ++ ·)

/-- The request of a command with its arguments: no option twice, and help or a manifest. -/
def Command.request? (command : Command) (arguments : List String) : Option Request :=
  match readArguments command.options none arguments with
  | none => none
  | some given =>
    if ¬(given.map (·.1)).Nodup then none
    else if asksForHelp given then some (.help (.command command))
    else
      match given.lookup .manifest with
      | none => none
      | some manifest =>
        let inputs : Inputs :=
          ⟨manifest, given.lookup .settings, (given.lookup .vectorizeInheritance).isSome⟩
        match command with
        | .generate => some (.generate inputs (given.lookup .out))
        | .resolve => some (.resolve inputs)

/-- What an argument before the command leads to. -/
inductive Opening
  /-- Reading goes on; the flag tells whether `verbose` was given. -/
  | more (verbose : Bool)
  | version
  | help
  | misuse
  deriving Repr, DecidableEq

namespace Opening

/-- Short options before the command. A wish for the version or for help is granted at once, even if
    what comes after it makes no sense. -/
def ofLetters (verbose : Bool) : List Char → Opening
  | [] => .more verbose
  | 'v' :: letters => if verbose then .misuse else ofLetters true letters
  | 'V' :: _ => .version
  | 'h' :: _ => .help
  | _ => .misuse

/-- An option before the command. -/
def ofArgument (verbose : Bool) (argument : String) : Opening :=
  if argument = "--verbose" then (if verbose then .misuse else .more true)
  else if argument = "--version" then .version
  else if argument = "--help" then .help
  else
    match argument.toList with
    | '-' :: c :: cs => ofLetters verbose (c :: cs)
    | _ => .misuse

end Opening

/-- The request of an argument list whose first arguments are known to be options. -/
def Request.after? (verbose : Bool) : List String → Option Request
  | [] => none
  | argument :: arguments =>
    match Command.ofWord? argument with
    | some command => command.request? arguments
    | none =>
      if argument = "help" then (Topic.ofWords? arguments).map .help
      else
        match Opening.ofArgument verbose argument with
        | .more verbose => Request.after? verbose arguments
        | .version => some .version
        | .help => some (.help .program)
        | .misuse => none

/-- The request that the arguments make; a misuse makes none. -/
def Request.ofArguments? (arguments : List String) : Option Request :=
  Request.after? false arguments

end RetainerTable.CommandLine
