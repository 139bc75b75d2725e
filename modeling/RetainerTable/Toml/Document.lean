import RetainerTable.Toml.Draft
import RetainerTable.Toml.Quoted
import RetainerTable.Toml.Scalar

/-!
TOML documents, version 1.1. `parse?` reads a text into its top-level table.

The text is first read into sections: a header and the keys and values under it. The sections are
then put together into one table, which refuses keys that are given twice.
-/

namespace RetainerTable.Toml

/-- Values nest in brackets at most so deep. -/
def maxDepth : Nat := 80

/-- The text after blanks, line breaks and comments. The flag says that a comment is open. -/
def skipLayout : Bool → List Char → Option (List Char)
  | _, [] => some []
  | _, '\n' :: cs => skipLayout false cs
  | _, '\r' :: '\n' :: cs => skipLayout false cs
  | true, c :: cs => if isPlain c then skipLayout true cs else none
  | false, c :: cs =>
    if isSpace c then skipLayout false cs
    else if c = '#' then skipLayout true cs
    else some (c :: cs)

/-- The text after the end of a line that holds nothing more than blanks and a comment. -/
def afterLine : Bool → List Char → Option (List Char)
  | _, [] => some []
  | _, '\n' :: cs => some cs
  | _, '\r' :: '\n' :: cs => some cs
  | true, c :: cs => if isPlain c then afterLine true cs else none
  | false, c :: cs =>
    if isSpace c then afterLine false cs
    else if c = '#' then afterLine true cs
    else none

/-- The text after blanks within the line. -/
def skipSpaces (cs : List Char) : List Char := cs.dropWhile isSpace

/-- The character may stand in a key without quotes. -/
def isBare (c : Char) : Bool :=
  c.isAlphanum || c = '-' || c = '_'

/-- One part of a key. -/
def keyPart? (cs : List Char) : Option (String × List Char) :=
  match cs with
  | '"' :: _ => quoted? false cs
  | '\'' :: _ => quoted? false cs
  | _ =>
    let part := cs.takeWhile isBare
    if part.isEmpty then none else some (String.ofList part, cs.dropWhile isBare)

/-- A key: parts joined by dots, blanks around the dots. Returns the path, the last part and the
    text after the blanks that follow. The first argument bounds the number of parts. -/
def key? : Nat → List Char → Option (List String × String × List Char)
  | 0, _ => none
  | bound + 1, cs => do
    let (part, rest) ← keyPart? (skipSpaces cs)
    match skipSpaces rest with
    | '.' :: rest =>
      let (path, last, rest) ← key? bound rest
      return (part :: path, last, rest)
    | rest => return ([], part, rest)

mutual

/-- A value. The first argument bounds the number of calls, the second the depth of brackets. -/
def value? : Nat → Nat → List Char → Option (Value × List Char)
  | 0, _, _ => none
  | bound + 1, depth, cs =>
    match cs with
    | '"' :: _ => (quoted? true cs).map fun (text, rest) => (.string text, rest)
    | '\'' :: _ => (quoted? true cs).map fun (text, rest) => (.string text, rest)
    | '[' :: rest =>
      match depth with
      | 0 => none
      | depth + 1 => (items? bound depth rest).map fun (items, rest) => (.array items, rest)
    | '\x7b' :: rest =>
      match depth with
      | 0 => none
      | depth + 1 =>
        (entries? bound depth [] rest).map fun (rows, rest) => (.table (finishRows rows), rest)
    | _ => readScalar? cs

/-- The items of an array, given the text after its opening bracket or after a comma. -/
def items? : Nat → Nat → List Char → Option (List Value × List Char)
  | 0, _, _ => none
  | bound + 1, depth, cs => do
    match ← skipLayout false cs with
    | ']' :: rest => return ([], rest)
    | cs =>
      let (item, rest) ← value? bound depth cs
      match ← skipLayout false rest with
      | ']' :: rest => return ([item], rest)
      | ',' :: rest =>
        let (items, rest) ← items? bound depth rest
        return (item :: items, rest)
      | _ => none

/-- The keys and values of a table in brackets, given the text after its opening bracket or after a
    comma, and the rows so far. -/
def entries? : Nat → Nat → Rows → List Char → Option (Rows × List Char)
  | 0, _, _, _ => none
  | bound + 1, depth, rows, cs => do
    match ← skipLayout false cs with
    | '\x7d' :: rest => return (rows, rest)
    | cs =>
      let (path, key, rest) ← key? bound cs
      let '=' :: rest := rest | none
      let (value, rest) ← value? bound depth (skipSpaces rest)
      let rows ← rows.addEntry path key value
      match ← skipLayout false rest with
      | '\x7d' :: rest => return (rows, rest)
      | ',' :: rest => entries? bound depth rows rest
      | _ => none

end

/-- What opens a section. -/
inductive Header
  /-- The text begins without a header. -/
  | top
  | table (path : List String) (key : String)
  | element (path : List String) (key : String)
  deriving Repr, DecidableEq

/-- A line of a document that says something. -/
inductive Line
  | header (header : Header)
  | entry (path : List String) (key : String) (value : Value)

/-- The line at the head of a text that begins with no layout, and the text after it. -/
def line? (bound : Nat) (cs : List Char) : Option (Line × List Char) := do
  match cs with
  | '[' :: '[' :: rest =>
    let (path, key, rest) ← key? bound rest
    let ']' :: ']' :: rest := rest | none
    return (.header (.element path key), ← afterLine false rest)
  | '[' :: rest =>
    let (path, key, rest) ← key? bound rest
    let ']' :: rest := rest | none
    return (.header (.table path key), ← afterLine false rest)
  | _ =>
    let (path, key, rest) ← key? bound cs
    let '=' :: rest := rest | none
    let (value, rest) ← value? bound maxDepth (skipSpaces rest)
    return (.entry path key value, ← afterLine false rest)

/-- The lines of a text that say something. The first argument bounds their number. -/
def lines? : Nat → List Char → Option (List Line)
  | 0, _ => none
  | bound + 1, cs => do
    match ← skipLayout false cs with
    | [] => return []
    | cs =>
      let (line, rest) ← line? (3 * cs.length + 3) cs
      return line :: (← lines? bound rest)

/-- Adds the entries of a section to the table they belong to. -/
def fill (entries : List (List String × String × Value)) (rows : Rows) : Option Rows :=
  entries.foldlM (fun rows (path, key, value) => rows.addEntry path key value) rows

/-- Adds a section to the document. -/
def addSection (rows : Rows) (header : Header) (entries : List (List String × String × Value)) :
    Option Rows :=
  match header with
  | .top => fill entries rows
  | .table path key => rows.within (Rows.openTable (fill entries) key) path
  | .element path key => rows.within (Rows.appendTable (fill entries) key) path

/-- Adds the lines to the document; `entries` are those of the open section, the latest in front. -/
def addLines (rows : Rows) (header : Header) (entries : List (List String × String × Value)) :
    List Line → Option Rows
  | [] => addSection rows header entries.reverse
  | .entry path key value :: lines => addLines rows header ((path, key, value) :: entries) lines
  | .header next :: lines => do
    let rows ← addSection rows header entries.reverse
    addLines rows next [] lines

/-- The top-level table of a document, which may begin with a byte order mark. -/
def parse? (text : String) : Option Table := do
  let cs :=
    match text.toList with
    | '\ufeff' :: cs => cs
    | cs => cs
  let lines ← lines? (cs.length + 1) cs
  let rows ← addLines [] .top [] lines
  return finishRows rows

end RetainerTable.Toml
