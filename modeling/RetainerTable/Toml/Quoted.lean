import RetainerTable.Text.Hex

namespace RetainerTable.Toml

open RetainerTable.Text

/-- The character may stand in a string or a comment: a tab, or no control character of ASCII. -/
def isPlain (c : Char) : Bool :=
  c = '\t' || (decide (0x20 ≤ c.toNat) && decide (c.toNat ≠ 0x7F))

/-- The character at the code point that so many digits spell, and the text after them. -/
def codePoint? (count : Nat) (cs : List Char) : Option (Char × List Char) :=
  let digits := cs.take count
  if digits.length = count then
    (hexNumber? digits).bind fun code => (charAt? code).map (·, cs.drop count)
  else none

/-- An escaped character, given the text after the backslash. -/
def escaped? : List Char → Option (Char × List Char)
  | [] => none
  | c :: cs =>
    match c with
    | 'b' => some ('\x08', cs)
    | 't' => some ('\t', cs)
    | 'n' => some ('\n', cs)
    | 'f' => some ('\x0c', cs)
    | 'r' => some ('\r', cs)
    | 'e' => some ('\x1b', cs)
    | '"' => some ('"', cs)
    | '\\' => some ('\\', cs)
    | 'x' => codePoint? 2 cs
    | 'u' => codePoint? 4 cs
    | 'U' => codePoint? 8 cs
    | _ => none

/-- Puts a character in front of what was read. -/
def before (c : Char) : Option (List Char × List Char) → Option (List Char × List Char) :=
  Option.map fun (cs, rest) => (c :: cs, rest)

/-- A basic string on one line. The first argument bounds the number of characters. -/
def basic? : Nat → List Char → Option (List Char × List Char)
  | 0, _ => none
  | _, [] => none
  | _ + 1, '"' :: rest => some ([], rest)
  | bound + 1, '\\' :: rest => do
    let (c, rest) ← escaped? rest
    before c (basic? bound rest)
  | bound + 1, c :: rest => if isPlain c then before c (basic? bound rest) else none

/-- A literal string on one line. -/
def literal? : List Char → Option (List Char × List Char)
  | [] => none
  | c :: rest =>
    if c = '\'' then some ([], rest)
    else if isPlain c then before c (literal? rest)
    else none

/-- Blanks within a line. -/
def isSpace (c : Char) : Bool := c = ' ' || c = '\t'

/-- Drops blanks and line breaks. -/
def skipBlanks : List Char → List Char
  | '\n' :: rest => skipBlanks rest
  | '\r' :: '\n' :: rest => skipBlanks rest
  | c :: rest => if isSpace c then skipBlanks rest else c :: rest
  | [] => []

/-- A line break begins the text. -/
def startsLine : List Char → Bool
  | '\n' :: _ => true
  | '\r' :: '\n' :: _ => true
  | _ => false

/-- Drops the line break that may follow the opening quotes. -/
def skipLineBreak : List Char → List Char
  | '\n' :: rest => rest
  | '\r' :: '\n' :: rest => rest
  | cs => cs

/-- Three quotes close a string on several lines; up to two more in front of them belong to it. -/
def closing? (quote : Char) (cs : List Char) : Option (List Char × List Char) :=
  let count := (cs.takeWhile (· = quote)).length
  if 3 ≤ count then
    let kept := min (count - 3) 2
    some (List.replicate kept quote, cs.drop (kept + 3))
  else none

/-- A literal string on several lines. The first argument bounds the number of characters. -/
def literalLines? : Nat → List Char → Option (List Char × List Char)
  | 0, _ => none
  | _, [] => none
  | bound + 1, '\r' :: '\n' :: rest => before '\r' (before '\n' (literalLines? bound rest))
  | bound + 1, c :: rest =>
    match closing? '\'' (c :: rest) with
    | some found => some found
    | none => if isPlain c || c = '\n' then before c (literalLines? bound rest) else none

/-- A basic string on several lines. A backslash at the end of a line swallows the line break and
    all blanks after it. -/
def basicLines? : Nat → List Char → Option (List Char × List Char)
  | 0, _ => none
  | _, [] => none
  | bound + 1, '\r' :: '\n' :: rest => before '\r' (before '\n' (basicLines? bound rest))
  | bound + 1, '\\' :: rest =>
    if startsLine (rest.dropWhile isSpace) then basicLines? bound (skipBlanks rest)
    else do
      let (c, rest) ← escaped? rest
      before c (basicLines? bound rest)
  | bound + 1, c :: rest =>
    match closing? '"' (c :: rest) with
    | some found => some found
    | none => if isPlain c || c = '\n' then before c (basicLines? bound rest) else none

/-- The string that begins here with its opening quotes; the flag says that it may go over several
    lines. -/
def quoted? (lines : Bool) (cs : List Char) : Option (String × List Char) :=
  let bound := cs.length + 1
  let found :=
    match lines, cs with
    | true, '"' :: '"' :: '"' :: rest => basicLines? bound (skipLineBreak rest)
    | true, '\'' :: '\'' :: '\'' :: rest => literalLines? bound (skipLineBreak rest)
    | _, '"' :: rest => basic? bound rest
    | _, '\'' :: rest => literal? rest
    | _, _ => none
  found.map fun (text, rest) => (String.ofList text, rest)

end RetainerTable.Toml
