import RetainerTable.Source.Identifier
import RetainerTable.Source.Literal
import RetainerTable.Text.Blank

/-!
Tokens of the emitted language.

A text is read into its tokens; blanks and ordinary comments separate tokens and are dropped.
Documentation comments are no separators: they would turn into attributes, which no name and no
path admits, so a text that holds one is refused with all other ill-formed texts.
-/

namespace RetainerTable.Source

open RetainerTable.Text

/-- The three kinds of brackets that must pair up. -/
inductive Bracket
  | round | square | curly
  deriving Repr, DecidableEq

/-- A token. A symbol is joined when another symbol follows it at once. -/
inductive Token
  | identifier (ident : Identifier)
  | symbol (mark : Char) (joined : Bool)
  | lifetime
  | literal (number : Bool)
  | opening (bracket : Bracket)
  | closing (bracket : Bracket)
  deriving Repr, DecidableEq

/-- Separates tokens: a blank, or one of the two marks of writing direction. -/
def isSeparator (c : Char) : Bool :=
  isBlank c || c = '\u200e' || c = '\u200f'

/-- The marks that symbols are made of. -/
def marks : List Char :=
  "~!@#$%^&*-=+|;:,<.>/?'".toList

/-- A comment of any kind opens here. -/
def opensComment : List Char → Bool
  | '/' :: '/' :: _ => true
  | '/' :: '*' :: _ => true
  | _ => false

/-- A symbol stands here. -/
def startsSymbol (cs : List Char) : Bool :=
  match cs with
  | [] => false
  | c :: _ => marks.contains c && !opensComment cs

/-- The text after the end of a block comment that lies in as many others as the depth says. -/
def afterBlock : Nat → List Char → Option (List Char)
  | depth, '/' :: '*' :: rest => afterBlock (depth + 1) rest
  | 0, '*' :: '/' :: rest => some rest
  | depth + 1, '*' :: '/' :: rest => afterBlock depth rest
  | depth, _ :: rest => afterBlock depth rest
  | _, [] => none

/-- The text after an ordinary comment, if the text begins with one and it ends. -/
def afterComment? : List Char → Option (List Char)
  | '/' :: '/' :: rest =>
    let documents := match rest with
      | '/' :: '/' :: _ => false
      | '/' :: _ => true
      | '!' :: _ => true
      | _ => false
    if documents then none else some (rest.dropWhile (· ≠ '\n'))
  | '/' :: '*' :: rest =>
    let documents := match rest with
      | '*' :: '/' :: _ => false
      | '*' :: '*' :: _ => false
      | '*' :: _ => true
      | '!' :: _ => true
      | _ => false
    if documents then none else afterBlock 0 rest
  | _ => none

/-- An identifier and the text after it, if one stands here; the raw marker does not count. -/
def plainIdent? : List Char → Option (String × List Char)
  | [] => none
  | c :: cs =>
    if isIdentStart c then
      some (String.ofList (c :: cs.takeWhile isIdentContinue), cs.dropWhile isIdentContinue)
    else none

/-- An identifier in either spelling and the text after it. -/
def anyIdent? : List Char → Option (Identifier × List Char)
  | 'r' :: '#' :: rest =>
    match plainIdent? rest with
    | some (name, rest) => if neverRaw.contains name then none else some (⟨true, name⟩, rest)
    | none => none
  | cs => (plainIdent? cs).map fun (name, rest) => (⟨false, name⟩, rest)

/-- Text that opens a quoted literal where an identifier could have begun. -/
def quoteOpeners : List (List Char) :=
  ["r\"", "r#\"", "r##", "b\"", "b'", "br\"", "br#", "c\"", "cr\"", "cr#"].map String.toList

/-- An identifier that no quoted literal disputes. -/
def ident? (cs : List Char) : Option (Identifier × List Char) :=
  if quoteOpeners.any (·.isPrefixOf cs) then none else anyIdent? cs

/-- A single quote that opens a lifetime: an identifier follows it, and after that no further
    quote. -/
def lifetime? (cs : List Char) : Option (List Char) :=
  match anyIdent? cs with
  | none => none
  | some (ident, rest) =>
    match rest with
    | '\'' :: _ => none
    | '#' :: _ => if ident.raw then some rest else none
    | _ => some rest

/-- The bracket that a character opens or closes. -/
def bracketToken? (c : Char) : Option Token :=
  if c = '(' then some (.opening .round)
  else if c = '[' then some (.opening .square)
  else if c = '\x7b' then some (.opening .curly)
  else if c = ')' then some (.closing .round)
  else if c = ']' then some (.closing .square)
  else if c = '\x7d' then some (.closing .curly)
  else none

namespace Token

/-- The token at the head of a text and the text after it. Literals are tried first, then symbols,
    then identifiers. -/
def first? : List Char → Option (Token × List Char)
  | [] => none
  | c :: cs =>
    match bracketToken? c with
    | some token => some (token, cs)
    | none =>
      match afterQuotedLiteral (c :: cs) with
      | some rest => some (.literal false, rest)
      | none =>
        match afterNumber (c :: cs) with
        | some rest => some (.literal true, rest)
        | none =>
          if startsSymbol (c :: cs) then
            if c = '\'' then (lifetime? cs).map (.lifetime, ·)
            else some (.symbol c (startsSymbol cs), cs)
          else (ident? (c :: cs)).map fun (ident, rest) => (.identifier ident, rest)

/-- The text after one separator: a separating character or an ordinary comment. -/
def afterSeparator? : List Char → Option (List Char)
  | [] => none
  | c :: cs => if isSeparator c then some cs else afterComment? (c :: cs)

/-- The tokens of a text. Each separator and each token takes at least one character; a reading
    that took none would be refused. -/
def read (cs : List Char) : Option (List Token) :=
  if cs = [] then some []
  else
    match afterSeparator? cs with
    | some rest => if rest.length < cs.length then read rest else none
    | none =>
      match first? cs with
      | some (token, rest) => if rest.length < cs.length then (read rest).map (token :: ·) else none
      | none => none
termination_by cs.length

/-- The tokens of a source text, which may begin with a byte order mark. -/
def ofText? (text : String) : Option (List Token) :=
  match text.toList with
  | '\ufeff' :: rest => read rest
  | cs => read cs

end Token

end RetainerTable.Source
