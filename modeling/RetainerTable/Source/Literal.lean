import RetainerTable.Text.Hex
import RetainerTable.Text.IdentChar

/-!
Literals of the emitted language, as far as telling where one ends. Every reader takes the text at
the place of the literal and returns the text after it; `none` means that no such literal stands
there.
-/

namespace RetainerTable.Source

open RetainerTable.Text

/-- What may stand between the quotes of a literal. -/
structure QuotedClass where
  /-- Characters beyond ASCII may stand, and escapes by code point. -/
  unicode : Bool
  /-- Escapes of two digits may go beyond ASCII. -/
  wideHex : Bool
  /-- The zero character may stand. -/
  zero : Bool

namespace QuotedClass

def text : QuotedClass := ⟨true, false, true⟩

def bytes : QuotedClass := ⟨false, true, true⟩

/-- Text that ends with a zero, so that it may hold none. -/
def zeroEnded : QuotedClass := ⟨true, true, false⟩

/-- The character may stand unescaped. -/
def admits (kind : QuotedClass) (c : Char) : Bool :=
  (kind.unicode || decide (c.toNat < 0x80)) && (kind.zero || decide (c ≠ '\x00'))

/-- The two digits are an escape of the class. -/
def admitsHex (kind : QuotedClass) (high low : Char) : Bool :=
  match hexDigit? high, hexDigit? low with
  | some h, some l => (kind.wideHex || decide (h < 8)) && (kind.zero || decide (0 < h + l))
  | _, _ => false

end QuotedClass

/-- The text after the digits and the closing brace of an escape by code point: one to six digits,
    underscores anywhere but in front, naming a character. -/
def afterCode (kind : QuotedClass) (digits : List Char) : List Char → Option (List Char)
  | [] => none
  | c :: cs =>
    if c = '\x7d' ∧ digits ≠ [] then
      match (hexNumber? digits.reverse).bind charAt? with
      | some named => if kind.zero || decide (named ≠ '\x00') then some cs else none
      | none => none
    else if c = '_' ∧ digits ≠ [] then afterCode kind digits cs
    else if (hexDigit? c).isSome && decide (digits.length < 6) then afterCode kind (c :: digits) cs
    else none

/-- The text after one escaped character, given the text after the backslash. -/
def afterEscape (kind : QuotedClass) : List Char → Option (List Char)
  | 'x' :: high :: low :: rest => if kind.admitsHex high low then some rest else none
  | 'u' :: '\x7b' :: rest => if kind.unicode then afterCode kind [] rest else none
  | '0' :: rest => if kind.zero then some rest else none
  | c :: rest => if "nrt\\'\"".toList.contains c then some rest else none
  | [] => none

/-- Drops an identifier that stands here: the suffix of a literal. -/
def afterSuffix : List Char → List Char
  | [] => []
  | c :: cs => if isIdentStart c then cs.dropWhile isIdentContinue else c :: cs

/-- The line break and indentation that a backslash at the end of a line swallows. -/
def isSwallowed (c : Char) : Bool :=
  c = ' ' || c = '\t' || c = '\n' || c = '\r'

/-- The text after the closing quote, given the text after the opening one. The first argument
    bounds the number of characters and escapes read. -/
def afterQuoted (kind : QuotedClass) : Nat → List Char → Option (List Char)
  | 0, _ => none
  | _ + 1, [] => none
  | _ + 1, '"' :: rest => some rest
  | bound + 1, '\r' :: '\n' :: rest => afterQuoted kind bound rest
  | _ + 1, '\r' :: _ => none
  | bound + 1, '\\' :: '\n' :: rest => afterQuoted kind bound (rest.dropWhile isSwallowed)
  | bound + 1, '\\' :: '\r' :: '\n' :: rest => afterQuoted kind bound (rest.dropWhile isSwallowed)
  | bound + 1, '\\' :: rest => (afterEscape kind rest).bind (afterQuoted kind bound)
  | bound + 1, c :: rest => if kind.admits c then afterQuoted kind bound rest else none

/-- The text after a quote followed by so many hashes. -/
def afterRawQuote (kind : QuotedClass) (hashes : Nat) : List Char → Option (List Char)
  | [] => none
  | '\r' :: '\n' :: rest => afterRawQuote kind hashes rest
  | '\r' :: _ => none
  | c :: rest =>
    if c = '"' ∧ rest.take hashes = List.replicate hashes '#' then some (rest.drop hashes)
    else if kind.admits c then afterRawQuote kind hashes rest
    else none

/-- The text after a raw literal, given the text after its `r`. -/
def afterRaw (kind : QuotedClass) (cs : List Char) : Option (List Char) :=
  match cs.dropWhile (· = '#') with
  | '"' :: rest =>
    let hashes := (cs.takeWhile (· = '#')).length
    if hashes ≤ 255 then afterRawQuote kind hashes rest else none
  | _ => none

/-- The text after a character and its closing single quote, given the text after the opening
    one. -/
def afterCharacter (kind : QuotedClass) (cs : List Char) : Option (List Char) :=
  let rest := match cs with
    | '\\' :: escaped => afterEscape kind escaped
    | c :: rest => if kind.admits c then some rest else none
    | [] => none
  match rest with
  | some ('\'' :: rest) => some rest
  | _ => none

/-- The text after a quoted literal and its suffix. -/
def afterQuotedLiteral (cs : List Char) : Option (List Char) :=
  let quoted (kind : QuotedClass) (rest : List Char) := afterQuoted kind (rest.length + 1) rest
  Option.map afterSuffix <| match cs with
    | '"' :: rest => quoted .text rest
    | 'b' :: '"' :: rest => quoted .bytes rest
    | 'c' :: '"' :: rest => quoted .zeroEnded rest
    | '\'' :: rest => afterCharacter .text rest
    | 'b' :: '\'' :: rest => afterCharacter .bytes rest
    | 'r' :: rest => afterRaw .text rest
    | 'b' :: 'r' :: rest => afterRaw .bytes rest
    | 'c' :: 'r' :: rest => afterRaw .zeroEnded rest
    | _ => none

/-- A number ends where no identifier goes on; a suffix belongs to it. -/
def afterNumberSuffix (cs : List Char) : Option (List Char) :=
  match afterSuffix cs with
  | [] => some []
  | c :: rest => if isIdentContinue c then none else some (c :: rest)

/-- Decimal digits and underscores. -/
def isDecimal (c : Char) : Bool :=
  ('0' ≤ c && c ≤ '9') || c = '_'

/-- The text after an exponent, given the text after its `e`: at most one sign, in front of the
    digits, and at least one digit. -/
def afterExponent (cs : List Char) : Option (List Char) :=
  let unsigned := match cs.dropWhile (· = '_') with
    | '+' :: rest => rest
    | '-' :: rest => rest
    | rest => rest
  if (unsigned.takeWhile isDecimal).any (· ≠ '_') then some (unsigned.dropWhile isDecimal) else none

/-- The text after a number with a fraction or an exponent, suffix included. -/
def afterFloat (cs : List Char) : Option (List Char) :=
  match cs.dropWhile isDecimal with
  | '.' :: rest =>
    let fractional := match rest with
      | [] => true
      | c :: _ => !(c = '.' || isIdentStart c)
    if !fractional then none
    else match rest.dropWhile isDecimal with
      | e :: tail =>
        if e = 'e' || e = 'E' then afterNumberSuffix ((afterExponent tail).getD (e :: tail))
        else afterNumberSuffix (e :: tail)
      | [] => some []
  | e :: tail => if e = 'e' || e = 'E' then (afterExponent tail).bind afterNumberSuffix else none
  | [] => none

/-- The text after the digits of a base. A decimal digit too large for the base refuses the number,
    a letter too large ends it. -/
def afterDigits (base : Nat) (found : Bool) : List Char → Option (List Char)
  | [] => if found then some [] else none
  | c :: cs =>
    if c = '_' then (if !found && base == 10 then none else afterDigits base found cs)
    else match hexDigit? c with
      | some digit =>
        if digit < base then afterDigits base true cs
        else if digit < 10 then none
        else if found then some (c :: cs) else none
      | none => if found then some (c :: cs) else none

/-- The text after a whole number, suffix included. -/
def afterInteger (cs : List Char) : Option (List Char) :=
  Option.bind (match cs with
    | '0' :: 'x' :: rest => afterDigits 16 false rest
    | '0' :: 'o' :: rest => afterDigits 8 false rest
    | '0' :: 'b' :: rest => afterDigits 2 false rest
    | _ => afterDigits 10 false cs) afterNumberSuffix

/-- The text after a number. -/
def afterNumber (cs : List Char) : Option (List Char) :=
  match cs with
  | [] => none
  | c :: _ =>
    if '0' ≤ c ∧ c ≤ '9' then (afterFloat cs).or (afterInteger cs) else none

end RetainerTable.Source
