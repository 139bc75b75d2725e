import RetainerTable.Text.GraphemeExtend
import RetainerTable.Text.Unprintable

/-!
Escaped text. A character that would break the text around it, or that would not be seen in it, is
written as a backslash sequence, so an escaped text stays on one line whatever it says.

`literal` writes a whole string literal, `inComment` a text that stands bare in a line comment.
-/

namespace RetainerTable.Text

/-- The two choices in which the written forms differ. -/
structure EscapeStyle where
  /-- Single quotes are escaped as double quotes are. -/
  singleQuotes : Bool
  /-- Extenders of a grapheme are escaped wherever they stand, not only where nothing precedes
      them. -/
  extendersEverywhere : Bool
  deriving Repr, DecidableEq

namespace EscapeStyle

/-- Inside double quotes a single quote is plain, and no extender may join the opening quote or
    whatever an escape before it looks like. -/
def literal : EscapeStyle := ⟨false, true⟩

/-- Bare text escapes both quotes; only a leading extender could join what stands before it. -/
def comment : EscapeStyle := ⟨true, false⟩

end EscapeStyle

/-- The code point in lower-case hexadecimal digits between braces, after `\u`. -/
def escapeCode (c : Char) : List Char :=
  ['\\', 'u', '\x7b'] ++ Nat.toDigits 16 c.toNat ++ ['\x7d']

/-- The character is written by its code point. The flag `leads` says that no character precedes
    it. -/
def isEscapedByCode (style : EscapeStyle) (leads : Bool) (c : Char) : Bool :=
  (isGraphemeExtend c && (leads || style.extendersEverywhere)) || isUnprintable c

/-- The written form of one character. -/
def escapeChar (style : EscapeStyle) (leads : Bool) (c : Char) : List Char :=
  if c = '\x00' then ['\\', '0']
  else if c = '\t' then ['\\', 't']
  else if c = '\r' then ['\\', 'r']
  else if c = '\n' then ['\\', 'n']
  else if c = '\\' ∨ c = '"' ∨ (c = '\'' ∧ style.singleQuotes = true) then ['\\', c]
  else if isEscapedByCode style leads c then escapeCode c
  else [c]

/-- The written form of a text of which nothing stands before. -/
def escapeChars (style : EscapeStyle) : List Char → List Char
  | [] => []
  | c :: cs => escapeChar style true c ++ cs.flatMap (escapeChar style false)

/-- A string literal, quotes included. -/
def literal (text : String) : String :=
  String.ofList ('"' :: escapeChars .literal text.toList ++ ['"'])

/-- A text as it stands in a line comment. -/
def inComment (text : String) : String :=
  String.ofList (escapeChars .comment text.toList)

end RetainerTable.Text
