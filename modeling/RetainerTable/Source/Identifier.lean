/-!
Identifiers of the emitted language. A raw identifier is written with `r#` in front and may spell a
keyword; as a spelling it stays distinct from the plain identifier of the same name.
-/

namespace RetainerTable.Source

/-- An identifier as it is spelled. -/
structure Identifier where
  /-- Spelled with the raw marker. -/
  raw : Bool
  name : String
  deriving Repr, DecidableEq

/-- Words with a meaning of their own, which no plain identifier may spell. -/
def keywords : List String :=
  ["_", "abstract", "as", "async", "await", "become", "box", "break", "const", "continue", "crate",
   "do", "dyn", "else", "enum", "extern", "false", "final", "fn", "for", "if", "impl", "in", "let",
   "loop", "macro", "match", "mod", "move", "mut", "override", "priv", "pub", "ref", "return",
   "Self", "self", "static", "struct", "super", "trait", "true", "try", "type", "typeof", "unsafe",
   "unsized", "use", "virtual", "where", "while", "yield"]

/-- Keywords that stand for a module or a type, so that a path may pass through them. -/
def pathKeywords : List String :=
  ["crate", "self", "super", "try", "Self"]

/-- Words that stay reserved behind the raw marker. -/
def neverRaw : List String :=
  ["_", "super", "self", "Self", "crate"]

namespace Identifier

/-- The identifier's spelling. -/
def text (ident : Identifier) : String :=
  if ident.raw then "r#" ++ ident.name else ident.name

/-- The plain identifier spells this word. -/
def isWord (ident : Identifier) (word : String) : Bool :=
  !ident.raw && ident.name == word

/-- It can name something: it is raw, or it spells no keyword. -/
def isName (ident : Identifier) : Bool :=
  ident.raw || !keywords.contains ident.name

/-- It can be a segment of a path. -/
def isSegment (ident : Identifier) : Bool :=
  ident.isName || pathKeywords.contains ident.name

end Identifier

end RetainerTable.Source
