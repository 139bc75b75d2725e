import RetainerTable.Source.Token

namespace RetainerTable.Source

/-- A path without arguments. -/
structure Path where
  /-- It begins with `::`. -/
  rooted : Bool
  segments : List Identifier
  deriving Repr, DecidableEq

namespace Path

/-- The path's spelling, without separators. -/
def text (path : Path) : String :=
  (if path.rooted then "::" else "") ++ String.intercalate "::" (path.segments.map Identifier.text)

/-- One segment or more, joined by `::`. -/
def segmentsOfTokens? : List Token → Option (List Identifier)
  | [.identifier ident] => if ident.isSegment then some [ident] else none
  | .identifier ident :: .symbol ':' true :: .symbol ':' _ :: rest =>
    if ident.isSegment then (segmentsOfTokens? rest).map (ident :: ·) else none
  | _ => none

/-- The path that the tokens spell from first to last. -/
def ofTokens? : List Token → Option Path
  | .symbol ':' true :: .symbol ':' _ :: rest => (segmentsOfTokens? rest).map (⟨true, ·⟩)
  | tokens => (segmentsOfTokens? tokens).map (⟨false, ·⟩)

/-- The path that a text spells. -/
def parse? (text : String) : Option Path :=
  (Token.ofText? text).bind ofTokens?

end Path

/-- The text spells one identifier that can name something. -/
def isNameText (text : String) : Bool :=
  match Token.ofText? text with
  | some [.identifier ident] => ident.isName
  | _ => false

end RetainerTable.Source
