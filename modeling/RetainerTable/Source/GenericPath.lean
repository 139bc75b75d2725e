import RetainerTable.Source.Path

/-!
Paths that may carry generic arguments in angle brackets, as far as telling whether a text is one.

Arguments are lifetimes, constants, types, and types bound to or bounded by a name. Every reader
takes the tokens at its place and returns the tokens after it. The readers call one another to a
depth that the number of tokens bounds, so each takes a bound and hands on one less.

Constants in curly brackets and array lengths are read as expressions of literals, paths, macros,
brackets, signs, operators, casts, calls, indices and members. Ranges, closures, struct literals,
control flow, patterns and items are not read: a text that has them in such a place is no path here.
-/

namespace RetainerTable.Source.GenericPath

/-- The tokens after the bracket that closes the innermost of the open ones, and all within it. -/
def afterBracket : List Bracket → List Token → Option (List Token)
  | [], tokens => some tokens
  | _ :: _, [] => none
  | open_ :: outer, .closing bracket :: rest =>
    if bracket = open_ then afterBracket outer rest else none
  | stack, .opening bracket :: rest => afterBracket (bracket :: stack) rest
  | stack, _ :: rest => afterBracket stack rest

/-- The token is the plain identifier that spells the word. -/
def isWord (word : String) : Token → Bool
  | .identifier ident => ident.isWord word
  | _ => false

/-- Drops the word, if it stands here. -/
def skipWord (word : String) : List Token → List Token
  | [] => []
  | token :: rest => if isWord word token then rest else token :: rest

/-- Drops a lifetime, if one stands here. -/
def skipLifetime : List Token → List Token
  | .lifetime :: rest => rest
  | tokens => tokens

/-- Two colons stand here and, after them, what the test asks for. -/
def colonsThen (test : List Token → Bool) : List Token → Bool
  | .symbol ':' true :: .symbol ':' _ :: rest => test rest
  | _ => false

/-- An opening angle bracket that is no part of a comparison. -/
def opensAngle : List Token → Bool
  | .symbol '<' true :: .symbol '=' _ :: _ => false
  | .symbol '<' _ :: _ => true
  | _ => false

/-- An argument list that begins here ends at once. -/
def closesAngle : List Token → Bool
  | .symbol '>' _ :: _ => true
  | _ => false

/-- A round bracket opens here. -/
def opensRound : List Token → Bool
  | .opening .round :: _ => true
  | _ => false

/-- A constant stands here: a literal, a negative number or a truth value. -/
def afterConstant? : List Token → Option (List Token)
  | .literal _ :: rest => some rest
  | .symbol '-' _ :: .literal true :: rest => some rest
  | .identifier ident :: rest => if ident.isWord "true" || ident.isWord "false" then some rest else none
  | _ => none

/-- Lifetimes separated by commas, up to the closing angle bracket, which is dropped. -/
def afterLifetimes : List Token → Option (List Token)
  | .symbol '>' _ :: rest => some rest
  | .lifetime :: .symbol '>' _ :: rest => some rest
  | .lifetime :: .symbol ',' _ :: rest => afterLifetimes rest
  | _ => none

/-- Drops a quantifier over lifetimes, if one stands here. -/
def afterQuantifier : List Token → Option (List Token)
  | .identifier ident :: .symbol '<' mark :: rest =>
    if ident.isWord "for" then afterLifetimes rest
    else some (.identifier ident :: .symbol '<' mark :: rest)
  | tokens => some tokens

/-- Keywords that end a path segment: no argument may follow them. -/
def takesNoArguments (ident : Identifier) : Bool :=
  !ident.raw && ["super", "self", "crate", "try"].contains ident.name

/-- Drops a closing bracket of the kind, which must stand here. -/
def skipClosing (bracket : Bracket) : List Token → Option (List Token)
  | .closing found :: rest => if found = bracket then some rest else none
  | _ => none

/-- How tightly an operator binds, beside a comparison. -/
inductive Strength
  | loose | comparison | tight
  deriving DecidableEq

/-- Operators between two operands, each before those it begins with. -/
def operators : List (String × Strength) :=
  [("<<=", .loose), (">>=", .loose), ("+=", .loose), ("-=", .loose), ("*=", .loose),
    ("/=", .loose), ("%=", .loose), ("^=", .loose), ("&=", .loose), ("|=", .loose),
    ("&&", .loose), ("||", .loose), ("<<", .tight), (">>", .tight), ("==", .comparison),
    ("<=", .comparison), ("!=", .comparison), (">=", .comparison), ("+", .tight), ("-", .tight),
    ("*", .tight), ("/", .tight), ("%", .tight), ("^", .tight), ("&", .tight), ("|", .tight),
    ("<", .comparison), (">", .comparison), ("=", .loose)]

/-- The tokens after the marks, which must be joined to one another. -/
def afterMarks? : List Char → List Token → Option (List Token)
  | [], tokens => some tokens
  | mark :: marks, .symbol found joined :: rest =>
    if found = mark && (joined || marks.isEmpty) then afterMarks? marks rest else none
  | _, _ => none

/-- The operator that stands here and the tokens after it. -/
def operator? (tokens : List Token) : Option (Strength × List Token) :=
  operators.findSome? fun (spelling, strength) =>
    (afterMarks? spelling.toList tokens).map (strength, ·)

/-- Where a path stands: in an expression, `<` behind a segment is a comparison. -/
inductive Place
  | type | expression
  deriving DecidableEq

/-- What a path reader learns besides where the path ends. -/
structure PathEnd where
  rest : List Token
  /-- The last segment has no arguments. -/
  bare : Bool
  /-- No segment has arguments. -/
  plain : Bool

mutual

/-- One segment: an identifier and its arguments in angle brackets, if any. -/
def afterSegment : Nat → Place → List Token → Option PathEnd
  | bound + 1, place, .identifier ident :: rest =>
    if !ident.isSegment then none
    else if takesNoArguments ident then some ⟨rest, true, true⟩
    else if place = .type && opensAngle rest then
      (afterArguments bound (rest.drop 1)).map (⟨·, closesAngle (rest.drop 1), false⟩)
    else if colonsThen opensAngle rest then
      (afterArguments bound (rest.drop 3)).map (⟨·, closesAngle (rest.drop 3), false⟩)
    else some ⟨rest, true, true⟩
  | _, _, _ => none

/-- Segments joined by `::`, which is no joint in front of a round bracket. -/
def afterSegments : Nat → Place → List Token → Option PathEnd
  | bound + 1, place, tokens =>
    (afterSegment bound place tokens).bind fun found =>
      if colonsThen (fun rest => !opensRound rest) found.rest then
        (afterSegments bound place (found.rest.drop 2)).map fun last =>
          ⟨last.rest, last.bare, found.plain && last.plain⟩
      else some found
  | 0, _, _ => none

/-- A path, with or without `::` in front. -/
def afterPath : Nat → Place → List Token → Option PathEnd
  | bound + 1, place, .symbol ':' true :: .symbol ':' _ :: rest => afterSegments bound place rest
  | bound + 1, place, tokens => afterSegments bound place tokens
  | 0, _, _ => none

/-- A path within a type, which may be taken as a trait; its opening angle bracket is dropped. -/
def afterQualified : Nat → Place → List Token → Option PathEnd
  | 0, _, _ => none
  | bound + 1, place, tokens =>
    let closing := match afterType bound true tokens with
      | some (.identifier ident :: after) =>
        if ident.isWord "as" then (afterPath bound .type after).map PathEnd.rest else none
      | found => found
    match closing with
    | some (.symbol '>' _ :: .symbol ':' true :: .symbol ':' _ :: rest) =>
      afterSegments bound place rest
    | _ => none

/-- Arguments separated by commas, up to the closing angle bracket, which is dropped. -/
def afterArguments : Nat → List Token → Option (List Token)
  | 0, _ => none
  | _ + 1, .symbol '>' _ :: rest => some rest
  | bound + 1, tokens =>
    match afterArgument bound tokens with
    | some (.symbol '>' _ :: rest) => some rest
    | some (.symbol ',' _ :: rest) => afterArguments bound rest
    | _ => none

/-- A constant: a literal or a block. -/
def afterConstantArgument : Nat → List Token → Option (List Token)
  | 0, _ => none
  | bound + 1, .opening .curly :: rest => afterStatements bound rest
  | _ + 1, tokens => afterConstant? tokens

/-- One generic argument. -/
def afterArgument : Nat → List Token → Option (List Token)
  | 0, _ => none
  | bound + 1, tokens =>
    match tokens with
    | .lifetime :: .symbol '+' _ :: _ => afterType bound true tokens
    | .lifetime :: rest => some rest
    | _ =>
      match afterConstantArgument bound tokens with
      | some rest => some rest
      | none =>
        match tokens, afterSegment bound .type tokens with
        | .opening .curly :: _, _ => none
        | _, some ⟨.symbol '=' _ :: rest, _, _⟩ =>
          (afterConstantArgument bound rest).or (afterType bound true rest)
        | _, some ⟨.symbol ':' true :: .symbol ':' _ :: _, _, _⟩ => afterType bound true tokens
        | _, some ⟨.symbol ':' _ :: rest, _, _⟩ => afterConstraint bound rest
        | _, _ => afterType bound true tokens

/-- The bounds of a named argument, up to a comma or the closing angle bracket. -/
def afterConstraint : Nat → List Token → Option (List Token)
  | 0, _ => none
  | _ + 1, .symbol ',' mark :: rest => some (.symbol ',' mark :: rest)
  | _ + 1, .symbol '>' mark :: rest => some (.symbol '>' mark :: rest)
  | bound + 1, tokens =>
    match afterBound bound tokens with
    | some (.symbol '+' _ :: rest) => afterConstraint bound rest
    | found => found

/-- One bound: a lifetime, or a trait, which round brackets may enclose. -/
def afterBound : Nat → List Token → Option (List Token)
  | 0, _ => none
  | _ + 1, .lifetime :: rest => some rest
  | bound + 1, .opening .round :: rest => (afterTrait bound rest).bind (skipClosing .round)
  | bound + 1, tokens => afterTrait bound tokens

/-- A trait: a path that may end in the arguments and the result of a function. -/
def afterTrait : Nat → List Token → Option (List Token)
  | 0, _ => none
  | bound + 1, .symbol '?' _ :: rest => afterTrait bound rest
  | bound + 1, tokens =>
    ((afterQuantifier tokens).bind (afterPath bound .type)).bind (afterSignature bound)

/-- The arguments and the result of a function behind a path, if they stand there. -/
def afterSignature : Nat → PathEnd → Option (List Token)
  | 0, _ => none
  | bound + 1, found =>
    let rest := if colonsThen opensRound found.rest then found.rest.drop 2 else found.rest
    if found.bare && opensRound rest then
      ((afterTypes bound (rest.drop 1)).bind (afterResult bound)).bind fun rest =>
        if colonsThen (fun rest => !opensRound rest) rest then
          (afterSegments bound .type (rest.drop 2)).bind (afterSignature bound)
        else some rest
    else some found.rest

/-- Bounds joined by plus signs; one of them must be a trait. -/
def afterBounds : Nat → Bool → List Token → Option (List Token)
  | 0, _, _ => none
  | bound + 1, found, tokens =>
    let isTrait := match tokens with
      | .lifetime :: _ => false
      | _ => true
    match afterBound bound tokens with
    | some (.symbol '+' mark :: rest) =>
      match afterBounds bound (found || isTrait) rest with
      | some rest => some rest
      | none => if found || isTrait then some (.symbol '+' mark :: rest) else none
    | some rest => if found || isTrait then some rest else none
    | none => none

/-- Types separated by commas, up to the closing round bracket, which is dropped. -/
def afterTypes : Nat → List Token → Option (List Token)
  | 0, _ => none
  | _ + 1, .closing .round :: rest => some rest
  | bound + 1, tokens =>
    match afterType bound true tokens with
    | some (.closing .round :: rest) => some rest
    | some (.symbol ',' _ :: rest) => afterTypes bound rest
    | _ => none

/-- The result of a function, if one stands here. -/
def afterResult : Nat → List Token → Option (List Token)
  | 0, _ => none
  | bound + 1, .symbol '-' true :: .symbol '>' _ :: rest => afterType bound false rest
  | _ + 1, tokens => some tokens

/-- Parameters of a function type, named or not, up to the closing round bracket. -/
def afterParameters : Nat → List Token → Option (List Token)
  | 0, _ => none
  | _ + 1, .closing .round :: rest => some rest
  | _ + 1, .symbol '.' true :: .symbol '.' true :: .symbol '.' _ :: .closing .round :: rest =>
    some rest
  | bound + 1, tokens =>
    let tokens := match tokens with
      | .identifier ident :: .symbol ':' true :: .symbol ':' mark :: rest =>
        .identifier ident :: .symbol ':' true :: .symbol ':' mark :: rest
      | .identifier _ :: .symbol ':' _ :: rest => rest
      | tokens => tokens
    match afterType bound true tokens with
    | some (.closing .round :: rest) => some rest
    | some (.symbol ',' _ :: rest) => afterParameters bound rest
    | _ => none

/-- A type. Where a plus sign may follow, it adds bounds to a type that is a trait. -/
def afterType : Nat → Bool → List Token → Option (List Token)
  | 0, _, _ => none
  | bound + 1, plus, tokens =>
    let morebounds (rest : List Token) : Option (List Token) :=
      match rest with
      | .symbol '+' _ :: after => if plus then afterBounds bound true after else some rest
      | _ => some rest
    match (afterQuantifier tokens).getD [] with
    | .opening .round :: .closing .round :: rest => some rest
    | .opening .round :: .lifetime :: rest =>
      (afterBounds bound false (.lifetime :: rest)).bind (skipClosing .round)
    | .opening .round :: .symbol '?' mark :: rest =>
      ((afterBound bound (.symbol '?' mark :: rest)).bind (skipClosing .round)).bind morebounds
    | .opening .round :: rest =>
      match afterType bound true rest with
      | some (.closing .round :: rest) => morebounds rest
      | some (.symbol ',' _ :: rest) => afterTypes bound rest
      | _ => none
    | .opening .square :: rest =>
      match afterType bound true rest with
      | some (.closing .square :: rest) => some rest
      | some (.symbol ';' _ :: rest) => (afterExpression bound rest).bind (skipClosing .square)
      | _ => none
    | .symbol '*' _ :: token :: rest =>
      if isWord "const" token || isWord "mut" token then afterType bound false rest else none
    | .symbol '&' _ :: rest => afterType bound false (skipWord "mut" (skipLifetime rest))
    | .symbol '!' _ :: rest => some rest
    | .symbol '<' _ :: rest => (afterQualified bound .type rest).bind (afterSignature bound)
    | .lifetime :: rest => afterBounds bound false (.lifetime :: rest)
    | .identifier ident :: rest =>
      if ident.isWord "_" then some rest
      else if ident.isWord "dyn" || ident.isWord "impl" then
        if plus then afterBounds bound false rest else afterBound bound rest
      else if ident.isWord "unsafe" || ident.isWord "extern" || ident.isWord "fn" then
        let rest := skipWord "unsafe" (.identifier ident :: rest)
        let rest := match rest with
          | .identifier ident :: .literal false :: after =>
            if ident.isWord "extern" then after else rest
          | _ => skipWord "extern" rest
        match rest with
        | token :: .opening .round :: rest =>
          if isWord "fn" token then (afterParameters bound rest).bind (afterResult bound) else none
        | _ => none
      else
        match afterPath bound .type (.identifier ident :: rest) with
        | some ⟨.symbol '!' _ :: .opening bracket :: rest, _, true⟩ => afterBracket [bracket] rest
        | some found => (afterSignature bound found).bind morebounds
        | none => none
    | tokens =>
      match afterPath bound .type tokens with
      | some ⟨.symbol '!' _ :: .opening bracket :: rest, _, true⟩ => afterBracket [bracket] rest
      | some found => (afterSignature bound found).bind morebounds
      | none => none

/-- An expression: operands joined by operators. -/
def afterExpression : Nat → List Token → Option (List Token)
  | 0, _ => none
  | bound + 1, tokens => (afterOperand bound tokens).bind (afterOperators bound false)

/-- What may follow an operand: operators with their operands, and casts. After a comparison the
    next one needs an operator between them that binds less tightly. -/
def afterOperators : Nat → Bool → List Token → Option (List Token)
  | 0, _, _ => none
  | bound + 1, compared, tokens =>
    match operator? tokens, tokens with
    | some (.loose, rest), _ => (afterOperand bound rest).bind (afterOperators bound false)
    | some (.comparison, rest), _ =>
      if compared then none else (afterOperand bound rest).bind (afterOperators bound true)
    | some (.tight, rest), _ => (afterOperand bound rest).bind (afterOperators bound compared)
    | none, .identifier ident :: rest =>
      if ident.isWord "as" then (afterType bound false rest).bind (afterOperators bound compared)
      else some tokens
    | none, _ => some tokens

/-- An operand: a value behind signs, and what is called, indexed or selected of it. -/
def afterOperand : Nat → List Token → Option (List Token)
  | 0, _ => none
  | bound + 1, .symbol '&' _ :: rest => afterOperand bound (skipWord "mut" rest)
  | bound + 1, .symbol '*' _ :: rest => afterOperand bound rest
  | bound + 1, .symbol '!' _ :: rest => afterOperand bound rest
  | bound + 1, .symbol '-' _ :: rest => afterOperand bound rest
  | bound + 1, tokens => (afterValue bound tokens).bind (afterTrailers bound)

/-- A value: a literal, what brackets enclose, a path, or a macro with its arguments. -/
def afterValue : Nat → List Token → Option (List Token)
  | 0, _ => none
  | bound + 1, .opening .round :: rest => afterValues bound .round rest
  | bound + 1, .opening .square :: rest =>
    match afterExpression bound rest with
    | some (.symbol ';' _ :: rest) => (afterExpression bound rest).bind (skipClosing .square)
    | some (.symbol ',' _ :: rest) => afterValues bound .square rest
    | found => skipClosing .square (found.getD rest)
  | bound + 1, .opening .curly :: rest => afterStatements bound rest
  | bound + 1, .symbol '<' _ :: rest => (afterQualified bound .expression rest).map PathEnd.rest
  | bound + 1, tokens =>
    match afterConstant? tokens, afterPath bound .expression tokens with
    | some rest, _ => some rest
    | none, some ⟨.symbol '!' _ :: .opening bracket :: rest, _, true⟩ =>
      afterBracket [bracket] rest
    | none, found => found.map PathEnd.rest

/-- Expressions separated by commas, up to the closing bracket, which is dropped. -/
def afterValues : Nat → Bracket → List Token → Option (List Token)
  | 0, _, _ => none
  | bound + 1, bracket, tokens =>
    match skipClosing bracket tokens, afterExpression bound tokens with
    | some rest, _ => some rest
    | none, some (.symbol ',' _ :: rest) => afterValues bound bracket rest
    | none, found => found.bind (skipClosing bracket)

/-- Calls, indices, members and question marks behind a value. -/
def afterTrailers : Nat → List Token → Option (List Token)
  | 0, _ => none
  | bound + 1, .opening .round :: rest => (afterValues bound .round rest).bind (afterTrailers bound)
  | bound + 1, .opening .square :: rest =>
    ((afterExpression bound rest).bind (skipClosing .square)).bind (afterTrailers bound)
  | bound + 1, .symbol '?' _ :: rest => afterTrailers bound rest
  | bound + 1, .symbol '.' _ :: .literal true :: rest => afterTrailers bound rest
  | bound + 1, .symbol '.' _ :: .identifier ident :: rest =>
    if !(ident.isName || ident.isWord "await") then none
    else if colonsThen opensAngle rest then
      match afterArguments bound (rest.drop 3) with
      | some (.opening .round :: rest) => afterTrailers bound (.opening .round :: rest)
      | _ => none
    else afterTrailers bound rest
  | _ + 1, tokens => some tokens

/-- Statements, up to the closing curly bracket, which is dropped. A block ends its statement. -/
def afterStatements : Nat → List Token → Option (List Token)
  | 0, _ => none
  | _ + 1, .closing .curly :: rest => some rest
  | bound + 1, .symbol ';' _ :: rest => afterStatements bound rest
  | bound + 1, .opening .curly :: rest => (afterStatements bound rest).bind (afterStatements bound)
  | bound + 1, tokens =>
    match afterExpression bound tokens with
    | some (.symbol ';' _ :: rest) => afterStatements bound rest
    | found => found.bind (skipClosing .curly)

end

/-- A bound on the depth of calls in reading so many tokens: between one token and the next at
    most eight readers are entered. -/
def depthFor (tokens : List Token) : Nat :=
  8 * tokens.length + 8

/-- The tokens are a path from first to last. -/
def isPath (tokens : List Token) : Bool :=
  match afterPath (depthFor tokens) .type tokens with
  | some ⟨[], _, _⟩ => true
  | _ => false

/-- The text spells a path, with or without generic arguments. -/
def isPathText (text : String) : Bool :=
  match Token.ofText? text with
  | some tokens => isPath tokens
  | none => false

end RetainerTable.Source.GenericPath
