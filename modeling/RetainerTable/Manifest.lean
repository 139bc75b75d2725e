namespace RetainerTable

/-- What a declared type is. Only a class can inherit a retainer. -/
inductive TypeKind
  | ordinary
  | interface
  | enumeration
  | annotation
  | record
  deriving Repr, DecidableEq, Inhabited

namespace TypeKind

/-- The word a manifest uses for the kind. -/
def word : TypeKind → String
  | ordinary => "class"
  | interface => "interface"
  | enumeration => "enum"
  | annotation => "annotation"
  | record => "record"

def all : List TypeKind :=
  [ordinary, interface, enumeration, annotation, record]

/-- The kind that a word names. -/
def ofWord? (word : String) : Option TypeKind :=
  all.find? (·.word == word)

/-- Every kind is named by its own word. -/
theorem ofWord?_word (kind : TypeKind) : ofWord? kind.word = some kind := by
  cases kind <;> decide

def isClass (kind : TypeKind) : Bool :=
  kind = ordinary

end TypeKind

/-- A type as the manifest lists it. -/
structure TypeEntry where
  name : String
  kind : TypeKind
  /-- The text of the reference to the superclass. -/
  superclass : Option String
  /-- The name of the type in which this one is nested. -/
  enclosing : Option String
  deriving Repr, DecidableEq

/-- The listed types and the pairs of a type name and the path of its retainer. -/
structure Manifest where
  types : List TypeEntry
  associations : List (String × String)
  deriving Repr, DecidableEq

end RetainerTable
