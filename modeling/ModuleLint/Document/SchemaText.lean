import ModuleLint.Document.Schema

/-!
# The schema as a text

The schema is shown as a JSON schema. Simple parts stand on one line; records, and lists of records
without a name, are spread over several lines. The named shapes are listed at the end.
-/

set_option autoImplicit false

namespace ModuleLint.Document

/-- A JSON value with its layout: a text as it is written, an object on one line, or an object
with one line for each member. -/
inductive Layout where
  | plain (text : String)
  | inline (members : List (String × Layout))
  | block (members : List (String × Layout))

namespace Layout

/-- A JSON text without characters that need escapes. -/
def quoted (s : String) : String := "\"" ++ s ++ "\""

mutual

/-- The text of a value at an indentation. -/
def text (indent : String) : Layout → String
  | plain t => t
  | inline members => "\x7b " ++ ", ".intercalate (memberTexts indent members) ++ " \x7d"
  | block members =>
    let inner := indent ++ "  "
    "\x7b\n" ++ inner ++ (",\n" ++ inner).intercalate (memberTexts inner members) ++ "\n" ++ indent
      ++ "\x7d"

/-- The texts of the members of an object. -/
def memberTexts (indent : String) : List (String × Layout) → List String
  | [] => []
  | (key, value) :: rest => (quoted key ++ ": " ++ text indent value) :: memberTexts indent rest

end

end Layout

/-- The shapes that are listed by their names. -/
def listedShapes : List Shape :=
  [.position, .range, .variable, .parameter, .routine, .module, .statements, .entry]

/-- The name of a shape. -/
def Shape.name : Shape → String
  | .position => "position"
  | .range => "range"
  | .variable => "variable"
  | .parameter => "parameter"
  | .routine => "routine"
  | .module => "module"
  | .statements => "statements"
  | .entry => "node"
  | .clause => "clause"

/-- A reference to a listed shape. -/
def Shape.reference (s : Shape) : Layout :=
  .inline [("$ref", .plain (Layout.quoted ("#/definitions/" ++ s.name)))]

namespace Schema

/-- The member that tells the type. -/
def typeMember (s : Schema) : String × Layout := ("type", .plain (Layout.quoted s.type.name))

/-- The member that tells the least value of something, if it is not the usual one. -/
def leastMember (key : String) (n : Nat) : List (String × Layout) :=
  if n == 0 then [] else [(key, .plain (toString n))]

/-- The layout of a simple part. -/
def simpleLayout (s : Schema) : Layout :=
  match s with
  | .text minLength => .inline (s.typeMember :: leastMember "minLength" minLength)
  | .natural => .inline [s.typeMember, ("minimum", .plain "0")]
  | .items element => .inline [s.typeMember, ("items", element.reference)]
  | .shape name => name.reference
  | _ => .inline [s.typeMember]

/-- The layout of a whole record or list, given that of its parts. -/
def spreadMembers (part : Schema → Layout) (s : Schema) : List (String × Layout) :=
  match s with
  | .record required properties =>
    [s.typeMember]
    ++ (if required.isEmpty then []
        else [("required", .plain ("[" ++ ", ".intercalate (required.map Layout.quoted) ++ "]"))])
    ++ [("properties", .block (properties.map fun (key, p) => (key, part p)))]
  | .items element => [s.typeMember, ("items", element.reference)]
  | _ => [s.typeMember]

/-- The layout of any part; a list of clauses shows what a clause is. -/
def partLayout (s : Schema) : Layout :=
  match s with
  | .items .clause =>
    .block [s.typeMember, ("items", .block (spreadMembers simpleLayout Shape.clause.schema))]
  | _ => s.simpleLayout

end Schema

/-- The members of the whole schema. -/
def schemaMembers : List (String × Layout) :=
  [("$schema", .plain (Layout.quoted "http://json-schema.org/draft-07/schema#")),
    ("title", .plain (Layout.quoted "BSL module tree"))]
  ++ Schema.spreadMembers Schema.partLayout schema
  ++ [("definitions", .block (listedShapes.map fun s =>
        (s.name, .block (Schema.spreadMembers Schema.partLayout s.schema))))]

/-- The schema as a text. -/
def schemaText : String := (Layout.block schemaMembers).text "" ++ "\n"

end ModuleLint.Document
