import ModuleLint.Json.Basic

/-!
# The schema of documents

A schema says what types the parts of a JSON value have, which keys an object needs and what
numbers and texts are too small. Parts that occur in several places, or inside of themselves, are
named shapes. A value is compared with a schema key by key; keys count as they are spelled, and of
a repeated key the last one counts. Where the type is wrong nothing further is examined.
-/

set_option autoImplicit false

namespace ModuleLint.Document

open ModuleLint.Json (Value)

/-- The types of JSON values. -/
inductive JsonType where
  | null
  | boolean
  | integer
  | number
  | string
  | array
  | object
deriving Repr, DecidableEq, Inhabited

/-- The name of a type. -/
def JsonType.name : JsonType → String
  | .null => "null"
  | .boolean => "boolean"
  | .integer => "integer"
  | .number => "number"
  | .string => "string"
  | .array => "array"
  | .object => "object"

/-- The type of a value; a number with a whole value is an integer. -/
def typeOf : Value → JsonType
  | .null => .null
  | .bool _ => .boolean
  | .number n => if n.isWhole then .integer else .number
  | .text _ => .string
  | .list _ => .array
  | .object _ => .object

/-- The named shapes. -/
inductive Shape where
  | position
  | range
  | variable
  | parameter
  | routine
  | module
  | statements
  | entry
  | clause
deriving Repr, DecidableEq, Inhabited

/-- What is asked of a value. -/
inductive Schema where
  | text (minLength : Nat)
  | flag
  | natural
  | items (element : Shape)
  | record (required : List String) (properties : List (String × Schema))
  | shape (s : Shape)
deriving Inhabited

/-- The schema of a named shape. -/
def Shape.schema : Shape → Schema
  | .position => .record ["line", "column"] [("line", .natural), ("column", .natural)]
  | .range => .record ["start", "end"] [("start", .shape .position), ("end", .shape .position)]
  | .variable => .record ["name"]
      [("name", .text 0), ("export", .flag), ("range", .shape .range)]
  | .parameter => .record ["name"]
      [("name", .text 0), ("byValue", .flag), ("hasDefault", .flag), ("range", .shape .range)]
  | .routine => .record ["name"]
      [("name", .text 0), ("export", .flag), ("range", .shape .range),
        ("parameters", .items .parameter), ("body", .shape .statements)]
  | .module => .record []
      [("name", .text 0), ("range", .shape .range), ("variables", .items .variable),
        ("functions", .items .routine), ("procedures", .items .routine)]
  | .statements => .items .entry
  | .entry => .record ["type"]
      [("type", .text 1), ("name", .text 0), ("export", .flag), ("range", .shape .range),
        ("literalType", .text 0), ("operator", .text 0),
        ("left", .shape .entry), ("right", .shape .entry), ("target", .shape .entry),
        ("expression", .shape .entry), ("condition", .shape .entry), ("counter", .shape .entry),
        ("start", .shape .entry), ("end", .shape .entry), ("collection", .shape .entry),
        ("arguments", .items .entry), ("thenStatements", .shape .statements),
        ("elseStatements", .shape .statements), ("statements", .shape .statements),
        ("elseIfClauses", .items .clause)]
  | .clause => .record [] [("condition", .shape .entry), ("statements", .shape .statements)]

/-- The schema of a whole document. -/
def schema : Schema :=
  .record ["module"] [("module", .shape .module), ("source", .text 0)]

/-- A schema that is not just a name. Named shapes are never named by a name alone more than once.
-/
def Schema.resolved : Schema → Schema
  | .shape s => s.schema
  | s => s

/-- The type that a schema asks for. -/
def Schema.type : Schema → JsonType
  | .text _ => .string
  | .flag => .boolean
  | .natural => .integer
  | .items _ => .array
  | .record .. => .object
  | .shape s => match s with
    | .statements => .array
    | _ => .object

/-- A part of a document that does not conform, named by the path to it. -/
structure SchemaViolation where
  path : List String
  description : String
deriving Repr, DecidableEq, Inhabited

/-- The path of the top of a document. -/
def rootName : String := "(root)"

/-- A violation as a text. -/
def SchemaViolation.text (v : SchemaViolation) : String :=
  (match v.path with
    | [] => rootName
    | path => ".".intercalate path) ++ ": " ++ v.description

/-- A value has another type than the schema asks for. -/
def wrongType (path : List String) (expected given : JsonType) : SchemaViolation :=
  { path := path
    description := "Invalid type. Expected: " ++ expected.name ++ ", given: " ++ given.name }

/-- The keys that an object lacks. -/
def missingKeys (path required : List String) (members : List (String × Value)) :
    List SchemaViolation :=
  (required.filter fun key => !members.any fun m => m.1 == key).map fun key =>
    { path := path, description := key ++ " is required" }

/-- The schema of the part under a key, if the key is constrained and does not occur again. -/
def propertySchema? (properties : List (String × Schema)) (key : String)
    (later : List (String × Value)) : Option Schema :=
  if later.any fun m => m.1 == key then none
  else (properties.find? fun p => p.1 == key).map (·.2)

mutual

/-- All violations of a schema by a value at a path. -/
def violationsAt (path : List String) (s : Schema) (v : Value) : List SchemaViolation :=
  match v with
  | .text t =>
    match s.resolved with
    | .text minLength =>
      if t.length < minLength then
        [{ path := path
           description :=
             "String length must be greater than or equal to " ++ toString minLength }]
      else []
    | r => [wrongType path r.type .string]
  | .number n =>
    match s.resolved with
    | .natural =>
      if !n.isWhole then [wrongType path .integer .number]
      else if n.isBelowZero then
        [{ path := path, description := "Must be greater than or equal to 0" }]
      else []
    | r => [wrongType path r.type (typeOf (.number n))]
  | .list items =>
    match s.resolved with
    | .items element => violationsOfItems path 0 element items
    | r => [wrongType path r.type .array]
  | .object members =>
    match s.resolved with
    | .record required properties =>
      missingKeys path required members ++ violationsOfMembers path properties members
    | r => [wrongType path r.type .object]
  | .bool _ =>
    match s.resolved with
    | .flag => []
    | r => [wrongType path r.type .boolean]
  | .null => [wrongType path s.resolved.type .null]

/-- The violations of the elements of a list, starting with the given index. -/
def violationsOfItems (path : List String) (index : Nat) (element : Shape) :
    List Value → List SchemaViolation
  | [] => []
  | v :: rest =>
    violationsAt (path ++ [toString index]) (.shape element) v
      ++ violationsOfItems path (index + 1) element rest

/-- The violations of the members of an object. -/
def violationsOfMembers (path : List String) (properties : List (String × Schema)) :
    List (String × Value) → List SchemaViolation
  | [] => []
  | (key, v) :: rest =>
    (match propertySchema? properties key rest with
      | some s => violationsAt (path ++ [key]) s v
      | none => []) ++ violationsOfMembers path properties rest

end

/-- All violations of the document schema by a value. -/
def violations (v : Value) : List SchemaViolation :=
  violationsAt [] schema v

/-- The violations as texts in increasing order. -/
def violationTexts (v : Value) : List String :=
  ((violations v).map SchemaViolation.text).mergeSort fun a b => decide (a ≤ b)

end ModuleLint.Document
