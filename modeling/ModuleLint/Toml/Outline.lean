/-!
# What a TOML document has defined so far

A key can be given once. A table can be named by one header, but headers of tables inside of it may
come first; dotted keys define tables too, and these cannot be named or extended afterwards. A list
of tables gets a new table each time its header is repeated, and only its headers extend it.
-/

set_option autoImplicit false

namespace ModuleLint.Toml

/-- A key, or a dotted key part by part. -/
abbrev Key : Type := List String

/-- What a name stands for. -/
inductive Role where
  | value
  | table
  | tables
deriving Repr, DecidableEq

/-- A name that has been defined, with the names inside of it. It is fixed when nothing can be added
by another statement, and dotted while only dotted keys of the current table have defined it. -/
inductive Entry where
  | mk (name : String) (role : Role) (isFixed isDotted : Bool) (parts : List Entry)
deriving Repr

namespace Entry

/-- The name. -/
def name : Entry → String
  | .mk name _ _ _ _ => name

/-- What the name stands for. -/
def role : Entry → Role
  | .mk _ role _ _ _ => role

/-- Whether nothing can be added. -/
def isFixed : Entry → Bool
  | .mk _ _ isFixed _ _ => isFixed

/-- The names inside. -/
def parts : Entry → List Entry
  | .mk _ _ _ _ parts => parts

/-- The entry with other names inside. -/
def withParts (parts : List Entry) : Entry → Entry
  | .mk name role isFixed isDotted _ => .mk name role isFixed isDotted parts

mutual

/-- Fixes what dotted keys have defined. -/
def fixDotted : Entry → Entry
  | .mk name role isFixed isDotted parts =>
    .mk name role (isFixed || isDotted) false (fixAllDotted parts)

/-- Fixes what dotted keys have defined in several entries. -/
def fixAllDotted : List Entry → List Entry
  | [] => []
  | e :: rest => e.fixDotted :: fixAllDotted rest

end

end Entry

/-- The names that are defined. -/
abbrev Outline : Type := List Entry

namespace Outline

/-- The entry of a name. -/
def find? (name : String) (o : Outline) : Option Entry := List.find? (·.name == name) o

/-- Puts an entry in the place of the one with the same name, or at the end. -/
def set (e : Entry) (o : Outline) : Outline :=
  if o.any (·.name == e.name) then o.map fun d => if d.name == e.name then e else d
  else o ++ [e]

/-- Changes the names inside of the table with a given key. -/
def updateAt (f : Outline → Option Outline) : Key → Outline → Option Outline
  | [], o => f o
  | name :: rest, o => do
    let e ← o.find? name
    let parts ← updateAt f rest e.parts
    pure (o.set (e.withParts parts))

/-- Names a table, or one more of a list of tables. The tables around it are defined as needed. -/
def addHeader? (role : Role) : Key → Outline → Option Outline
  | [], _ => none
  | [name], o =>
    match o.find? name with
    | none => some (o.set (.mk name role true false []))
    | some e =>
      if e.role != role then none
      else if role = .tables then some (o.set (e.withParts []))
      else if e.isFixed then none
      else some (o.set (.mk name role true false e.parts))
  | name :: rest, o =>
    match o.find? name with
    | none => do
      let parts ← addHeader? role rest []
      pure (o.set (.mk name .table false false parts))
    | some e =>
      if e.role = .value then none
      else do
        let parts ← addHeader? role rest e.parts
        pure (o.set (e.withParts parts))

/-- Gives a value to a key. -/
def addField? : Key → Outline → Option Outline
  | [], _ => none
  | [name], o =>
    match o.find? name with
    | none => some (o.set (.mk name .value false true []))
    | some _ => none
  | name :: rest, o =>
    match o.find? name with
    | none => do
      let parts ← addField? rest []
      pure (o.set (.mk name .table false true parts))
    | some e =>
      if e.role != .table || e.isFixed then none
      else do
        let parts ← addField? rest e.parts
        pure (o.set (e.withParts parts))

/-- Fixes what dotted keys have defined in the table with a given key. -/
def leave (current : Key) (o : Outline) : Outline :=
  (updateAt (fun parts => some (Entry.fixAllDotted parts)) current o).getD o

end Outline

end ModuleLint.Toml
