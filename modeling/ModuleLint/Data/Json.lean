import ModuleLint.Data.Basic
import ModuleLint.Json.Quoted

/-!
# Data as JSON

Every field and every item has a line of its own and is indented by two blanks more than what it
belongs to. Empty records and lists stay on one line.
-/

set_option autoImplicit false

namespace ModuleLint.Data

/-- The start of a line at some depth. -/
def jsonIndent (depth : Nat) : String := String.ofList (List.replicate (2 * depth) ' ')

/-- Parts on lines of their own between two brackets. -/
def jsonBlock (opening closing : String) (depth : Nat) (parts : List String) : String :=
  if parts.isEmpty then opening ++ closing
  else
    let lines := parts.map fun p => jsonIndent (depth + 1) ++ p
    opening ++ "\n" ++ ",\n".intercalate lines ++ "\n" ++ jsonIndent depth ++ closing

mutual

/-- Data at some depth. -/
def json (depth : Nat) : Data → String
  | .text s => Json.quoted .report s
  | .number n => toString n
  | .record fields => jsonBlock "\x7b" "\x7d" depth (jsonFields (depth + 1) fields)
  | .records items => jsonBlock "[" "]" depth (jsonItems (depth + 1) items)

/-- The fields of a record. -/
def jsonFields (depth : Nat) : List (String × Data) → List String
  | [] => []
  | (key, value) :: rest =>
    (Json.quoted .report key ++ ": " ++ json depth value) :: jsonFields depth rest

/-- The items of a list. -/
def jsonItems (depth : Nat) : List (List (String × Data)) → List String
  | [] => []
  | fields :: rest =>
    jsonBlock "\x7b" "\x7d" depth (jsonFields (depth + 1) fields) :: jsonItems depth rest

end

/-- Data as a text with a line end. -/
def jsonText (d : Data) : String := json 0 d ++ "\n"

end ModuleLint.Data
