import ModuleLint.Data.Basic
import ModuleLint.Yaml.Scalar

/-!
# Data as YAML

Records are block mappings and lists block sequences, both indented by two blanks. A key that is
long or has several lines is marked by a question mark.
-/

set_option autoImplicit false

namespace ModuleLint.Data

/-- The longest key, in bytes, that can stand before a colon on the same line. -/
def yamlKeyLimit : Nat := 128

/-- A text with a break at its end. -/
def endLine (s : String) : String :=
  if s.toList.getLast?.any Yaml.isBreak then s else s ++ "\n"

/-- Blanks at the start of a line. -/
def yamlIndent (indent : Nat) : String := String.ofList (Yaml.blanks indent)

/-- A key and its colon, in a mapping of the given indentation. -/
def yamlKey (indent : Nat) (key : String) : String :=
  let shown := Yaml.scalar (indent + 2) key
  if key.utf8ByteSize ≤ yamlKeyLimit && !key.toList.any Yaml.isBreak then shown ++ ":"
  else "? " ++ endLine shown ++ yamlIndent indent ++ ":"

mutual

/-- What follows the colon of a key, up to the end of its last line. -/
def yamlValue (indent : Nat) : Data → String
  | .text s => endLine (" " ++ Yaml.scalar (indent + 2) s)
  | .number n => " " ++ toString n ++ "\n"
  | .record [] => " \x7b\x7d\n"
  | .record fields => "\n" ++ yamlFields (indent + 2) (yamlIndent (indent + 2)) fields
  | .records [] => " []\n"
  | .records items => "\n" ++ yamlItems (indent + 2) items

/-- The fields of a mapping. The first one is led in differently inside of a sequence. -/
def yamlFields (indent : Nat) (lead : String) : List (String × Data) → String
  | [] => ""
  | (key, value) :: rest =>
    lead ++ yamlKey indent key ++ yamlValue indent value
      ++ yamlFields indent (yamlIndent indent) rest

/-- The items of a sequence. -/
def yamlItems (indent : Nat) : List (List (String × Data)) → String
  | [] => ""
  | fields :: rest =>
    yamlFields (indent + 2) (yamlIndent indent ++ "- ") fields ++ yamlItems indent rest

end

/-- A record as a document. -/
def yamlText (fields : List (String × Data)) : String := yamlFields 0 "" fields

end ModuleLint.Data
