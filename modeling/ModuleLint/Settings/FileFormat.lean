import ModuleLint.Json.Reader
import ModuleLint.Settings.Assignment
import ModuleLint.Settings.Value
import ModuleLint.Toml.Document

/-!
# Formats of configuration files

The name of a configuration file tells its format. Whatever it is, the file holds a mapping, whose
keys do not depend on case.
-/

set_option autoImplicit false

namespace ModuleLint.Settings

/-- The format of a configuration file. -/
inductive FileFormat where
  | json
  | yaml
  | toml
  | assignments
deriving Repr, DecidableEq

/-- What follows the last point of the last part of a path. -/
def extension (path : String) : String :=
  let base := path.toList.reverse.takeWhile (· != '/')
  if base.contains '.' then String.ofList (base.takeWhile (· != '.')).reverse else ""

/-- The format that the name of a file tells. -/
def FileFormat.ofPath? (path : String) : Option FileFormat :=
  match extension path with
  | "json" => some .json
  | "yaml" => some .yaml
  | "yml" => some .yaml
  | "toml" => some .toml
  | "env" => some .assignments
  | "dotenv" => some .assignments
  | _ => none

mutual

/-- A TOML value. -/
def Value.ofToml : Toml.Value → Value
  | .text s => .text s
  | .quantity (.integer n) => .integer n
  | .quantity (.float x) => .float x
  | .quantity .moment => .moment
  | .flag b => .flag b
  | .list items => .list (Value.ofTomlItems items)
  | .table fields => .mapping (Value.ofTomlFields fields)

/-- The items of a TOML list. -/
def Value.ofTomlItems : List Toml.Value → List Value
  | [] => []
  | item :: rest => Value.ofToml item :: Value.ofTomlItems rest

/-- The fields of a TOML table. -/
def Value.ofTomlFields : List (String × Toml.Value) → List (String × Value)
  | [] => []
  | (key, value) :: rest => (key, Value.ofToml value) :: Value.ofTomlFields rest

end

/-- The fields of a value that is a mapping, or none at all if it is null. -/
def Value.fields? : Value → Option (List (String × Value))
  | .null => some []
  | .mapping fields => some fields
  | _ => none

/-- The fields of a configuration file, their keys in lower case. Environment variables can be
named in files of assignments. -/
def FileFormat.fields? (environment : List (String × String)) (text : String)
    (format : FileFormat) : Option (List (String × Value)) := do
  let fields ← match format with
    | .json => ((Json.readWhole text.toList).bind Value.ofJson?).bind Value.fields?
    | .yaml => ((Yaml.Node.read? text).bind Value.ofYaml?).bind Value.fields?
    | .toml => (Toml.read? text).map Value.ofTomlFields
    | .assignments =>
      (assignments? environment text).map fun pairs => pairs.map fun (key, s) => (key, .text s)
  pure (Value.lowerFields fields)

end ModuleLint.Settings
