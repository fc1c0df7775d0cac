import ModuleLint.Json.Basic
import ModuleLint.Text.Case
import ModuleLint.Yaml.Node
import ModuleLint.Yaml.Resolution

/-!
# What a configuration file holds

Whatever its format, a configuration file holds values: scalars, lists and mappings. Keys are texts
and do not depend on case.
-/

set_option autoImplicit false

namespace ModuleLint.Settings

/-- A value of a configuration file. The fields of a mapping stay in order. -/
inductive Value where
  | null
  | flag (b : Bool)
  | integer (n : Int)
  | float (x : Float)
  | moment
  | text (s : String)
  | list (items : List Value)
  | mapping (fields : List (String × Value))
deriving Repr, Inhabited

mutual

/-- A JSON value; numbers that are too large are refused. -/
def Value.ofJson? : Json.Value → Option Value
  | .null => some .null
  | .bool b => some (.flag b)
  | .number n => n.nearest?.map .float
  | .text s => some (.text s)
  | .list items => (Value.ofJsonItems? items).map .list
  | .object members => (Value.ofJsonMembers? members).map .mapping

/-- The items of a JSON list. -/
def Value.ofJsonItems? : List Json.Value → Option (List Value)
  | [] => some []
  | item :: rest => do
    let value ← Value.ofJson? item
    let values ← Value.ofJsonItems? rest
    pure (value :: values)

/-- The members of a JSON object. -/
def Value.ofJsonMembers? : List (String × Json.Value) → Option (List (String × Value))
  | [] => some []
  | (key, member) :: rest => do
    let value ← Value.ofJson? member
    let fields ← Value.ofJsonMembers? rest
    pure ((key, value) :: fields)

end

/-- What a plain scalar stands for. -/
def Value.ofMeaning : Yaml.Meaning → Value
  | .null => .null
  | .flag b => .flag b
  | .integer n => .integer n
  | .float x => .float x
  | .moment _ => .moment
  | .text s => .text s

/-- The key of a field as it is written; only scalars can be keys. -/
def writtenKey? : Yaml.Node × Yaml.Node → Option String
  | (.scalar s _, _) => some s
  | _ => none

/-- Whether the fields of a YAML mapping have scalars as keys, no two of them written alike. -/
def hasDistinctKeys (fields : List (Yaml.Node × Yaml.Node)) : Bool :=
  (fields.mapM writtenKey?).any fun keys => decide keys.Nodup

/-- The fields that a mapping takes over from another one, or from several, of which the first has
precedence. -/
def mergedFields? : Value → Option (List (String × Value))
  | .mapping fields => some fields
  | .list items => do
    let parts ← items.mapM fun
      | .mapping fields => some fields
      | _ => none
    pure parts.reverse.flatten
  | _ => none

mutual

/-- A YAML node. -/
def Value.ofYaml? : Yaml.Node → Option Value
  | .scalar s isPlain => some (if isPlain then .ofMeaning (.of s) else .text s)
  | .list items => (Value.ofYamlItems? items).map .list
  | .mapping fields =>
    if hasDistinctKeys fields then
      (Value.ofYamlFields? fields).map fun (merged, own) => .mapping (merged ++ own)
    else none

/-- The items of a YAML list. -/
def Value.ofYamlItems? : List Yaml.Node → Option (List Value)
  | [] => some []
  | item :: rest => do
    let value ← Value.ofYaml? item
    let values ← Value.ofYamlItems? rest
    pure (value :: values)

/-- The fields of a YAML mapping: those it takes over from other mappings, and its own. A key that
is not a text is named after what it stands for. -/
def Value.ofYamlFields? :
    List (Yaml.Node × Yaml.Node) → Option (List (String × Value) × List (String × Value))
  | [] => some ([], [])
  | (key, node) :: rest => do
    let value ← Value.ofYaml? node
    let (merged, own) ← Value.ofYamlFields? rest
    match key with
    | .scalar s true =>
      if s == "<<" then
        let fields ← mergedFields? value
        pure (fields, own)
      else pure (merged, ((Yaml.Meaning.of s).name, value) :: own)
    | .scalar s false => pure (merged, (s, value) :: own)
    | _ => none

end

mutual

/-- A value with all keys in lower case. -/
def Value.lowerKeys : Value → Value
  | .list items => .list (Value.lowerItems items)
  | .mapping fields => .mapping (Value.lowerFields fields)
  | value => value

/-- Values with all keys in lower case. -/
def Value.lowerItems : List Value → List Value
  | [] => []
  | value :: rest => value.lowerKeys :: Value.lowerItems rest

/-- Fields with all keys in lower case. -/
def Value.lowerFields : List (String × Value) → List (String × Value)
  | [] => []
  | (key, value) :: rest => (Text.lower key, value.lowerKeys) :: Value.lowerFields rest

end

/-- The value of a key; the last one counts if the key is repeated. -/
def field? (key : String) (fields : List (String × Value)) : Option Value :=
  (fields.reverse.find? fun f => f.1 == key).map (·.2)

end ModuleLint.Settings
