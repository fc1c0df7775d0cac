import ModuleLint.Text.Blank
import ModuleLint.Text.Case
import ModuleLint.Text.Quoted

/-!
# Formats of reports
-/

set_option autoImplicit false

namespace ModuleLint.Report

/-- The formats of a report. -/
inductive Format where
  | text
  | json
  | yaml
deriving Repr, DecidableEq, Inhabited

namespace Format

/-- All formats. -/
def all : List Format := [text, json, yaml]

/-- The name of a format. -/
def name : Format → String
  | text => "text"
  | json => "json"
  | yaml => "yaml"

/-- The format of a name. -/
def ofName? (s : String) : Option Format := all.find? fun f => f.name == s

/-- Reads a format in any case and with white space around it; YAML has a short name too. -/
def parse? (s : String) : Option Format :=
  let name := Text.lower (Text.trim s)
  if name == "yml" then some yaml else ofName? name

/-- The text for a format that is not known. -/
def unknownMessage (s : String) : String := "unknown report format: " ++ Text.quoted s

end Format

end ModuleLint.Report
