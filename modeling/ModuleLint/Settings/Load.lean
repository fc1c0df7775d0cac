import ModuleLint.Directory
import ModuleLint.Settings.Basic
import ModuleLint.Settings.Conversion
import ModuleLint.Settings.FileFormat

/-!
# Where settings come from

A setting is taken from an environment variable, else from the configuration file, else it has its
default value. Variables are named after the section and the key; an empty one counts as not set. A
variable that is named after a section alone hides all other sources of that section.
-/

set_option autoImplicit false

namespace ModuleLint.Settings

/-- The sources of settings: the fields of the file, and the environment variables. -/
structure Layers where
  file : List (String × Value)
  environment : List (String × String)

/-- The start of the names of all variables. -/
def variableStart : String := "BSLINT_"

/-- The name of the variable for a section, or for a key of a section. -/
def variableName (path : List String) : String :=
  variableStart ++ Text.upper ("_".intercalate path)

/-- The value of the variable for a path, unless it is empty. -/
def Layers.setVariable? (l : Layers) (path : List String) : Option String :=
  (l.environment.lookup (variableName path)).filter (· != "")

/-- Where the settings of a section come from: from all layers, from the defaults alone when the
file names the section and says nothing about it, or from nothing that could be used. -/
inductive SectionState where
  | layered
  | untouched
  | unusable
deriving Repr, DecidableEq

/-- The state of a section. -/
def Layers.sectionState (l : Layers) (name : String) : SectionState :=
  match field? name l.file with
  | none => .layered
  | some (.mapping _) => .layered
  | some .null => if (l.setVariable? [name]).isSome then .unusable else .untouched
  | some _ => .unusable

/-- What is known about one setting. -/
inductive Setting where
  | given (value : Value)
  | unset
  | hidden

/-- The value of a setting in the file. The section and the key may be written as one key. -/
def Layers.fileValue? (l : Layers) (name key : String) : Option Value :=
  let present : Option Value → Option Value
    | some .null => none
    | value? => value?
  match present (field? (name ++ "." ++ key) l.file) with
  | some value => some value
  | none =>
    match field? name l.file with
    | some (.mapping fields) => present (field? key fields)
    | _ => none

/-- Looks up a setting. -/
def Layers.setting (l : Layers) (name key : String) : Setting :=
  match l.sectionState name with
  | .untouched => .unset
  | _ =>
    match l.setVariable? [name, key] with
    | some s => .given (.text s)
    | none =>
      if (l.setVariable? [name]).isSome then .hidden
      else match l.fileValue? name key with
        | some value => .given value
        | none => .unset

/-- Converts a setting; one that is not set has its default value, and one that is hidden none. -/
def Setting.convert {α : Type} (convert? : Value → Option α) (fallback nothing : α) :
    Setting → Option α
  | .given value => convert? value
  | .unset => some fallback
  | .hidden => some nothing

/-- The settings of the rules. -/
def Layers.rules? (l : Layers) : Option RuleSettings := do
  let d := RuleSettings.default
  let get := l.setting "rules"
  let disabled ← (get "disabled").convert texts? d.disabled []
  let severity ← (get "severity").convert pairs? d.severity []
  let maxParameters ← (get "max_parameters").convert int? d.maxParameters 0
  let maxDefaultParameters ← (get "max_default_parameters").convert int? d.maxDefaultParameters 0
  let maxProcedureLines ← (get "max_procedure_lines").convert int? d.maxProcedureLines 0
  let loopCounters ←
    (get "loop_counters").convert (fun value => (texts? value).map some) d.loopCounters none
  pure { disabled := disabled, severity := severity, maxParameters := maxParameters
         maxDefaultParameters := maxDefaultParameters, maxProcedureLines := maxProcedureLines
         loopCounters := loopCounters }

/-- The settings of the analysis. -/
def Layers.analysis? (l : Layers) : Option AnalysisSettings := do
  let d := Settings.default.analysis
  let get := l.setting "analysis"
  let workers ← (get "workers").convert int? d.workers 0
  let exempt ← (get "exempt_exported_unused").convert flag? d.exemptExportedUnused false
  let maxInputSize ← (get "max_input_size").convert text? d.maxInputSize ""
  let strictSchema ← (get "strict_schema").convert flag? d.strictSchema false
  let maxIterations ← (get "max_iterations").convert int? d.maxIterations 0
  pure { workers := workers, exemptExportedUnused := exempt, maxInputSize := maxInputSize
         strictSchema := strictSchema, maxIterations := maxIterations }

/-- The settings of logging. -/
def Layers.logging? (l : Layers) : Option LoggingSettings := do
  let d := Settings.default.logging
  let get := l.setting "logging"
  let level ← (get "level").convert text? d.level ""
  let format ← (get "format").convert text? d.format ""
  pure { level := level, format := format }

/-- The settings of telemetry. -/
def Layers.telemetry? (l : Layers) : Option TelemetrySettings := do
  let d := Settings.default.telemetry
  let get := l.setting "telemetry"
  let endpoint ← (get "otlp_endpoint").convert text? d.endpoint ""
  let headers ← (get "otlp_headers").convert text? d.headers ""
  let insecure ← (get "otlp_insecure").convert flag? d.insecure false
  let sampleRatio ← (get "sample_ratio").convert float? d.sampleRatio 0
  let metricsFile ← (get "metrics_file").convert text? d.metricsFile ""
  pure { endpoint := endpoint, headers := headers, insecure := insecure
         sampleRatio := sampleRatio, metricsFile := metricsFile }

/-- The sections with their keys. -/
def sections : List (String × List String) :=
  [("rules", ["disabled", "severity", "max_parameters", "max_default_parameters",
      "max_procedure_lines", "loop_counters"]),
    ("analysis", ["workers", "exempt_exported_unused", "max_input_size", "strict_schema",
      "max_iterations"]),
    ("logging", ["level", "format"]),
    ("telemetry", ["otlp_endpoint", "otlp_headers", "otlp_insecure", "sample_ratio",
      "metrics_file"])]

/-- The names of all variables. -/
def variableNames : List String :=
  sections.flatMap fun (name, keys) =>
    variableName [name] :: keys.map fun key => variableName [name, key]

/-- The settings that the layers give, before they are examined for faults. -/
def Layers.settings? (l : Layers) : Option Settings := do
  if sections.any fun s => l.sectionState s.1 == .unusable then none
  let rules ← l.rules?
  let analysis ← l.analysis?
  let logging ← l.logging?
  let telemetry ← l.telemetry?
  pure { rules := rules, analysis := analysis, logging := logging, telemetry := telemetry }

/-- The names that a configuration file can have when none is named, in the order in which they are
looked for. All of them are read as YAML. -/
def usualNames : List String :=
  ([".json", ".toml", ".yaml", ".yml", ".properties", ".props", ".prop", ".hcl", ".tfvars",
    ".dotenv", ".env", ".ini", ""]).map fun ending => ".bslint" ++ ending

/-- The fields of the configuration file. A file that is named has to be there, and its name has
to tell its format. -/
def fileFields (read : String → Except FileError String)
    (environment : List (String × String)) (path : String) :
    Except SettingsError (List (String × Value)) :=
  if path.isEmpty then
    match usualNames.findSome? fun name => (read name).toOption with
    | none => .ok []
    | some text => (FileFormat.yaml.fields? environment text).elim (.error .unreadable) .ok
  else
    match FileFormat.ofPath? path, read path with
    | some format, .ok text => (format.fields? environment text).elim (.error .unreadable) .ok
    | _, _ => .error .unreadable

/-- Loads the settings. -/
def load (read : String → Except FileError String) (environment : List (String × String))
    (path : String) : Except SettingsError Settings := do
  let fields ← fileFields read environment path
  match ({ file := fields, environment := environment } : Layers).settings? with
  | none => throw .undecodable
  | some s =>
    match s.fault? with
    | some e => throw e
    | none => pure s

end ModuleLint.Settings
