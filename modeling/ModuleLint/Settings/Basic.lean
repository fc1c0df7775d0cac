import ModuleLint.Decimal.Shortest
import ModuleLint.Rule.Catalog
import ModuleLint.Size

/-!
# Settings

What can be configured, what holds unless it is, and what is not acceptable. The first fault
counts, in a fixed order.
-/

set_option autoImplicit false

namespace ModuleLint

/-- How modules are read and analysed. -/
structure AnalysisSettings where
  workers : Int
  exemptExportedUnused : Bool
  maxInputSize : String
  strictSchema : Bool
  maxIterations : Int
deriving Repr, DecidableEq, Inhabited

/-- What is logged and how. -/
structure LoggingSettings where
  level : String
  format : String
deriving Repr, DecidableEq, Inhabited

/-- Where traces and metrics go. -/
structure TelemetrySettings where
  endpoint : String
  headers : String
  insecure : Bool
  sampleRatio : Float
  metricsFile : String
deriving Repr, Inhabited

/-- All settings. -/
structure Settings where
  rules : RuleSettings
  analysis : AnalysisSettings
  logging : LoggingSettings
  telemetry : TelemetrySettings
deriving Repr, Inhabited

/-- Why settings cannot be used. -/
inductive SettingsError where
  | unreadable
  | undecodable
  | negativeWorkers (n : Int)
  | negativeIterations (n : Int)
  | negativeLimit (name : String) (n : Int)
  | invalidSize (text : String) (cause : Size.ParseError)
  | invalidLevel (text : String)
  | invalidFormat (text : String)
  | invalidRatio (x : Float)

namespace Settings

/-- The settings that hold unless others are given. -/
def default : Settings :=
  { rules := RuleSettings.default
    analysis :=
      { workers := 0, exemptExportedUnused := false, maxInputSize := "16MB", strictSchema := false
        maxIterations := 100000 }
    logging := { level := "info", format := "text" }
    telemetry :=
      { endpoint := "", headers := "", insecure := false, sampleRatio := 1.0, metricsFile := "" } }

end Settings

/-- The complaint about a size that cannot be read. -/
def invalidSizeMessage (text : String) (cause : Size.ParseError) : String :=
  "invalid max input size: " ++ Text.quoted text ++ ": " ++ cause.message

/-- The text of a fault. -/
def SettingsError.message : SettingsError → String
  | .unreadable => "failed to read config file"
  | .undecodable => "failed to unmarshal config"
  | .negativeWorkers n =>
    "invalid configuration: workers must not be negative: " ++ toString n
  | .negativeIterations n =>
    "invalid configuration: max iterations must not be negative: " ++ toString n
  | .negativeLimit name n =>
    "invalid configuration: rule limit must not be negative: " ++ name ++ "=" ++ toString n
  | .invalidSize text cause => "invalid configuration: " ++ invalidSizeMessage text cause
  | .invalidLevel text => "invalid configuration: invalid log level: " ++ Text.quoted text
  | .invalidFormat text => "invalid configuration: invalid log format: " ++ Text.quoted text
  | .invalidRatio x =>
    "invalid configuration: sample ratio must be within [0, 1]: " ++ generalText x

namespace Settings

/-- The levels that can be configured. -/
def logLevels : List String := ["debug", "info", "warn", "error"]

/-- The log formats that can be configured. -/
def logFormats : List String := ["text", "json"]

/-- The first limit of a rule that is negative. -/
def negativeLimit? (s : Settings) : Option (String × Int) :=
  [("max_parameters", s.rules.maxParameters),
    ("max_default_parameters", s.rules.maxDefaultParameters),
    ("max_procedure_lines", s.rules.maxProcedureLines)].find? fun (_, n) => n < 0

/-- The first fault of the settings, if they have one. -/
def fault? (s : Settings) : Option SettingsError :=
  if s.analysis.workers < 0 then some (.negativeWorkers s.analysis.workers)
  else if s.analysis.maxIterations < 0 then some (.negativeIterations s.analysis.maxIterations)
  else match s.negativeLimit? with
    | some (name, n) => some (.negativeLimit name n)
    | none =>
      match Size.parse s.analysis.maxInputSize with
      | .error cause => some (.invalidSize s.analysis.maxInputSize cause)
      | .ok _ =>
        if !logLevels.contains (Text.lower s.logging.level) then
          some (.invalidLevel s.logging.level)
        else if !logFormats.contains (Text.lower s.logging.format) then
          some (.invalidFormat s.logging.format)
        else if s.telemetry.sampleRatio < 0 || s.telemetry.sampleRatio > 1 then
          some (.invalidRatio s.telemetry.sampleRatio)
        else none

end Settings

end ModuleLint
