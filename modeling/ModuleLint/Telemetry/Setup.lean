import ModuleLint.Settings.Basic
import ModuleLint.Telemetry.Headers
import ModuleLint.Telemetry.Log

/-!
# Telemetry of a run

What the settings ask of logs, traces and metrics, and what setting them up yields.
-/

set_option autoImplicit false

namespace ModuleLint.Telemetry

/-- How a service reports about itself. -/
structure Setup where
  service : String
  version : String
  mode : String
  endpoint : String
  headers : List (String × String)
  insecure : Bool
  sampleRatio : Float
  keepsMetrics : Bool
  level : Level
  isJson : Bool
  shutdownSeconds : Nat

namespace Setup

/-- The name of the service. -/
def serviceName : String := "bslint"

/-- The mode of a run over several modules. -/
def batchMode : String := "batch"

/-- What the settings ask for. -/
def ofSettings (s : Settings) (version mode : String) : Setup :=
  { service := serviceName
    version := version
    mode := mode
    endpoint := s.telemetry.endpoint
    headers := Headers.parse s.telemetry.headers
    insecure := s.telemetry.insecure
    sampleRatio := s.telemetry.sampleRatio
    keepsMetrics := !s.telemetry.metricsFile.isEmpty
    level := Level.ofName s.logging.level
    isJson := Text.lower s.logging.format == "json"
    shutdownSeconds := 5 }

/-- The logger of a service. -/
def logger (s : Setup) : Logger := Logger.ofService s.service s.mode s.version s.level s.isJson

end Setup

/-- What metrics are kept with, and why its instruments cannot be made if that is so. -/
structure Meter where
  fault? : Option String
deriving Repr, DecidableEq

/-- What a set-up yields. There need not be a meter, nor a registry that metrics are written from. -/
structure Providers where
  meter? : Option Meter
  hasRegistry : Bool
deriving Repr, DecidableEq

/-- Why the metrics of a run cannot be created. -/
def Providers.fault? (p : Providers) : Option String := p.meter?.bind (·.fault?)

/-- Set-up without failure: a meter that works, and a registry if the metrics are kept. -/
def Providers.working (s : Setup) : Providers :=
  { meter? := some { fault? := none }, hasRegistry := s.keepsMetrics }

end ModuleLint.Telemetry
