import ModuleLint.Decimal.Shortest
import ModuleLint.Telemetry.Metrics
import ModuleLint.Text.Quoted

/-!
# Metrics as a text

Each series has one line, and a histogram has one for each of its buckets and one for the number of
its observations.
-/

set_option autoImplicit false

namespace ModuleLint.Telemetry.Series

/-- Labels with their values. -/
def labelText (labels : List (String × String)) : String :=
  if labels.isEmpty then ""
  else "\x7b" ++ ",".intercalate (labels.map fun (k, v) => k ++ "=" ++ Text.quoted v) ++ "\x7d"

/-- One line of a text. -/
def lineText (name : String) (labels : List (String × String)) (n : Int) : String :=
  name ++ labelText labels ++ " " ++ toString n ++ "\n"

/-- The lines of a series. -/
def text (s : Series) : String :=
  match s.value with
  | .amount n => lineText s.name s.labels n
  | .histogram h =>
    let bounds := Histogram.bounds.map generalText ++ ["+Inf"]
    String.join ((bounds.zip (h.buckets ++ [h.count])).map fun (bound, n) =>
      lineText (s.name ++ "_bucket") (s.labels ++ [("le", bound)]) n)
    ++ lineText (s.name ++ "_count") s.labels h.count

end ModuleLint.Telemetry.Series

namespace ModuleLint.Telemetry

/-- All metrics as a text. -/
def Metrics.text (m : Metrics) : String := String.join (m.series.map Series.text)

end ModuleLint.Telemetry
