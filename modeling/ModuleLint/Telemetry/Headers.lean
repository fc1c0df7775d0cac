import ModuleLint.Text.Blank
import ModuleLint.Text.Lines

/-!
# Headers of exports

Headers are given as one text, pairs of a key and a value with an equals sign between them and
commas between the pairs. The last value of a key counts.
-/

set_option autoImplicit false

namespace ModuleLint.Telemetry.Headers

/-- A pair of a key and a value without white space around them; a text without an equals sign is no
pair. -/
def pair? (s : String) : Option (String × String) :=
  let (key, rest) := (Text.trim s).toList.span (· != '=')
  match rest with
  | [] => none
  | _ :: value => some (Text.trim (String.ofList key), Text.trim (String.ofList value))

/-- Sets the value of a key in a list that is sorted by keys. -/
def set (key value : String) : List (String × String) → List (String × String)
  | [] => [(key, value)]
  | (k, v) :: rest =>
    if key < k then (key, value) :: (k, v) :: rest
    else if key == k then (key, value) :: rest
    else (k, v) :: set key value rest

/-- The headers of a text by increasing keys. -/
def parse (s : String) : List (String × String) :=
  ((Text.split ',' s).filterMap pair?).foldl (fun headers (k, v) => set k v headers) []

end ModuleLint.Telemetry.Headers
