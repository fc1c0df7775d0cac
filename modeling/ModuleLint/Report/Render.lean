import ModuleLint.Report.Format
import ModuleLint.Report.Plain

/-!
# Writing reports
-/

set_option autoImplicit false

namespace ModuleLint.Report

/-- How a report for people looks. -/
structure Style where
  colored : Bool := false
  snippets : Bool := false
deriving Repr, DecidableEq

/-- A report in a format. -/
def render (format : Format) (style : Style) (stamp : RunStamp) (r : BatchReport) : String :=
  match format with
  | .text => plainText style.colored style.snippets stamp r
  | .json => jsonText stamp r
  | .yaml => yamlText stamp r

end ModuleLint.Report
