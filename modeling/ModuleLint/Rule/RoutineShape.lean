import ModuleLint.Rule.Basic
import ModuleLint.Text.Search

/-!
# Rules about the shape of routines and of source lines
-/

set_option autoImplicit false

namespace ModuleLint.RoutineShape

/-- Counts the semicolons of a line that stand outside of strings and before a comment. A string
begins and ends with a double quote; a double quote inside of it is written twice, which ends the
string and begins it anew. -/
def countFrom : Bool → List Char → Nat
  | _, [] => 0
  | inString, c :: rest =>
    if c == '"' then countFrom (!inString) rest
    else if inString then countFrom inString rest
    else if c == '/' && rest.head? == some '/' then 0
    else if c == ';' then countFrom inString rest + 1
    else countFrom inString rest

/-- The number of statements that end on a line. -/
def countStatements (line : String) : Nat := countFrom false line.toList

/-- The source lines with their numbers. -/
def numberedLines (m : Module) : List (Nat × String) :=
  (List.range m.source.length).zip m.source

/-- What is said about a line with several statements. -/
def statementsComplaint (n : Nat) : String :=
  "line holds " ++ toString n ++ " statements; put each on its own line"

/-- A line holds one statement. -/
def oneStatementPerLine : Rule :=
  { info :=
      { code := "FUN-01"
        name := "One statement per line"
        description := "Do not write several statements on one line"
        severity := Severity.warning.name }
    behaviour :=
      { onModule := fun info m =>
          Verdict.of <| match m with
            | none => []
            | some m => (numberedLines m).filterMap fun (i, line) =>
              let n := countStatements line
              if n > 1 then
                some (info.violationAt (some m) (UInt64.ofNat (i + 1)) 1 (statementsComplaint n))
              else none } }

/-- A rule that looks at each procedure and may complain about it. -/
def procedureRule (info : RuleInfo) (look : RuleInfo → Routine → Site → Option Violation) : Rule :=
  { info := info
    behaviour := { onProcedure := some fun info p site => Verdict.of (look info p site).toList } }

/-- What is said about a procedure without statements. -/
def emptyComplaint (p : Routine) : String :=
  "procedure '" ++ p.name ++ "' is empty; add statements or remove it"

/-- A procedure has at least one statement. -/
def emptyProcedure : Rule :=
  procedureRule
    { code := "FUN-02"
      name := "Empty procedure"
      description := "A procedure must contain at least one statement"
      severity := Severity.warning.name }
    fun info p site =>
      if p.body.isEmpty then
        some (info.violation site.module? p.span (emptyComplaint p))
      else none

/-- The number of lines that a procedure may span unless configured otherwise. -/
def defaultMaxLines : UInt64 := 50

/-- What is said about a procedure of so many lines, where at most `limit` are recommended. -/
def lengthComplaint (limit : UInt64) (p : Routine) (length : UInt64) : String :=
  "procedure '" ++ p.name ++ "' is too long (" ++ toString length.toNat ++ " lines); at most "
    ++ toString limit.toNat ++ " recommended"

/-- A procedure does not span too many lines. The limit zero stands for the default. -/
def procedureLength (configured : UInt64) : Rule :=
  let limit := if configured == 0 then defaultMaxLines else configured
  procedureRule
    { code := "FUN-03"
      name := "Procedure too long"
      description := "A procedure should not span more lines than the configured limit"
      severity := Severity.warning.name }
    fun info p site =>
      if p.span.length > limit then
        some (info.violation site.module? p.span (lengthComplaint limit p p.span.length))
      else none

/-- The number of parameters that a routine may have unless configured otherwise. -/
def defaultMaxParameters : Int := 7

/-- The number of parameters with default values that a routine may have unless configured
otherwise. -/
def defaultMaxDefaults : Int := 3

/-- How many parameters seen so far have a default value, and whether one without followed. -/
structure DefaultCount where
  defaults : Nat
  misplaced : Bool
deriving Repr, DecidableEq

/-- Counts one more parameter; a missing one does not count. -/
def DefaultCount.add (c : DefaultCount) (p : Option Parameter) : DefaultCount :=
  match p with
  | none => c
  | some p =>
    if p.hasDefault then { c with defaults := c.defaults + 1 }
    else if c.defaults > 0 then { c with misplaced := true }
    else c

/-- The complaints about the parameters of a routine with so many of them that have default values: too
many at all or else too many with default values, and default values that do not come last. -/
def complaintsOf (maxTotal maxDefaults : Int) (kind : String) (r : Routine) (count : DefaultCount) :
    List String :=
  let total := r.parameters.length
  let crowded :=
    if (total : Int) > maxTotal then
      [kind ++ " '" ++ r.name ++ "' has " ++ toString total ++ " parameters; at most "
        ++ toString maxTotal ++ " recommended"]
    else if (count.defaults : Int) > maxDefaults then
      [kind ++ " '" ++ r.name ++ "' has " ++ toString count.defaults
        ++ " parameters with default values; at most " ++ toString maxDefaults ++ " recommended"]
    else []
  let misplaced :=
    if count.misplaced then
      [kind ++ " '" ++ r.name ++ "': parameters with default values must come last"]
    else []
  crowded ++ misplaced

/-- The complaints about the parameters of a routine. -/
def parameterComplaints (maxTotal maxDefaults : Int) (kind : String) (r : Routine) : List String :=
  complaintsOf maxTotal maxDefaults kind r
    (r.parameters.foldl DefaultCount.add { defaults := 0, misplaced := false })

/-- A limit that is not positive stands for the default. -/
def limitOr (default configured : Int) : Int := if configured ≤ 0 then default else configured

/-- A routine has few parameters, few of them with default values, and these come last. -/
def parameterCount (maxTotal maxDefaults : Int) : Rule :=
  let complaints := parameterComplaints (limitOr defaultMaxParameters maxTotal)
    (limitOr defaultMaxDefaults maxDefaults)
  let look (kind : String) (info : RuleInfo) (r : Routine) (site : Site) : Verdict :=
    Verdict.of ((complaints kind r).map (info.violation site.module? r.span))
  { info :=
      { code := "FUN-04"
        name := "Too many parameters"
        description := "A routine should take few parameters, few of them defaulted, defaults last"
        severity := Severity.warning.name }
    behaviour := { onFunction := some (look "Function"), onProcedure := some (look "Procedure") } }

/-- The source line above a line, if both exist. -/
def lineAbove? (m : Module) (line : UInt64) : Option String :=
  if line < 2 then none else m.source[line.toNat - 2]?

/-- What is said about a procedure without a comment. -/
def commentComplaint (p : Routine) : String :=
  "procedure '" ++ p.name ++ "' has no description; add a comment above it"

/-- A comment stands right above a procedure. Nothing is said where the source is not known. -/
def missingComment : Rule :=
  procedureRule
    { code := "FUN-05"
      name := "Missing procedure description"
      description := "Put a comment describing the procedure right above it"
      severity := Severity.info.name }
    fun info p site => do
      let m ← site.module?
      let above ← lineAbove? m p.span.line
      if Text.startsWith (Text.trim above) "//" then none
      else
        some (info.violationAt (some m) p.span.line 1 (commentComplaint p))

end ModuleLint.RoutineShape
