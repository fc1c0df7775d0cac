import ModuleLint.Directory
import ModuleLint.Document.Decode
import ModuleLint.Document.Reader
import ModuleLint.Document.Schema
import ModuleLint.Size
import ModuleLint.Telemetry.Record

/-!
# Loading modules

A text is compared with the schema and then decoded. Violations of the schema are fatal only when
the loader is strict; otherwise they are noted and decoding goes on. Whatever goes wrong, there is
a module afterwards: an empty one, named after the input.

The schema is compared with the first value of the text only, so text after it is found by the
decoder.
-/

set_option autoImplicit false

namespace ModuleLint

/-- How modules are loaded. A limit of zero bytes is no limit. -/
structure LoaderOptions where
  maxSize : UInt64 := 16777216
  strict : Bool := false
deriving Repr, DecidableEq, Inhabited

/-- Why an input yields no module. -/
inductive LoadCause where
  | unreadable (error : FileError)
  | tooLarge (limit : UInt64)
  | malformed
  | noModule
  | schema
deriving Repr, DecidableEq

/-- The text of a cause. -/
def LoadCause.message : LoadCause → String
  | .unreadable e => e.message
  | .tooLarge limit => "input exceeds size limit: more than " ++ Size.text limit
  | .malformed => "malformed module tree"
  | .noModule => "malformed module tree: no module object"
  | .schema => "module tree violates schema"

/-- An input that yields no module, with violations of the schema where these are the cause. -/
structure LoadError where
  source : String
  cause : LoadCause
  details : List String
deriving Repr, DecidableEq

/-- The text of a failed load. -/
def LoadError.message (e : LoadError) : String :=
  let base := "ingest " ++ e.source ++ ": " ++ e.cause.message
  if e.details.isEmpty then base else base ++ " (" ++ "; ".intercalate e.details ++ ")"

/-- The outcome of loading: a module in any case, the failure if there was one, and what was
noted. -/
structure Loaded where
  module : Module
  error : Option LoadError
  records : List Telemetry.Record

namespace Loader

/-- How many violations are named one by one, at most. -/
def detailLimit : Nat := 5

/-- The violations as details: all of them if they are few, else only that they are many. -/
def describe (violations : List String) : List String :=
  if violations.length < detailLimit then violations
  else [toString detailLimit ++ " or more"]

/-- A failed load. -/
def fail (source name : String) (cause : LoadCause) (details : List String)
    (noted : List Telemetry.Record) : Loaded :=
  let error : LoadError := { source := source, cause := cause, details := details }
  { module := Module.empty name
    error := some error
    records := noted ++
      [{ level := .warn
         message := "module ingestion failed"
         attributes := [("source", .text source), ("module", .text name),
           ("error", .text error.message)] }] }

/-- The note about violations of the schema that are not fatal. -/
def schemaNote (source : String) (violations : List String) : Telemetry.Record :=
  { level := .warn
    message := "module tree violates schema"
    attributes := [("source", .text source), ("violations", .number violations.length),
      ("first", .texts (describe violations))] }

/-- The note about a decoded module. -/
def decodedNote (m : Module) (tally : Document.Tally) : Telemetry.Record :=
  { level := .info
    message := "module decoded"
    attributes := [("module", .text m.name), ("variables", .number m.declarations.length),
      ("functions", .number m.functions.length), ("procedures", .number m.procedures.length),
      ("nodes", .number tally.nodes), ("dropped_ranges", .number tally.droppedRanges),
      ("generic_nodes", .number tally.genericNodes)] }

/-- Decodes a text that has passed the schema, or was allowed not to. -/
def decodeText (cs : List Char) (source name : String) (noted : List Telemetry.Record) : Loaded :=
  match (Json.readWhole cs).bind Document.ofValue? with
  | none => fail source name .malformed [] noted
  | some d =>
    match d.module? with
    | none => fail source name .noModule [] noted
    | some entry =>
      let m := entry.module d.source? name
      { module := m, error := none, records := noted ++ [decodedNote m entry.tally] }

/-- Compares a text with the schema and decodes it. -/
def decode (options : LoaderOptions) (data source name : String) : Loaded :=
  let cs := data.toList
  match Json.readFirst cs with
  | none => fail source name .malformed [] []
  | some (value, _) =>
    match Document.violationTexts value with
    | [] => decodeText cs source name []
    | violations =>
      if options.strict then fail source name .schema (describe violations) []
      else decodeText cs source name [schemaNote source violations]

/-- Decodes a text unless it is too long. -/
def load (options : LoaderOptions) (data source name : String) : Loaded :=
  if options.maxSize != 0 && data.utf8ByteSize > options.maxSize.toNat then
    fail source name (.tooLarge options.maxSize) [] []
  else decode options data source name

/-- The violations of the schema by a text in increasing order, if the text is JSON at all. -/
def validate? (data : String) : Option (List String) :=
  (Json.readFirst data.toList).map fun (value, _) => Document.violationTexts value

/-- The name of standard input. -/
def stdinName : String := "stdin"

/-- The last part of a path, without slashes at its end. -/
def baseName (path : String) : String :=
  let trimmed := (path.toList.reverse.dropWhile (· == '/'))
  if trimmed.isEmpty then (if path == "" then "." else "/")
  else String.ofList (trimmed.takeWhile (· != '/')).reverse

/-- The name of a module after its path: the last part up to its first point, or all of it if it
starts with one. -/
def moduleName (path : String) : String :=
  if path == "" || path == "-" then stdinName
  else
    let base := (baseName path).toList
    if base.head? == some '.' then String.ofList base
    else String.ofList (base.takeWhile (· != '.'))

/-- Loads what was read from a file, or notes why it could not be read. -/
def loadFile (options : LoaderOptions) (path : String) (contents : Except FileError String) :
    Loaded :=
  let name := moduleName path
  match contents with
  | .ok data => load options data path name
  | .error e => fail path name (.unreadable e) [] []

end Loader

end ModuleLint
