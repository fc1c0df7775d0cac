import ModuleLint.Json.Quoted
import ModuleLint.Telemetry.Record
import ModuleLint.Text.Blank

/-!
# Log lines

A logger adds its own attributes to each record and can open groups, in which all further
attributes stand. Records are written as JSON objects, where groups are objects, or as pairs of a
key and a value, where the names of the groups stand before the keys. Groups at the end that hold
nothing vanish.
-/

set_option autoImplicit false

namespace ModuleLint.Telemetry

/-- A key with its value. -/
abbrev Pair := String × Attribute

/-- A value in a JSON line. -/
def Attribute.json : Attribute → String
  | .text s => Json.quoted .log s
  | .number n => toString n
  | .texts ss => "[" ++ ",".intercalate (ss.map (Json.quoted .log)) ++ "]"

/-- A value as a plain text. -/
def Attribute.plain : Attribute → String
  | .text s => s
  | .number n => toString n
  | .texts ss => "[" ++ " ".intercalate ss ++ "]"

/-- Whether a character makes quotes necessary. -/
def isAwkward (c : Char) : Bool :=
  if c.toNat < 0x80 then c.toNat < 0x20 || c == ' ' || c == '=' || c == '"'
  else c.toNat == 0xFFFD || Text.isBlank c || !Text.isPrintable c

/-- Whether a text has to be quoted in a line of pairs. -/
def needsQuotes (s : String) : Bool := s.isEmpty || s.toList.any isAwkward

/-- A text in a line of pairs. -/
def word (s : String) : String := if needsQuotes s then Text.quoted s else s

/-- A key in a line of pairs, after the names of its groups. -/
def groupedKey (groups key : String) : String :=
  if groups.isEmpty then word key
  else if needsQuotes groups || needsQuotes key then Text.quoted (groups ++ key)
  else groups ++ key

/-- Where to log, from which level on, and which attributes and groups each record gets. -/
structure Logger where
  isJson : Bool
  minimum : Level
  attributes : List Pair
  groups : List (String × List Pair)
deriving Repr, DecidableEq

namespace Logger

/-- The logger of a service. -/
def ofService (service mode version : String) (minimum : Level) (isJson : Bool) : Logger :=
  { isJson := isJson
    minimum := minimum
    attributes := [("service", .text service), ("mode", .text mode)]
      ++ (if version.isEmpty then [] else [("version", .text version)])
    groups := [] }

/-- Adds attributes to a list of groups, at the innermost one. -/
def addToLast (pairs : List Pair) : List (String × List Pair) → List (String × List Pair)
  | [] => []
  | [(name, old)] => [(name, old ++ pairs)]
  | g :: h :: rest => g :: addToLast pairs (h :: rest)

/-- The logger with further attributes. -/
def withAttributes (l : Logger) (pairs : List Pair) : Logger :=
  if l.groups.isEmpty then { l with attributes := l.attributes ++ pairs }
  else { l with groups := addToLast pairs l.groups }

/-- The logger with one more open group; a group without a name is none. -/
def withGroup (l : Logger) (name : String) : Logger :=
  if name.isEmpty then l else { l with groups := l.groups ++ [(name, [])] }

/-- The groups without those at the end that hold nothing. -/
def filledGroups (groups : List (String × List Pair)) : List (String × List Pair) :=
  (groups.reverse.dropWhile fun g => g.2.isEmpty).reverse

/-- Members of a JSON object. -/
def members (pairs : List Pair) : List String :=
  pairs.map fun (k, v) => Json.quoted .log k ++ ":" ++ v.json

/-- The groups as members, each inside the one before it. -/
def groupMembers : List (String × List Pair) → List String
  | [] => []
  | (name, pairs) :: rest =>
    [Json.quoted .log name ++ ":\x7b" ++ ",".intercalate (members pairs ++ groupMembers rest)
      ++ "\x7d"]

/-- A record as a JSON object. -/
def jsonLine (l : Logger) (r : Record) : String :=
  let own : List Pair := [("level", .text r.level.text), ("msg", .text r.message)]
  "\x7b" ++ ",".intercalate (members (own ++ l.attributes) ++ groupMembers (filledGroups l.groups))
    ++ "\x7d\n"

/-- Pairs of a line, after the names of their groups. -/
def fields (groups : String) (pairs : List Pair) : List String :=
  pairs.map fun (k, v) => groupedKey groups k ++ "=" ++ word v.plain

/-- The pairs of the groups. -/
def groupFields (outer : String) : List (String × List Pair) → List String
  | [] => []
  | (name, pairs) :: rest =>
    let inner := outer ++ name ++ "."
    fields inner pairs ++ groupFields inner rest

/-- A record as a line of pairs. -/
def plainLine (l : Logger) (r : Record) : String :=
  let own : List Pair := [("level", .text r.level.text), ("msg", .text r.message)]
  " ".intercalate (fields "" (own ++ l.attributes) ++ groupFields "" l.groups) ++ "\n"

/-- The line of a record; nothing when its level is too low. -/
def line (l : Logger) (r : Record) : String :=
  if r.level.value < l.minimum.value then ""
  else
    let full := l.withAttributes r.attributes
    if l.isJson then full.jsonLine r else full.plainLine r

end Logger

/-- The identity of a span: both numbers in hexadecimal. -/
structure SpanIdentity where
  trace : String
  span : String
deriving Repr, DecidableEq

/-- Whether a number is written with the given count of small hexadecimal digits and is not zero. -/
def isIdentity (width : Nat) (s : String) : Bool :=
  let isHex (c : Char) : Bool := c.isDigit || ('a' ≤ c && c ≤ 'f')
  s.length == width && s.toList.all isHex && s.toList.any (· != '0')

/-- Whether both numbers are valid. -/
def SpanIdentity.isValid (i : SpanIdentity) : Bool := isIdentity 32 i.trace && isIdentity 16 i.span

/-- The record with what is known about the run that it belongs to. -/
def Record.inRun (r : Record) (span : SpanIdentity) (run : String) : Record :=
  { r with attributes := r.attributes
      ++ (if span.isValid then [("trace_id", .text span.trace), ("span_id", .text span.span)]
          else [])
      ++ (if run.isEmpty then [] else [("run_id", .text run)]) }

end ModuleLint.Telemetry
