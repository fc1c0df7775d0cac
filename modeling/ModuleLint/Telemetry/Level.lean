import ModuleLint.Text.Case

/-!
# Levels of log records

A level is a word of 64 bits. Four levels have names, and a level in between is written as the named
level below it with the distance, such as `WARN+2`.
-/

set_option autoImplicit false

namespace ModuleLint.Telemetry

/-- How important a log record is. -/
structure Level where
  value : Int64
deriving Repr, DecidableEq, Inhabited

namespace Level

/-- For the search of errors. -/
def debug : Level := ⟨-4⟩

/-- For information. -/
def info : Level := ⟨0⟩

/-- For what deserves attention. -/
def warn : Level := ⟨4⟩

/-- For failures. -/
def error : Level := ⟨8⟩

/-- The named levels in order. -/
def named : List (String × Level) :=
  [("DEBUG", debug), ("INFO", info), ("WARN", warn), ("ERROR", error)]

/-- A name with the distance to its level, written with its sign. -/
def withOffset (name : String) (offset : Int64) : String :=
  if offset == 0 then name
  else name ++ (if offset > 0 then "+" else "") ++ toString offset.toInt

/-- A level as a text. -/
def text (l : Level) : String :=
  if l.value < info.value then withOffset "DEBUG" (l.value - debug.value)
  else if l.value < warn.value then withOffset "INFO" (l.value - info.value)
  else if l.value < error.value then withOffset "WARN" (l.value - warn.value)
  else withOffset "ERROR" (l.value - error.value)

/-- A decimal number of at least one digit. -/
def readDigits? (cs : List Char) : Option Nat :=
  if cs.isEmpty || !cs.all Char.isDigit then none
  else some (cs.foldl (fun n c => 10 * n + (c.toNat - '0'.toNat)) 0)

/-- A signed decimal number that fits into 64 bits. -/
def readOffset? (cs : List Char) : Option Int64 :=
  match cs with
  | '-' :: ds =>
    (readDigits? ds).bind fun n => if n ≤ Nat.pow 2 63 then some (Int64.ofInt (-n)) else none
  | '+' :: ds =>
    (readDigits? ds).bind fun n => if n < Nat.pow 2 63 then some (Int64.ofNat n) else none
  | ds => (readDigits? ds).bind fun n => if n < Nat.pow 2 63 then some (Int64.ofNat n) else none

/-- Reads a level: a name in any case, with an optional signed distance after it. -/
def parse? (s : String) : Option Level :=
  let (name, rest) := s.toList.span fun c => c != '+' && c != '-'
  let offset? := if rest.isEmpty then some 0 else readOffset? rest
  match offset?, named.lookup (Text.upper (String.ofList name)) with
  | some offset, some l => some ⟨l.value + offset⟩
  | _, _ => none

/-- Reads a level; what is none counts as information. -/
def ofName (s : String) : Level := (parse? s).getD info

end Level

end ModuleLint.Telemetry
