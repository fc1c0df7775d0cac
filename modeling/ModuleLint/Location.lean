/-!
# Places in a source text

Lines and columns count from one and are words of 64 bits. A range is kept as it was given, even
when it runs backwards: `Range.isForward` tells, and a backward range has no length.
-/

set_option autoImplicit false

namespace ModuleLint

/-- A line and a column. -/
structure Position where
  line : UInt64
  column : UInt64
deriving Repr, DecidableEq, Inhabited

/-- Positions are ordered by line, then by column. -/
def Position.before (p q : Position) : Bool :=
  if p.line ≠ q.line then p.line < q.line else p.column < q.column

/-- A position as `line:column`. -/
def Position.text (p : Position) : String :=
  toString p.line.toNat ++ ":" ++ toString p.column.toNat

/-- The stretch of source from one position up to and including another. -/
structure Range where
  start : Position
  stop : Position
deriving Repr, DecidableEq, Inhabited

/-- Whether the range does not end before it starts. -/
def Range.isForward (r : Range) : Bool :=
  !r.stop.before r.start

/-- The number of lines that a forward range covers beyond its first one. -/
def Range.lines (r : Range) : UInt64 :=
  if r.isForward then r.stop.line - r.start.line else 0

/-- The range of a single point. -/
def Range.point (line column : UInt64) : Range :=
  { start := { line := line, column := column }, stop := { line := line, column := column } }

/-- The range from the first column of one line to the first column of another. -/
def Range.ofLines (first last : UInt64) : Range :=
  { start := { line := first, column := 1 }, stop := { line := last, column := 1 } }

/-- Where a node stands, when its place is known. -/
abbrev Span := Option Range

/-- The line on which a node starts, zero if unknown. -/
def Span.line (s : Span) : UInt64 := match s with
  | some r => r.start.line
  | none => 0

/-- The column in which a node starts, zero if unknown. -/
def Span.column (s : Span) : UInt64 := match s with
  | some r => r.start.column
  | none => 0

/-- The line on which a node ends, zero if unknown. -/
def Span.endLine (s : Span) : UInt64 := match s with
  | some r => r.stop.line
  | none => 0

/-- The number of lines of a node beyond its first one, zero if unknown. -/
def Span.length (s : Span) : UInt64 := match s with
  | some r => r.lines
  | none => 0

end ModuleLint
