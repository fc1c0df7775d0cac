import ModuleLint.Terminal.Style
import ModuleLint.Text.Case
import ModuleLint.Text.Lines
import ModuleLint.Text.Width

/-!
# Tables without borders

Every cell is filled up to the width of its column and has one blank on each side. A cell with
several lines makes its row as high as needed. Escape sequences take no columns. Headers and
footers are in capitals.
-/

set_option autoImplicit false

namespace ModuleLint.Terminal

/-- What kind of escape sequence a reader is in, as far as it is known. -/
inductive SequenceKind where
  | unknown
  | control
  | command
deriving Repr, DecidableEq

/-- An escape sequence that has not ended yet: its kind, its first characters and its last one. -/
structure OpenSequence where
  kind : SequenceKind
  opening : List Char
  last : Char
deriving Repr, DecidableEq

/-- The characters that open a link. -/
def linkOpening : List Char := [escapeChar, ']', '8', ';']

/-- The sequence that an escape character opens. -/
def OpenSequence.start : OpenSequence := ⟨.unknown, [escapeChar], escapeChar⟩

/-- The sequence after one more character, or `none` if the character ends it. A control sequence
ends with `m`, a command with a backslash, and a link with a backslash after an escape character. -/
def OpenSequence.next (s : OpenSequence) (c : Char) : Option OpenSequence :=
  let kind :=
    if s.kind ≠ .unknown then s.kind
    else if c == '[' then .control
    else if c == ']' then .command
    else .unknown
  let opening := if s.opening.length < linkOpening.length then s.opening ++ [c] else s.opening
  let ends :=
    if opening == linkOpening then c == '\\' && s.last == escapeChar
    else (kind = .control && c == 'm') || (kind = .command && c == '\\')
  if ends then none else some ⟨kind, opening, c⟩

/-- The escape sequence that a reader is in after one more character, if any. -/
def sequenceAfter (s : Option OpenSequence) (c : Char) : Option OpenSequence :=
  match s with
  | some o => o.next c
  | none => if c == escapeChar then some .start else none

/-- The width of a line, starting in a sequence or outside of all. A character counts when it is
outside of all sequences before and after it. -/
def widthFrom : Option OpenSequence → List Char → Nat
  | _, [] => 0
  | s, c :: rest =>
    let after := sequenceAfter s c
    (if s.isNone && after.isNone then Text.charWidth c else 0) + widthFrom after rest

/-- The number of columns that a line takes. -/
def lineWidth (line : List Char) : Nat := widthFrom none line

/-- The sequence that a reader is in after a line. -/
def sequenceAfterLine (s : Option OpenSequence) (line : List Char) : Option OpenSequence :=
  line.foldl sequenceAfter s

/-- The width of the widest of some lines. A sequence that a line leaves open goes on in the next
one. -/
def widestFrom : Option OpenSequence → List (List Char) → Nat
  | _, [] => 0
  | s, line :: rest => max (widthFrom s line) (widestFrom (sequenceAfterLine s line) rest)

/-- Writes characters over the start of a line. -/
def overwrite (line written : List Char) : List Char := written ++ line.drop written.length

/-- What is seen of a line with carriage returns: each goes back to the start, and what follows is
written over what was there. -/
def settle (line : List Char) : List Char :=
  (Text.splitAt '\r' line).foldl overwrite []

/-- The characters of a cell with tabs as four blanks and without a carriage return before a line
end. -/
def expand : List Char → List Char
  | [] => []
  | '\r' :: '\n' :: rest => '\n' :: expand rest
  | c :: rest => if c == '\t' then ' ' :: ' ' :: ' ' :: ' ' :: expand rest else c :: expand rest

/-- The lines of a cell as they are seen. -/
def cellLines (s : String) : List (List Char) :=
  (Text.splitAt '\n' (expand s.toList)).map settle

/-- A header, rows and a footer. Rows that are too short have empty cells at their end. -/
structure Table where
  header : List String
  rows : List (List String)
  footer : List String := []
deriving Repr, DecidableEq

namespace Table

/-- The header as it is shown. -/
def shownHeader (t : Table) : List String := t.header.map Text.upper

/-- The footer as it is shown. -/
def shownFooter (t : Table) : List String := t.footer.map Text.upper

/-- All rows of a table from top to bottom. -/
def allRows (t : Table) : List (List String) := [t.shownHeader] ++ t.rows ++ [t.shownFooter]

/-- The number of columns. -/
def columns (t : Table) : Nat := t.header.length

/-- The cells of a row as lines, one for each column. -/
def rowCells (t : Table) (row : List String) : List (List (List Char)) :=
  (List.range t.columns).map fun i => cellLines (row.getD i "")

/-- The width of the widest cell in each column. -/
def widths (t : Table) : List Nat :=
  (List.range t.columns).map fun i =>
    (t.allRows.map fun row => widestFrom none (cellLines (row.getD i ""))).foldl max 0

/-- A line filled up with blanks to a width, in place of those at its end. -/
def fillRight (width : Nat) (line : List Char) : List Char :=
  let kept := (line.reverse.dropWhile (· == ' ')).reverse
  kept ++ List.replicate (width - lineWidth kept) ' '

/-- A line filled up with blanks to a width, in place of those at its start. -/
def fillLeft (width : Nat) (line : List Char) : List Char :=
  let kept := line.dropWhile (· == ' ')
  List.replicate (width - lineWidth kept) ' ' ++ kept

/-- A line filled up with blanks to a width. A table without rows has its header on the right, as a
column of numbers would. -/
def fill (t : Table) (width : Nat) (line : List Char) : List Char :=
  if t.rows.isEmpty then fillLeft width line else fillRight width line

/-- One line of a row: the lines of all cells with that number. -/
def rowLine (t : Table) (widths : List Nat) (cells : List (List (List Char))) (i : Nat) : String :=
  String.ofList <| (widths.zip cells).flatMap fun (width, lines) =>
    ' ' :: t.fill width (lines.getD i []) ++ [' ']

/-- The lines of a row, given the widths of the columns. -/
def rowLines (t : Table) (widths : List Nat) (row : List String) : List String :=
  let cells := t.rowCells row
  let height := (cells.map List.length).foldl max 1
  (List.range height).map (t.rowLine widths cells)

/-- A line as wide as the table. -/
def ruler (widths : List Nat) : String :=
  String.ofList (widths.flatMap fun width => List.replicate (width + 2) '─')

/-- The table as a text without a line end after its last line. A line divides the footer from the
rows. -/
def render (t : Table) : String :=
  let widths := t.widths
  "\n".intercalate <|
    (t.shownHeader :: t.rows).flatMap (t.rowLines widths)
      ++ (if t.footer.isEmpty then [] else ruler widths :: t.rowLines widths t.shownFooter)

end Table

end ModuleLint.Terminal
