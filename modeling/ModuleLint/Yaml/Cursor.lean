import ModuleLint.Yaml.Character

/-!
# A place in a document

A cursor is what is left of a document together with where that is. Gaps are the blanks and line
breaks between the words of a scalar; a gap with one break reads as a single blank, and of several
breaks all but the first stay.
-/

set_option autoImplicit false

namespace ModuleLint.Yaml

/-- A place in a document: what follows, how many characters have been read, and the line and the
column, both counted from zero. -/
structure Cursor where
  rest : List Char
  index : Nat := 0
  line : Nat := 0
  column : Nat := 0
deriving Repr, DecidableEq

namespace Cursor

/-- Moves over some characters of the line. -/
def skip (n : Nat) (c : Cursor) : Cursor :=
  { c with rest := c.rest.drop n, index := c.index + n, column := c.column + n }

/-- Moves over the characters of the line that satisfy a test. -/
def skipWhile (test : Char → Bool) (c : Cursor) : Cursor :=
  c.skip (c.rest.takeWhile test).length

/-- Moves to the start of the next line, whose text is given. -/
def startLine (width : Nat) (rest : List Char) (c : Cursor) : Cursor :=
  { rest := rest, index := c.index + width, line := c.line + 1, column := 0 }

/-- The line break at the cursor and the place after it. A carriage return, a line feed, both
together and the next-line character all count as a line feed. -/
def readBreak? (c : Cursor) : Option (Char × Cursor) :=
  match c.rest with
  | '\r' :: '\n' :: rest => some ('\n', c.startLine 2 rest)
  | d :: rest =>
    if !isBreak d then none
    else some (if d.toNat == 0x2028 || d.toNat == 0x2029 then d else '\n', c.startLine 1 rest)
  | [] => none

/-- Moves over the line break at the cursor. -/
def skipBreak (c : Cursor) : Cursor := (c.readBreak?.map (·.2)).getD c

/-- Whether three of the given character stand alone at the start of a line. -/
def isMark (d : Char) (c : Cursor) : Bool :=
  c.column == 0 && c.rest.take 3 == [d, d, d] && atWordEnd (c.rest.drop 3)

/-- Whether a document starts or ends here. -/
def atDocumentMark (c : Cursor) : Bool := c.isMark '-' || c.isMark '.'

/-- Moves over the rest of the line. -/
def skipLineRest (c : Cursor) : Cursor := c.skipWhile fun d => !isBreak d

/-- The character at the cursor, or nothing at the end. -/
def next? (c : Cursor) : Option Char := c.rest.head?

end Cursor

/-- What stands between two words: the blanks up to the first line break, and the breaks. -/
structure Gap where
  blanks : List Char := []
  breaks : List Char := []
deriving Repr, DecidableEq

/-- What a gap reads as. -/
def Gap.text (g : Gap) : List Char :=
  match g.breaks with
  | [] => g.blanks
  | ['\n'] => [' ']
  | '\n' :: more => more
  | breaks => breaks

/-- Reads on in a gap. After a break a tab cannot stand for the blanks that indent a line, which are
those before the given column. -/
def Gap.extend? (indent : Nat) : Nat → Gap → Cursor → Option (Gap × Cursor)
  | 0, _, _ => none
  | fuel + 1, g, c =>
    match c.readBreak?, c.rest with
    | some (b, next), _ => Gap.extend? indent fuel { g with breaks := g.breaks ++ [b] } next
    | none, d :: _ =>
      if !isBlank d then some (g, c)
      else if g.breaks.isEmpty then
        Gap.extend? indent fuel { g with blanks := g.blanks ++ [d] } (c.skip 1)
      else if d == '\t' && c.column < indent then none
      else Gap.extend? indent fuel g (c.skip 1)
    | none, [] => some (g, c)

/-- Reads a gap. -/
def Cursor.readGap? (indent : Nat) (c : Cursor) : Option (Gap × Cursor) :=
  Gap.extend? indent (c.rest.length + 1) {} c

/-- Moves over the blanks, line breaks and comments that follow a comment, if the next thing that
follows it is a comment again; otherwise over the comment alone. -/
def Cursor.skipComments : Nat → Cursor → Cursor
  | 0, c => c
  | fuel + 1, c =>
    let after := c.skipLineRest
    match after.readGap? 0 with
    | some (_, next) => if next.next? == some '#' then next.skipComments fuel else after
    | none => after

end ModuleLint.Yaml
