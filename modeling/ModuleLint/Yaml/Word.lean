import ModuleLint.Text.Number
import ModuleLint.Yaml.Cursor

/-!
# Reading scalars

A scalar is written plain, between quotes, or as a block of lines that are indented further than
what is around them. Plain and quoted scalars may go on over several lines, which are folded into
one.
-/

set_option autoImplicit false

namespace ModuleLint.Yaml

/-- A character that is written by a number of hexadecimal digits. -/
def hexEscape? (width : Nat) (cs : List Char) : Option Char := do
  let n ← Text.valueIn? 16 (cs.take width)
  if cs.length < width || (0xD800 ≤ n && n ≤ 0xDFFF) || n > 0x10FFFF then none
  else some (Char.ofNat n)

/-- The character that an escape stands for, and how many characters follow its backslash. -/
def readEscape? : List Char → Option (Char × Nat)
  | [] => none
  | c :: rest =>
    if c == 'x' then (hexEscape? 2 rest).map fun d => (d, 3)
    else if c == 'u' then (hexEscape? 4 rest).map fun d => (d, 5)
    else if c == 'U' then (hexEscape? 8 rest).map fun d => (d, 9)
    else if c == ' ' || c == '\t' || c == '\'' then some (c, 1)
    else (shortEscapes.find? fun e => e.2 == c).map fun e => (Char.ofNat e.1, 1)

/-- The rest of a text between double quotes. A backslash before a line break takes the break and
the blanks around it away. -/
def readDouble? : Nat → Cursor → Option (List Char × Cursor)
  | 0, _ => none
  | fuel + 1, c =>
    if c.atDocumentMark then none
    else match c.rest with
      | [] => none
      | d :: rest =>
        if d == '"' then some ([], c.skip 1)
        else if d == '\\' then
          if rest.head?.any isBreak then do
            let (gap, c) ← (c.skip 1).skipBreak.readGap? 0
            let (s, c) ← readDouble? fuel c
            pure (gap.breaks ++ s, c)
          else do
            let (e, width) ← readEscape? rest
            let (s, c) ← readDouble? fuel (c.skip (width + 1))
            pure (e :: s, c)
        else if isBlank d || isBreak d then do
          let (gap, c) ← c.readGap? 0
          let (s, c) ← readDouble? fuel c
          pure (gap.text ++ s, c)
        else (readDouble? fuel (c.skip 1)).map fun (s, c) => (d :: s, c)

/-- The rest of a text between single quotes, in which two quotes stand for one. -/
def readSingle? : Nat → Cursor → Option (List Char × Cursor)
  | 0, _ => none
  | fuel + 1, c =>
    if c.atDocumentMark then none
    else match c.rest with
      | [] => none
      | d :: rest =>
        if d == '\'' && rest.head? == some '\'' then
          (readSingle? fuel (c.skip 2)).map fun (s, c) => ('\'' :: s, c)
        else if d == '\'' then some ([], c.skip 1)
        else if isBlank d || isBreak d then do
          let (gap, c) ← c.readGap? 0
          let (s, c) ← readSingle? fuel c
          pure (gap.text ++ s, c)
        else (readSingle? fuel (c.skip 1)).map fun (s, c) => (d :: s, c)

/-- The length of the word at the start of a text: it ends at a blank, at a colon before a blank,
and inside of a flow collection at an indicator. -/
def wordLength (inFlow : Bool) : List Char → Nat
  | [] => 0
  | c :: rest =>
    if isBlank c || isBreak c || (c == ':' && atWordEnd rest)
        || (inFlow && flowIndicators.contains c) then 0
    else wordLength inFlow rest + 1

/-- The rest of a plain scalar after a gap, the place where it ends, and whether that is on another
line than its last word. The scalar goes on with the next word, unless a document or a comment
starts there or the word is not indented enough. -/
def readPlain? (inFlow : Bool) (indent : Nat) :
    Nat → Gap → Cursor → Option (List Char × Cursor × Bool)
  | 0, _, _ => none
  | fuel + 1, gap, c =>
    let length := wordLength inFlow c.rest
    let broken := !gap.breaks.isEmpty
    if c.atDocumentMark || c.next? == some '#' || length == 0
        || (broken && !inFlow && c.column < indent) then
      some ([], c, broken)
    else do
      let word := c.rest.take length
      let after := c.skip length
      if !after.rest.head?.any fun d => isBlank d || isBreak d then
        pure (gap.text ++ word, after, false)
      else
        let (next, c) ← after.readGap? indent
        let (s, c, broken) ← readPlain? inFlow indent fuel next c
        pure (gap.text ++ word ++ s, c, broken)

/-- What becomes of the line breaks at the end of a block of lines. -/
inductive Chomping where
  | strip
  | clip
  | keep
deriving Repr, DecidableEq

/-- The sign that says what becomes of the breaks at the end. -/
def Chomping.ofChar? (c : Char) : Option Chomping :=
  if c == '+' then some .keep else if c == '-' then some .strip else none

/-- What follows the bar of a block: its chomping, by how much it is indented if that is said, and
how many characters say so. A block cannot be indented by zero. -/
def blockHints? (cs : List Char) : Option (Chomping × Option Nat × Nat) :=
  let depth? (d : Char) : Option Nat :=
    if d.isDigit then some (d.toNat - '0'.toNat) else none
  let hints : Chomping × Option Nat × Nat := match cs with
    | [] => (.clip, none, 0)
    | c :: rest =>
      match Chomping.ofChar? c, depth? c, rest with
      | some chomping, _, d :: _ =>
        match depth? d with
        | some n => (chomping, some n, 2)
        | none => (chomping, none, 1)
      | some chomping, _, [] => (chomping, none, 1)
      | none, some n, d :: _ =>
        match Chomping.ofChar? d with
        | some chomping => (chomping, some n, 2)
        | none => (.clip, some n, 1)
      | none, some n, [] => (.clip, some n, 1)
      | none, none, _ => (.clip, none, 0)
  if hints.2.1 == some 0 then none else some hints

/-- The empty lines of a block before its next line, the widest of their indentations, and the place
where the next line starts. Without a given indentation all blanks belong to it. -/
def skipEmptyLines? (indent? : Option Nat) :
    Nat → List Char → Nat → Cursor → Option (List Char × Nat × Cursor)
  | 0, _, _, _ => none
  | fuel + 1, breaks, widest, c =>
    let spaces := (c.rest.takeWhile (· == ' ')).length
    let c := c.skip (indent?.elim spaces fun indent => min spaces (indent - c.column))
    let widest := max widest c.column
    if c.next? == some '\t' && indent?.all (c.column < ·) then none
    else match c.readBreak? with
      | some (b, next) => skipEmptyLines? indent? fuel (breaks ++ [b]) widest next
      | none => some (breaks, widest, c)

/-- The lines of a block that is indented as given, after the break of the line before and the
breaks of the empty lines between; the last two are returned for the end of the block. Lines of a
folded block are joined by a blank unless one of them starts with a blank. -/
def blockLines? (folded : Bool) (indent : Nat) :
    Nat → List Char → List Char → Bool → Cursor →
      Option (List Char × List Char × List Char × Cursor)
  | 0, _, _, _, _ => none
  | fuel + 1, lead, breaks, blankBefore, c =>
    if c.column != indent || c.rest.isEmpty then some ([], lead, breaks, c)
    else do
      let startsBlank := c.next?.any isBlank
      let join :=
        if folded && !blankBefore && !startsBlank && lead == ['\n'] then
          (if breaks.isEmpty then [' '] else [])
        else lead
      let content := c.rest.takeWhile fun d => !isBreak d
      let atEnd := c.skipLineRest
      let (lead, next) := match atEnd.readBreak? with
        | some (b, next) => ([b], next)
        | none => ([], atEnd)
      let (following, _, next) ← skipEmptyLines? (some indent) fuel [] 0 next
      let (s, lead, following, c) ← blockLines? folded indent fuel lead following startsBlank next
      pure (join ++ breaks ++ content ++ s, lead, following, c)

/-- A block of lines, after its bar. Its indentation is given relative to what is around it, or it
is that of its first line. -/
def readBlock? (folded : Bool) (level : Nat) (c : Cursor) : Option (List Char × Cursor) := do
  let (chomping, depth?, width) ← blockHints? c.rest
  let c := (c.skip width).skipWhile isBlank
  let c := if c.next? == some '#' then c.skipLineRest else c
  if !c.rest.head?.all isBreak then none
  let fuel := c.rest.length + 1
  let indent? := depth?.map fun n => if level == 0 then n else level - 1 + n
  let (breaks, widest, c) ← skipEmptyLines? indent? fuel [] 0 c.skipBreak
  let indent := indent?.getD (max (max widest level) 1)
  let (s, lead, breaks, c) ← blockLines? folded indent fuel [] breaks false c
  let tail := match chomping with
    | .strip => []
    | .clip => lead
    | .keep => lead ++ breaks
  pure (s ++ tail, c)

end ModuleLint.Yaml
