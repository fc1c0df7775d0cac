import ModuleLint.Yaml.Word

/-!
# Tokens of a document

Tokens are the scalars and indicators of a document, with marks where block collections start and
end. Block collections follow from the columns in which their parts start. A key is recognised only
when its colon is found, which has to be on the same line and not too far away, so its mark is put
in front of it afterwards.
-/

set_option autoImplicit false

namespace ModuleLint.Yaml

/-- A token. -/
inductive Token where
  | documentStart
  | documentEnd
  | streamEnd
  | listStart
  | mappingStart
  | blockEnd
  | item
  | openList
  | closeList
  | openMapping
  | closeMapping
  | comma
  | key
  | value
  | anchor (name : String)
  | reference (name : String)
  | scalar (text : String) (isPlain : Bool)
deriving Repr, DecidableEq

/-- A token that may turn out to be a key: where it starts, how many tokens stand before it, and
whether nothing but a key can stand there. -/
structure Candidate where
  place : Cursor
  position : Nat
  required : Bool
deriving Repr, DecidableEq

/-- How far a document has been read. Each open block collection has a level, the least column of
what belongs to its parts; the innermost comes first. There is one possible key for the blocks and
one for each open flow collection, the innermost first. In a text with a mark at its start, tokens
are looked for from the second column on. -/
structure Progress where
  cursor : Cursor
  isMarked : Bool := false
  tokens : List Token := []
  levels : List Nat := []
  candidates : List (Option Candidate) := [none]
  keyAllowed : Bool := true
deriving Repr, DecidableEq

namespace Progress

/-- The level of the innermost block collection, zero outside of all. -/
def level (p : Progress) : Nat := p.levels.headD 0

/-- Whether a flow collection is open. -/
def inFlow (p : Progress) : Bool := p.candidates.length > 1

/-- Adds a token. -/
def push (t : Token) (p : Progress) : Progress := { p with tokens := p.tokens ++ [t] }

/-- Ends the block collections above a level. -/
def closeAbove (level : Nat) (p : Progress) : Progress :=
  if p.inFlow then p
  else
    let closed := p.levels.takeWhile (· > level)
    { p with
      tokens := p.tokens ++ closed.map fun _ => .blockEnd
      levels := p.levels.dropWhile (· > level) }

/-- Starts a block collection in a column, unless one is open there. Its mark is put before the
token at the given position. -/
def openBlock (column position : Nat) (t : Token) (p : Progress) : Progress :=
  if p.inFlow || p.level > column then p
  else { p with tokens := p.tokens.insertIdx position t, levels := (column + 1) :: p.levels }

/-- Gives up the possible key of the innermost collection, which fails if a key is required. -/
def dropCandidate? (p : Progress) : Option Progress :=
  match p.candidates with
  | some k :: rest => if k.required then none else some { p with candidates := none :: rest }
  | _ => some p

/-- Takes note that a key may start at the cursor. -/
def noteCandidate? (p : Progress) : Option Progress :=
  if !p.keyAllowed then some p
  else do
    let required := !p.inFlow && p.level == p.cursor.column + 1
    let q ← p.dropCandidate?
    let k : Candidate := { place := p.cursor, position := p.tokens.length, required := required }
    pure { q with candidates := some k :: q.candidates.tail }

/-- How many characters a key can have up to its colon. -/
def keyLimit : Nat := 1024

/-- Whether a possible key can still turn out to be one. -/
def isOpen (p : Progress) (k : Candidate) : Bool :=
  k.place.line == p.cursor.line && p.cursor.index ≤ k.place.index + keyLimit

/-- Adds a token of a number of characters. -/
def take (width : Nat) (t : Token) (p : Progress) : Progress :=
  { p with cursor := p.cursor.skip width }.push t

/-- Starts a flow collection, which may be a key. -/
def openFlow? (t : Token) (p : Progress) : Option Progress := do
  let p ← p.noteCandidate?
  pure ({ p with candidates := none :: p.candidates, keyAllowed := true }.take 1 t)

/-- Ends a flow collection. -/
def closeFlow? (t : Token) (p : Progress) : Option Progress := do
  let p ← p.dropCandidate?
  let candidates := if p.inFlow then p.candidates.tail else p.candidates
  pure ({ p with candidates := candidates, keyAllowed := false }.take 1 t)

/-- A comma. -/
def takeComma? (p : Progress) : Option Progress := do
  let p ← p.dropCandidate?
  pure ({ p with keyAllowed := true }.take 1 .comma)

/-- The dash of an item. In a block it has to be where a line can start. -/
def takeItem? (p : Progress) : Option Progress := do
  if !p.inFlow && !p.keyAllowed then none
  let p := p.openBlock p.cursor.column p.tokens.length .listStart
  let p ← p.dropCandidate?
  pure ({ p with keyAllowed := true }.take 1 .item)

/-- The question mark of a key. -/
def takeKey? (p : Progress) : Option Progress := do
  if !p.inFlow && !p.keyAllowed then none
  let p := p.openBlock p.cursor.column p.tokens.length .mappingStart
  let p ← p.dropCandidate?
  pure ({ p with keyAllowed := !p.inFlow }.take 1 .key)

/-- A colon that follows a key with a question mark or an empty one. -/
def takeBareValue? (p : Progress) : Option Progress := do
  if !p.inFlow && !p.keyAllowed then none
  let p := p.openBlock p.cursor.column p.tokens.length .mappingStart
  pure ({ p with keyAllowed := !p.inFlow }.take 1 .value)

/-- The colon of a value. It makes a key of what stands before it on the line, if something does. -/
def takeValue? (p : Progress) : Option Progress :=
  match p.candidates with
  | some k :: rest =>
    if p.isOpen k then
      let p := { p with tokens := p.tokens.insertIdx k.position .key }
      let p := p.openBlock k.place.column k.position .mappingStart
      some ({ p with candidates := none :: rest, keyAllowed := false }.take 1 .value)
    else if k.required then none
    else takeBareValue? { p with candidates := none :: rest }
  | _ => p.takeBareValue?

/-- Starts or ends a document. -/
def takeMark? (t : Token) (p : Progress) : Option Progress := do
  let p ← (p.closeAbove 0).dropCandidate?
  pure ({ p with keyAllowed := false }.take 3 t)

/-- The end of the text. -/
def finish? (p : Progress) : Option Progress := do
  let p ← (p.closeAbove 0).dropCandidate?
  pure (p.push .streamEnd)

/-- A scalar that has been read up to some place. -/
def takeScalar (isPlain : Bool) (read : List Char × Cursor) (p : Progress) : Progress :=
  { p with cursor := read.2 }.push (.scalar (String.ofList read.1) isPlain)

/-- A scalar between quotes. -/
def takeQuoted? (read? : Nat → Cursor → Option (List Char × Cursor)) (p : Progress) :
    Option Progress := do
  let p ← p.noteCandidate?
  let read ← read? (p.cursor.rest.length + 1) (p.cursor.skip 1)
  pure ({ p with keyAllowed := false }.takeScalar false read)

/-- A scalar that is a block of lines. -/
def takeBlock? (folded : Bool) (p : Progress) : Option Progress := do
  let p ← p.dropCandidate?
  let read ← readBlock? folded p.level (p.cursor.skip 1)
  pure ({ p with keyAllowed := true }.takeScalar false read)

/-- The name after the sign of an anchor or of a reference to one. -/
def takeName? (t : String → Token) (p : Progress) : Option Progress := do
  let p ← p.noteCandidate?
  let rest := p.cursor.rest.drop 1
  let name := rest.takeWhile fun c => c.isAlphanum || c == '_' || c == '-'
  let after := rest.drop name.length
  let ends := [']', '\x7d', '?', ':', ',', '%', '@', Char.ofNat 96]
  if name.isEmpty || !(atWordEnd after || after.head?.any ends.contains) then none
  pure ({ p with keyAllowed := false }.take (name.length + 1) (t (String.ofList name)))

/-- Moves over blanks and a comment on the same line. -/
def skipLineComment (p : Progress) : Progress :=
  let c := p.cursor.skipWhile isBlank
  if c.next? == some '#' then { p with cursor := c.skipLineRest } else p

/-- A plain scalar, and the comment on its last line. After a line break a key may follow. -/
def takePlain? (p : Progress) : Option Progress := do
  let p ← p.noteCandidate?
  let (s, c, broken) ←
    readPlain? p.inFlow p.level (p.cursor.rest.length + 1) {} p.cursor
  let p := { p with keyAllowed := broken }.takeScalar true (s, c)
  pure (if broken then p else p.skipLineComment)

/-- Whether a plain scalar starts here. -/
def startsPlain (p : Progress) : Bool :=
  match p.cursor.rest with
  | [] => false
  | c :: rest =>
    !(isBlank c || isBreak c || leadingIndicators.contains c)
      && !((c == '?' || c == ':') && (p.inFlow || atWordEnd rest))
      && !(c == '-' && rest.head?.any isBlank)

/-- Moves to the next token, over blanks, line breaks and comments. Where a key may start, tabs
cannot stand for blanks. -/
def skipToToken : Nat → Progress → Progress
  | 0, p => p
  | fuel + 1, p =>
    let isSkipped (c : Char) : Bool := c == ' ' || (c == '\t' && (p.inFlow || !p.keyAllowed))
    let c := if p.isMarked && p.cursor.column == 0 then p.cursor.skip 1 else p.cursor
    let c := c.skipWhile isSkipped
    let c := if c.next? == some '#' then c.skipComments (c.rest.length + 1) else c
    match c.readBreak? with
    | some (_, next) =>
      skipToToken fuel { p with cursor := next, keyAllowed := p.keyAllowed || !p.inFlow }
    | none => { p with cursor := c }

/-- Reads the token at the cursor. -/
def takeToken? (p : Progress) : Option Progress :=
  match p.cursor.rest with
  | [] => p.finish?
  | c :: rest =>
    if p.cursor.column == 0 && c == '%' then none
    else if p.cursor.isMark '-' then p.takeMark? .documentStart
    else if p.cursor.isMark '.' then p.takeMark? .documentEnd
    else if c == '-' && atWordEnd rest then p.takeItem?
    else if p.startsPlain then p.takePlain?
    else if !p.inFlow && (c == '|' || c == '>') then p.takeBlock? (c == '>')
    else
      let taken :=
        if c == '[' then p.openFlow? .openList
        else if c == '\x7b' then p.openFlow? .openMapping
        else if c == ']' then p.closeFlow? .closeList
        else if c == '\x7d' then p.closeFlow? .closeMapping
        else if c == ',' then p.takeComma?
        else if c == '?' then p.takeKey?
        else if c == ':' then p.takeValue?
        else if c == '*' then p.takeName? .reference
        else if c == '&' then p.takeName? .anchor
        else if c == '"' then p.takeQuoted? readDouble?
        else if c == '\'' then p.takeQuoted? readSingle?
        else none
      taken.map skipLineComment

/-- Reads the next token and the marks that stand before it. -/
def next? (p : Progress) : Option Progress :=
  let p := p.skipToToken (p.cursor.rest.length + 1)
  (p.closeAbove (p.cursor.column + 1)).takeToken?

/-- Reads tokens up to the end or to a fault, and tells whether the end was reached. -/
def readAll : Nat → Progress → List Token × Bool
  | 0, p => (p.tokens, false)
  | fuel + 1, p =>
    match p.next? with
    | none => (p.tokens, false)
    | some q => if q.tokens.getLast? == some .streamEnd then (q.tokens, true) else q.readAll fuel

end Progress

/-- The tokens of a text up to its end or to the first fault, and whether there is no fault. A byte
order mark at the start does not count, but a second one does. -/
def tokensOf (text : String) : List Token × Bool :=
  let isMarked (cs : List Char) : Bool := cs.head? == some byteOrderMark
  let cs := if isMarked text.toList then text.toList.drop 1 else text.toList
  if cs.all isReadable then
    Progress.readAll (cs.length + 2) { cursor := { rest := cs }, isMarked := isMarked cs }
  else ([], false)

end ModuleLint.Yaml
