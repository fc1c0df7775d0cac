import ModuleLint.Text.Number

/-!
# TOML texts

A text stands between double quotes, with escapes, or between single quotes, without them. Three
quotes in a row allow line breaks inside of the text; a break right after them does not count.
-/

set_option autoImplicit false

namespace ModuleLint.Toml

/-- A space or a tab. -/
def isSpace (c : Char) : Bool := c == ' ' || c == '\t'

/-- The control characters that can stand nowhere. -/
def isControl (c : Char) : Bool :=
  (c.toNat < 0x20 && c != '\t' && c != '\n' && c != '\r') || c.toNat == 0x7F

/-- The rest after a line break at the start. -/
def newline? : List Char → Option (List Char)
  | '\n' :: rest => some rest
  | '\r' :: '\n' :: rest => some rest
  | _ => none

/-- A character that is written by a number of hexadecimal digits, and the rest. -/
def codePoint? (width : Nat) (cs : List Char) : Option (Char × List Char) := do
  let n ← Text.valueIn? 16 (cs.take width)
  if cs.length < width || (0xD800 ≤ n && n ≤ 0xDFFF) || n > 0x10FFFF then none
  else some (Char.ofNat n, cs.drop width)

/-- The letters of the short escapes, and what they stand for. -/
def shortEscapes : List (Char × Nat) :=
  [('"', 0x22), ('\\', 0x5C), ('b', 8), ('f', 12), ('n', 10), ('r', 13), ('t', 9), ('e', 27)]

/-- The character that an escape stands for, and the rest. -/
def escape? : List Char → Option (Char × List Char)
  | [] => none
  | c :: rest =>
    if c == 'u' then codePoint? 4 rest
    else if c == 'U' then codePoint? 8 rest
    else (shortEscapes.lookup c).map fun n => (Char.ofNat n, rest)

/-- The rest of a text between double quotes, on one line. -/
def basicText? : Nat → List Char → Option (List Char × List Char)
  | 0, _ => none
  | _ + 1, [] => none
  | fuel + 1, c :: rest =>
    if c == '"' then some ([], rest)
    else if c == '\n' || c == '\r' || isControl c then none
    else do
      let (d, rest) ← if c == '\\' then escape? rest else some (c, rest)
      let (s, rest) ← basicText? fuel rest
      pure (d :: s, rest)

/-- The rest of a text between single quotes, on one line. -/
def literalText? : List Char → Option (List Char × List Char)
  | [] => none
  | c :: rest =>
    if c == '\'' then some ([], rest)
    else if c == '\n' || c == '\r' || isControl c then none
    else (literalText? rest).map fun (s, rest) => (c :: s, rest)

/-- The end of a text of several lines: three quotes, before which up to two may belong to the
text. -/
def closing? (quote : Char) (cs : List Char) : Option (List Char × List Char) :=
  let quotes := cs.takeWhile (· == quote)
  if 3 ≤ quotes.length && quotes.length ≤ 5 then
    some (quotes.drop 3, cs.drop quotes.length)
  else none

/-- Whether three quotes stand at the start. -/
def startsTriple (quote : Char) (cs : List Char) : Bool := cs.take 3 == [quote, quote, quote]

/-- Whether each carriage return has a line feed after it. -/
def returnsAreBreaks : List Char → Bool
  | [] => true
  | c :: rest => (c != '\r' || rest.head? == some '\n') && returnsAreBreaks rest

/-- What follows a backslash at the end of a line: it takes the break away, and all blanks and
breaks after it. -/
def joinLines? (cs : List Char) : Option (List Char) :=
  if (newline? (cs.dropWhile isSpace)).isSome then
    let isLayout (c : Char) : Bool := isSpace c || c == '\n' || c == '\r'
    if returnsAreBreaks (cs.takeWhile isLayout) then some (cs.dropWhile isLayout) else none
  else none

/-- The rest of a text between three double quotes. -/
def basicLines? : Nat → List Char → Option (List Char × List Char)
  | 0, _ => none
  | _ + 1, [] => none
  | fuel + 1, c :: rest =>
    if startsTriple '"' (c :: rest) then closing? '"' (c :: rest)
    else if (c == '\r' && rest.head? != some '\n') || isControl c then none
    else if c == '\\' then
      match joinLines? rest with
      | some rest => basicLines? fuel rest
      | none => do
        let (d, rest) ← escape? rest
        let (s, rest) ← basicLines? fuel rest
        pure (d :: s, rest)
    else (basicLines? fuel rest).map fun (s, rest) => (c :: s, rest)

/-- The rest of a text between three single quotes. -/
def literalLines? : List Char → Option (List Char × List Char)
  | [] => none
  | c :: rest =>
    if startsTriple '\'' (c :: rest) then closing? '\'' (c :: rest)
    else if (c == '\r' && rest.head? != some '\n') || isControl c then none
    else (literalLines? rest).map fun (s, rest) => (c :: s, rest)

/-- A text on one line, and the rest. -/
def lineText? : List Char → Option (String × List Char)
  | '"' :: rest =>
    (basicText? (rest.length + 1) rest).map fun (s, rest) => (String.ofList s, rest)
  | '\'' :: rest => (literalText? rest).map fun (s, rest) => (String.ofList s, rest)
  | _ => none

/-- A text, and the rest. -/
def text? (cs : List Char) : Option (String × List Char) :=
  let body := cs.drop 3
  let body := (newline? body).getD body
  if startsTriple '"' cs then
    (basicLines? (body.length + 1) body).map fun (s, rest) => (String.ofList s, rest)
  else if startsTriple '\'' cs then
    (literalLines? body).map fun (s, rest) => (String.ofList s, rest)
  else lineText? cs

end ModuleLint.Toml
