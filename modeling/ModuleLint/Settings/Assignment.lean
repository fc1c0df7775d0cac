import ModuleLint.Text.Blank

/-!
# Files of assignments

Such a file has an assignment on each line: a name, an equals sign or a colon, and a text, perhaps
between quotes, which may go on over several lines. A dollar sign with a name stands for the value
of an environment variable, or of an earlier assignment.
-/

set_option autoImplicit false

namespace ModuleLint.Settings

/-- A name with its value. -/
abbrev Assignment : Type := String × String

/-- The lines of a text. They end with a carriage return, a line feed or both. -/
def lineSplit : List Char → List (List Char)
  | [] => [[]]
  | '\r' :: '\n' :: rest => [] :: lineSplit rest
  | c :: rest =>
    if c == '\r' || c == '\n' then [] :: lineSplit rest
    else match lineSplit rest with
      | [] => [[c]]
      | line :: lines => (c :: line) :: lines

/-- White space between the parts of an assignment. -/
def isGap (c : Char) : Bool := [' ', '\t', '\n', '\r', '\x0c'].contains c

/-- Characters without the white space at their ends. -/
def trimmed (cs : List Char) : List Char := Text.trimEnds Text.isBlank cs

/-- How many characters stand before the last one that is the given one. -/
def lastIndex? (c : Char) (cs : List Char) : Option Nat :=
  (cs.reverse.findIdx? (· == c)).map fun i => cs.length - 1 - i

/-- Whether nothing but white space and a comment on the last line follows. -/
def isTrailer (cs : List Char) : Bool :=
  match cs.dropWhile isGap with
  | [] => true
  | c :: rest => c == '#' && !rest.contains '\n'

/-- The quote that a line opens and does not close. -/
def openQuote? (line : List Char) : Option Char := do
  let place := (line.findIdx? (· == '=')).or (line.findIdx? (· == ':'))
  let i ← place.filter fun i => 0 < i && i + 1 < line.length
  let value := trimmed (line.drop (i + 1))
  let quote ← value.head?
  if quote != '"' && quote != '\'' then none
  else match lastIndex? quote (trimmed (value.drop 1)) with
    | some j => if value[j]? == some '\\' then some quote else none
    | none => some quote

/-- Whether a line closes a quote. A quote after a backslash does not count. -/
def closesQuote (quote : Char) (cs : List Char) : Bool :=
  match lastIndex? quote cs with
  | none => false
  | some 0 => true
  | some (i + 1) => cs[i]? != some '\\'

/-- The rest of a text between quotes, together with the lines that it goes on over, and the lines
after it. -/
def closeQuote? (quote : Char) :
    List Char → List (List Char) → Option (List Char × List (List Char))
  | _, [] => none
  | text, line :: rest =>
    let text := text ++ '\n' :: line
    if closesQuote quote line then some (text, rest) else closeQuote? quote text rest

/-- A value between quotes and the quotes, up to the last quote behind which there is only a
trailer. -/
def quotedValue? (quote : Char) (cs : List Char) : Option (List Char) :=
  if cs.head? != some quote then none
  else
    let ends := (List.range cs.length).reverse.find? fun i =>
      0 < i && cs[i]? == some quote && isTrailer (cs.drop (i + 1))
    ends.map fun i => cs.take (i + 1)

/-- A value without quotes, up to a comment or a line break. -/
def bareValue? (cs : List Char) : Option (List Char) :=
  let value := cs.takeWhile fun c => c != '#' && c != '\n'
  if !value.isEmpty && isTrailer (cs.drop value.length) then some value else none

/-- The value at a place, which may be missing. -/
def valueAt? (cs : List Char) : Option (List Char) :=
  quotedValue? '\'' cs <|> quotedValue? '"' cs <|> bareValue? cs
    <|> if isTrailer cs then some [] else none

/-- What follows an equals sign; white space before it and after it does not belong to the value. -/
def valueAfterEquals? (cs : List Char) : Option (List Char) :=
  match cs.dropWhile isGap with
  | '=' :: rest =>
    (List.range ((rest.takeWhile isGap).length + 1)).reverse.findSome? fun i =>
      valueAt? (rest.drop i)
  | _ => none

/-- What follows a colon and white space. -/
def valueAfterColon? (cs : List Char) : Option (List Char) :=
  match cs with
  | ':' :: rest =>
    (List.range (rest.takeWhile isGap).length).findSome? fun i => valueAt? (rest.drop (i + 1))
  | _ => none

/-- A name and the characters of its value. -/
def nameAndValue? (cs : List Char) : Option (List Char × List Char) :=
  let isNameChar (c : Char) : Bool := c.isAlphanum || c == '_' || c == '.'
  let name := cs.takeWhile isNameChar
  let rest := cs.drop name.length
  if name.isEmpty then none
  else (valueAfterEquals? rest <|> valueAfterColon? rest).map fun value => (name, value)

/-- The assignment on a line, in front of which the word `export` may stand. -/
def splitAssignment? (line : List Char) : Option (List Char × List Char) :=
  let cs := line.dropWhile isGap
  let word := "export".toList
  let rest := cs.drop word.length
  let exported :=
    if cs.take word.length == word && rest.head?.any isGap then
      nameAndValue? (rest.dropWhile isGap)
    else none
  exported <|> nameAndValue? cs

/-- Replaces a backslash with a letter by a character. -/
def replaceEscape (letter shown : Char) : List Char → List Char
  | '\\' :: c :: rest =>
    if c == letter then shown :: replaceEscape letter shown rest
    else '\\' :: replaceEscape letter shown (c :: rest)
  | c :: rest => c :: replaceEscape letter shown rest
  | [] => []

/-- Takes the backslashes away, except those before a dollar sign. -/
def dropBackslashes : List Char → List Char
  | '\\' :: c :: rest =>
    if c == '$' then '\\' :: c :: dropBackslashes rest else c :: dropBackslashes rest
  | c :: rest => c :: dropBackslashes rest
  | [] => []

/-- What stands for the value of a variable after the dollar sign: all of its characters and the
name, which may be empty. -/
def reference (cs : List Char) : List Char × List Char :=
  let start := if cs.head? == some '\x7b' then 1 else 0
  let isNameChar (c : Char) : Bool := c.isUpper || c.isDigit || c == '_'
  let name := (cs.drop start).takeWhile isNameChar
  let length := start + name.length
  (cs.take (if cs[length]? == some '\x7d' then length + 1 else length), name)

/-- Puts the values of variables in their places. A backslash before a dollar sign keeps it. -/
def expand (valueOf : String → String) : Nat → List Char → List Char
  | 0, cs => cs
  | fuel + 1, cs =>
    match cs with
    | [] => []
    | '\\' :: '$' :: rest =>
      let shown := (reference rest).1
      '$' :: shown ++ expand valueOf fuel (rest.drop shown.length)
    | '$' :: rest =>
      let (shown, name) := reference rest
      let value := if name.isEmpty then '$' :: shown else (valueOf (String.ofList name)).toList
      value ++ expand valueOf fuel (rest.drop shown.length)
    | c :: rest => c :: expand valueOf fuel rest

/-- Whether a value stands between quotes of a kind. -/
def isQuotedBy (quote : Char) (value : List Char) : Bool :=
  value.length ≥ 2 && value.head? == some quote && value.getLast? == some quote

/-- What a value means. Between single quotes it is taken as it is, and between double quotes it may
have escapes. -/
def meaning (valueOf : String → String) (value : List Char) : String :=
  let inner := (value.drop 1).dropLast
  let filled (cs : List Char) : List Char := expand valueOf (cs.length + 1) cs
  String.ofList <|
    if isQuotedBy '\'' value then inner
    else if isQuotedBy '"' value then
      filled (dropBackslashes (replaceEscape 'r' '\r' (replaceEscape 'n' '\n' inner)))
    else filled value

/-- The value of a variable: that of the environment, else that of the last assignment. -/
def variableValue (environment : List (String × String)) (earlier : List Assignment)
    (name : String) : String :=
  ((environment.lookup name).or (earlier.reverse.lookup name)).getD ""

/-- Reads the assignments on lines, after earlier ones. Empty lines and comments are left out, and
any other line that is not an assignment is a fault. -/
def assignmentsFrom? (environment : List (String × String)) :
    Nat → List Assignment → List (List Char) → Option (List Assignment)
  | 0, _, _ => none
  | _ + 1, earlier, [] => some earlier
  | fuel + 1, earlier, line :: rest => do
    let line := trimmed line
    if line.head?.all (· == '#') then assignmentsFrom? environment fuel earlier rest
    else
      let (text, rest) ← match openQuote? line with
        | some quote => closeQuote? quote line rest
        | none => some (line, rest)
      let (name, value) ← splitAssignment? text
      let shown := meaning (variableValue environment earlier) (trimmed value)
      assignmentsFrom? environment fuel (earlier ++ [(String.ofList name, shown)]) rest

/-- The assignments of a text. A byte order mark at the start does not count. -/
def assignments? (environment : List (String × String)) (text : String) :
    Option (List Assignment) :=
  let cs := text.toList
  let lines := lineSplit (if cs.head? == some (Char.ofNat 0xFEFF) then cs.drop 1 else cs)
  assignmentsFrom? environment (lines.length + 1) [] lines

end ModuleLint.Settings
