import ModuleLint.Text.Quoted
import ModuleLint.Text.Search
import ModuleLint.Yaml.Character
import ModuleLint.Yaml.Resolution

/-!
# Writing scalars

A text is written plain where that is allowed and would be read back as a text, else between
single or double quotes; a text with line ends is written as a literal block. Which styles are
allowed depends on the characters of the text and on where blanks, line breaks and indicators
stand in it.
-/

set_option autoImplicit false

namespace ModuleLint.Yaml

/-- Whether a blank or nothing follows. -/
def endsWord (rest : List Char) : Bool := rest.head?.all isBlank

/-- Whether an indicator stands after the first character: a colon at the end of a word, or a number
sign after a blank or a break. -/
def hasInnerIndicator : Char → List Char → Bool
  | _, [] => false
  | before, c :: rest =>
    (c == ':' && endsWord rest)
      || (c == '#' && (isBlank before || isBreak before || before.toNat == 0))
      || hasInnerIndicator c rest

/-- Whether a text could be taken for something else than a plain scalar. -/
def hasIndicator : List Char → Bool
  | [] => false
  | c :: rest =>
    ['-', '-', '-'].isPrefixOf (c :: rest) || ['.', '.', '.'].isPrefixOf (c :: rest)
      || leadingIndicators.contains c
      || ((c == '?' || c == ':' || c == '-') && endsWord rest)
      || hasInnerIndicator c rest

/-- Whether two neighbours satisfy a relation. -/
def hasNeighbours (test : Char → Char → Bool) : List Char → Bool
  | a :: b :: rest => test a b || hasNeighbours test (b :: rest)
  | _ => false

/-- Whether a space stands before a break. -/
def hasSpaceBreak (cs : List Char) : Bool := hasNeighbours (fun a b => a == ' ' && isBreak b) cs

/-- Whether a space stands after a break. -/
def hasBreakSpace (cs : List Char) : Bool := hasNeighbours (fun a b => isBreak a && b == ' ') cs

/-- Whether a character occurs that has to be escaped; tabs are a case of their own. -/
def hasSpecial (cs : List Char) : Bool := cs.any fun c => !isPrintable c && c != '\t'

/-- Whether a text can stand between single quotes. -/
def allowsSingle (cs : List Char) : Bool :=
  !hasBreakSpace cs && !hasSpaceBreak cs && !cs.contains '\t' && !hasSpecial cs

/-- Whether a text can stand without quotes. -/
def allowsPlain (cs : List Char) : Bool :=
  let isEdge (c : Char) : Bool := c == ' ' || isBreak c
  allowsSingle cs && !cs.head?.any isEdge && !cs.getLast?.any isEdge && !cs.any isBreak
    && !hasIndicator cs

/-- Whether a text can be written as a literal block. -/
def allowsLiteral (cs : List Char) : Bool :=
  !cs.isEmpty && cs.getLast? != some ' ' && !hasSpaceBreak cs && !hasSpecial cs

/-- The ways of writing a text. -/
inductive Style where
  | plain
  | single
  | double
  | literal
deriving Repr, DecidableEq

/-- The style that a text is written in. -/
def Style.of (s : String) : Style :=
  let cs := s.toList
  if cs.contains '\n' then (if allowsLiteral cs then .literal else .double)
  else if !isPlainText s then .double
  else if allowsPlain cs then .plain
  else if allowsSingle cs then .single
  else .double

/-- A number of blanks. -/
def blanks (n : Nat) : List Char := List.replicate n ' '

/-- The inside of a text between single quotes: quotes are doubled, and after a break the next
line is indented. -/
def singleInside (indent : Nat) : Bool → List Char → List Char
  | _, [] => []
  | afterBreak, c :: rest =>
    if isBreak c then c :: singleInside indent true rest
    else
      let lead := if afterBreak then blanks indent else []
      let shown := if c == '\'' then ['\'', '\''] else [c]
      lead ++ shown ++ singleInside indent false rest

/-- A number in upper case hexadecimal with a fixed width. -/
def hexUpper (width n : Nat) : List Char := (Text.hexPadded width n).map Char.toUpper

/-- The escape of a character. -/
def escape (c : Char) : List Char :=
  let n := c.toNat
  match shortEscapes.lookup n with
  | some letter => ['\\', letter]
  | none =>
    if n ≤ 0xFF then '\\' :: 'x' :: hexUpper 2 n
    else if n ≤ 0xFFFF then '\\' :: 'u' :: hexUpper 4 n
    else '\\' :: 'U' :: hexUpper 8 n

/-- The inside of a text between double quotes. A text that starts with a byte order mark has all of
its characters escaped. -/
def doubleInside (cs : List Char) : List Char :=
  let marked := cs.head? == some byteOrderMark
  cs.flatMap fun c =>
    if marked || !isPrintable c || isBreak c || c == '"' || c == '\\' then escape c else [c]

/-- What stands after the bar of a literal block: how far it is indented, if its first line does not
show that, and what becomes of the breaks at its end. -/
def literalHints (cs : List Char) : List Char :=
  let depth := if cs.head?.any fun c => c == ' ' || isBreak c then ['2'] else []
  let chomping := match cs.reverse with
    | [] => ['-']
    | [c] => if isBreak c then ['+'] else ['-']
    | c :: d :: _ => if !isBreak c then ['-'] else if isBreak d then ['+'] else []
  depth ++ chomping

/-- The lines of a literal block: each line that is not empty is indented. -/
def literalLines (indent : Nat) : Bool → List Char → List Char
  | _, [] => []
  | atStart, c :: rest =>
    if isBreak c then c :: literalLines indent true rest
    else (if atStart then blanks indent else []) ++ c :: literalLines indent false rest

/-- A literal block. The line of the bar ends with the first break of the text if it starts with
one. -/
def literalBlock (indent : Nat) (cs : List Char) : List Char :=
  '|' :: literalHints cs ++ (if cs.head?.any isBreak then [] else ['\n'])
    ++ literalLines indent true cs

/-- A text as a scalar. Further lines are indented by the given number of blanks. -/
def scalar (indent : Nat) (s : String) : String :=
  let cs := s.toList
  match Style.of s with
  | .plain => s
  | .single => String.ofList ('\'' :: singleInside indent false cs ++ ['\''])
  | .double => String.ofList ('"' :: doubleInside cs ++ ['"'])
  | .literal => String.ofList (literalBlock indent cs)

end ModuleLint.Yaml
