import ModuleLint.Toml.Number
import ModuleLint.Toml.Outline
import ModuleLint.Toml.Text

/-!
# TOML documents

A document is a sequence of lines with a statement each: a field, or the header of a table or of
one more table in a list. Fields belong to the table whose header was last.
-/

set_option autoImplicit false

namespace ModuleLint.Toml

/-- A value. The fields of a table stay in order. -/
inductive Value where
  | text (s : String)
  | quantity (q : Quantity)
  | flag (b : Bool)
  | list (items : List Value)
  | table (fields : List (String × Value))
deriving Repr, Inhabited

/-- A statement. -/
inductive Statement where
  | field (key : Key) (value : Value)
  | header (role : Role) (key : Key)
deriving Repr

/-- The fields of a table. -/
abbrev Fields : Type := List (String × Value)

namespace Fields

/-- Gives a value to a name. -/
def set (name : String) (value : Value) (fields : Fields) : Fields :=
  if fields.any (·.1 == name) then fields.map fun f => if f.1 == name then (name, value) else f
  else fields ++ [(name, value)]

/-- The fields of the table that a value is, or of the last table of a list. -/
def within : Option Value → Fields
  | some (.table fields) => fields
  | some (.list items) =>
    match items.getLast? with
    | some (.table fields) => fields
    | _ => []
  | _ => []

/-- A value whose fields are replaced; in a list, those of the last table. -/
def replaceIn (fields : Fields) : Option Value → Value
  | some (.list items) => .list (items.dropLast ++ [.table fields])
  | _ => .table fields

/-- Changes the value of a dotted key. -/
def update (f : Option Value → Value) : Key → Fields → Fields
  | [], fields => fields
  | [name], fields => fields.set name (f (fields.lookup name))
  | name :: rest, fields =>
    let old := fields.lookup name
    fields.set name (replaceIn (update f rest (within old)) old)

end Fields

/-- Opens a table: one that is there already, or a new one. -/
def openTable (old : Option Value) : Value := old.getD (.table [])

/-- Adds an empty table to a list of tables. -/
def addTable : Option Value → Value
  | some (.list items) => .list (items ++ [.table []])
  | _ => .list [.table []]

/-- The rest after spaces and tabs. -/
def skipSpace (cs : List Char) : List Char := cs.dropWhile isSpace

/-- What follows the sign of a comment, from the end of the line on. -/
def comment? : List Char → Option (List Char)
  | [] => some []
  | c :: rest =>
    if c == '\n' then some (c :: rest)
    else if c == '\r' then (if rest.head? == some '\n' then some rest else none)
    else if isControl c then none
    else comment? rest

/-- What follows spaces and a comment. -/
def skipComment? (cs : List Char) : Option (List Char) :=
  match skipSpace cs with
  | '#' :: rest => comment? rest
  | rest => some rest

/-- What follows spaces, comments and line breaks. -/
def skipLayout? : Nat → List Char → Option (List Char)
  | 0, _ => none
  | fuel + 1, cs => do
    let rest ← skipComment? cs
    match rest.head? with
    | some '\n' => (newline? rest).bind (skipLayout? fuel)
    | some '\r' => (newline? rest).bind (skipLayout? fuel)
    | _ => some rest

/-- The characters of a name without quotes. -/
def isNameChar (c : Char) : Bool := c.isAlphanum || c == '-' || c == '_'

/-- A part of a key. -/
def name? (cs : List Char) : Option (String × List Char) :=
  match cs with
  | [] => none
  | c :: _ =>
    if isNameChar c then some (String.ofList (cs.takeWhile isNameChar), cs.dropWhile isNameChar)
    else lineText? cs

/-- A key, and the rest after the spaces that follow it. -/
def key? : Nat → List Char → Option (Key × List Char)
  | 0, _ => none
  | fuel + 1, cs => do
    let (name, rest) ← name? cs
    match skipSpace rest with
    | '.' :: rest =>
      let (names, rest) ← key? fuel (skipSpace rest)
      pure (name :: names, rest)
    | rest => pure ([name], rest)

/-- Whether fields define each key once. -/
def isConsistent (fields : List (Key × Value)) : Bool :=
  (fields.foldlM (fun (o : Outline) f => o.addField? f.1) []).isSome

/-- The table with the given fields. -/
def tableOf (fields : List (Key × Value)) : Value :=
  .table (fields.foldl (fun (t : Fields) f => t.update (fun _ => f.2) f.1) [])

mutual

/-- A value, and the rest. -/
def value? : Nat → List Char → Option (Value × List Char)
  | 0, _ => none
  | fuel + 1, cs =>
    match cs with
    | 't' :: 'r' :: 'u' :: 'e' :: rest => some (.flag true, rest)
    | 'f' :: 'a' :: 'l' :: 's' :: 'e' :: rest => some (.flag false, rest)
    | '[' :: rest => (items? fuel true rest).map fun (items, rest) => (.list items, rest)
    | '\x7b' :: rest => do
      let (fields, rest) ← inlineFields? fuel true rest
      if isConsistent fields then some (tableOf fields, rest) else none
    | _ =>
      if cs.head? == some '"' || cs.head? == some '\'' then
        (text? cs).map fun (s, rest) => (.text s, rest)
      else (quantity? cs).map fun (q, rest) => (.quantity q, rest)

/-- The items of a list up to its end. A comma may stand after the last item. -/
def items? : Nat → (isFirst : Bool) → List Char → Option (List Value × List Char)
  | 0, _, _ => none
  | fuel + 1, isFirst, cs => do
    let rest ← skipLayout? (cs.length + 1) cs
    match rest with
    | ']' :: rest => pure ([], rest)
    | ',' :: rest =>
      if isFirst then none
      else
        let rest ← skipLayout? (rest.length + 1) rest
        match rest with
        | ']' :: rest => pure ([], rest)
        | _ => moreItems? fuel rest
    | _ => if isFirst then moreItems? fuel rest else none

/-- An item and those after it. -/
def moreItems? : Nat → List Char → Option (List Value × List Char)
  | 0, _ => none
  | fuel + 1, cs => do
    let (item, rest) ← value? fuel cs
    let (items, rest) ← items? fuel false rest
    pure (item :: items, rest)

/-- The fields of a table on one line, up to its end. -/
def inlineFields? : Nat → (isFirst : Bool) → List Char → Option (List (Key × Value) × List Char)
  | 0, _, _ => none
  | fuel + 1, isFirst, cs =>
    match skipSpace cs with
    | '\x7d' :: rest => some ([], rest)
    | ',' :: rest => if isFirst then none else moreInlineFields? fuel (skipSpace rest)
    | rest => if isFirst then moreInlineFields? fuel rest else none

/-- A field of a table on one line and those after it. -/
def moreInlineFields? : Nat → List Char → Option (List (Key × Value) × List Char)
  | 0, _ => none
  | fuel + 1, cs => do
    let (key, value, rest) ← field? fuel cs
    let (fields, rest) ← inlineFields? fuel false rest
    pure ((key, value) :: fields, rest)

/-- A key, an equals sign and a value. -/
def field? : Nat → List Char → Option (Key × Value × List Char)
  | 0, _ => none
  | fuel + 1, cs => do
    let (key, rest) ← key? (cs.length + 1) cs
    match rest with
    | '=' :: rest =>
      let (value, rest) ← value? fuel (skipSpace rest)
      pure (key, value, rest)
    | _ => none

end

/-- The header of a table or of a list of tables. -/
def header? (cs : List Char) : Option (Statement × List Char) := do
  match cs with
  | '[' :: '[' :: rest =>
    let (key, rest) ← key? (rest.length + 1) (skipSpace rest)
    match rest with
    | ']' :: ']' :: rest => pure (.header .tables key, rest)
    | _ => none
  | '[' :: rest =>
    let (key, rest) ← key? (rest.length + 1) (skipSpace rest)
    match rest with
    | ']' :: rest => pure (.header .table key, rest)
    | _ => none
  | _ => none

/-- The statement on a line, if there is one, and the rest from the end of the line on. -/
def statement? (cs : List Char) : Option (Option Statement × List Char) := do
  let cs := skipSpace cs
  match cs.head? with
  | none => pure (none, [])
  | some c =>
    if c == '#' || c == '\n' || c == '\r' then
      pure (none, ← skipComment? cs)
    else
      let (statement, rest) ←
        if c == '[' then header? cs
        else (field? (4 * cs.length + 4) cs).map fun (key, value, rest) =>
          (.field key value, rest)
      pure (some statement, ← skipComment? rest)

/-- The statements of a document, the lines of which are ended by breaks. -/
def statements? : Nat → List Char → Option (List Statement)
  | 0, _ => none
  | fuel + 1, cs => do
    let (statement, rest) ← statement? cs
    let following ← if rest.isEmpty then pure [] else (newline? rest).bind (statements? fuel)
    pure (statement.toList ++ following)

/-- A document while it is read: its fields, what is defined, and the current table. -/
structure Progress where
  fields : Fields := []
  outline : Outline := []
  current : Key := []

/-- Takes a statement into account. -/
def Progress.add? (p : Progress) : Statement → Option Progress
  | .field key value => do
    let outline ← Outline.updateAt (Outline.addField? key) p.current p.outline
    pure { p with
      fields := p.fields.update (fun _ => value) (p.current ++ key), outline := outline }
  | .header role key => do
    let outline ← Outline.addHeader? role key (p.outline.leave p.current)
    let change := if role = .tables then addTable else openTable
    pure { fields := p.fields.update change key, outline := outline, current := key }

/-- The fields of a document. -/
def read? (text : String) : Option Fields := do
  let cs := text.toList
  let statements ← statements? (cs.length + 1) cs
  let p ← statements.foldlM Progress.add? {}
  pure p.fields

end ModuleLint.Toml
