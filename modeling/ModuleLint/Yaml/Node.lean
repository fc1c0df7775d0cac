import ModuleLint.Yaml.Token

/-!
# Nodes of a document

A node is a scalar, a list or a mapping. Only the first document of a text is read.
-/

set_option autoImplicit false

namespace ModuleLint.Yaml

/-- A node. Scalars are kept as they are written, and the fields of a mapping stay in order. -/
inductive Node where
  | scalar (text : String) (isPlain : Bool)
  | list (items : List Node)
  | mapping (fields : List (Node × Node))
deriving Repr, Inhabited

/-- A node that is not written. -/
def Node.empty : Node := .scalar "" true

/-- What is left of the tokens, and the nodes that have a name. -/
structure Source where
  tokens : List Token
  anchors : List (String × Node) := []
deriving Repr

/-- Reads something from the tokens, or fails. -/
abbrev FromTokens (α : Type) : Type := StateT Source Option α

/-- The next token, which stays. There is always one, since a complete text ends with a token. -/
def peek : FromTokens Token := do
  match (← get).tokens with
  | t :: _ => pure t
  | [] => failure

/-- Drops the next token. -/
def advance : FromTokens Unit := modify fun s => { s with tokens := s.tokens.drop 1 }

/-- Drops the next token if it is the given one, and tells whether it was. -/
def accept (t : Token) : FromTokens Bool := do
  if (← peek) == t then
    advance
    pure true
  else pure false

/-- The name in front of a node, if there is one. -/
def anchorName? : FromTokens (Option String) := do
  match ← peek with
  | .anchor name =>
    advance
    pure (some name)
  | _ => pure none

/-- The node that a name stands for. -/
def referenced (name : String) : FromTokens Node := do
  match (← get).anchors.lookup name with
  | some n => pure n
  | none => failure

mutual

/-- A node. Block collections can only stand inside of blocks, and a list whose items are not
indented only after a key or a colon. -/
def readNode : Nat → (inBlock afterKey : Bool) → FromTokens Node
  | 0, _, _ => failure
  | fuel + 1, inBlock, afterKey => do
    match ← peek with
    | .reference name =>
      advance
      referenced name
    | _ =>
      let name? ← anchorName?
      let node ← readContent fuel inBlock afterKey name?.isSome
      if let some name := name? then
        modify fun s => { s with anchors := (name, node) :: s.anchors }
      pure node

/-- What follows the name of a node; it may be missing if there is a name. -/
def readContent : Nat → (inBlock afterKey isNamed : Bool) → FromTokens Node
  | 0, _, _, _ => failure
  | fuel + 1, inBlock, afterKey, isNamed => do
    match ← peek with
    | .scalar text isPlain =>
      advance
      pure (.scalar text isPlain)
    | .openList =>
      advance
      return .list (← flowItems fuel true)
    | .openMapping =>
      advance
      return .mapping (← flowFields fuel true)
    | t =>
      if t == .item && afterKey then return .list (← looseItems fuel)
      else if t == .listStart && inBlock then
        advance
        return .list (← blockItems fuel)
      else if t == .mappingStart && inBlock then
        advance
        return .mapping (← blockFields fuel)
      else if isNamed then pure Node.empty
      else failure

/-- A node of a block, or nothing if one of the given tokens follows. -/
def readUnless : Nat → List Token → (afterKey : Bool) → FromTokens Node
  | 0, _, _ => failure
  | fuel + 1, ends, afterKey => do
    if ends.contains (← peek) then pure Node.empty else readNode fuel true afterKey

/-- The items of a block list, up to its end. -/
def blockItems : Nat → FromTokens (List Node)
  | 0 => failure
  | fuel + 1 => do
    if ← accept .item then
      let item ← readUnless fuel [.item, .blockEnd] false
      return item :: (← blockItems fuel)
    else if ← accept .blockEnd then pure []
    else failure

/-- The items of a list whose items are not indented. -/
def looseItems : Nat → FromTokens (List Node)
  | 0 => failure
  | fuel + 1 => do
    if ← accept .item then
      let item ← readUnless fuel [.item, .key, .value, .blockEnd] false
      return item :: (← looseItems fuel)
    else pure []

/-- The fields of a block mapping, up to its end. Keys and values may be missing. -/
def blockFields : Nat → FromTokens (List (Node × Node))
  | 0 => failure
  | fuel + 1 => do
    if ← accept .key then
      let key ← readUnless fuel [.key, .value, .blockEnd] true
      let value ← blockValue fuel
      return (key, value) :: (← blockFields fuel)
    else if ← accept .blockEnd then pure []
    else failure

/-- The value of a field of a block mapping. -/
def blockValue : Nat → FromTokens Node
  | 0 => failure
  | fuel + 1 => do
    if ← accept .value then readUnless fuel [.key, .value, .blockEnd] true
    else pure Node.empty

/-- The items of a flow list, up to its end. A comma may stand after the last item, and an item
with a colon is a mapping of one field. -/
def flowItems : Nat → (isFirst : Bool) → FromTokens (List Node)
  | 0, _ => failure
  | fuel + 1, isFirst => do
    if ← accept .closeList then return []
    if !isFirst && !(← accept .comma) then failure
    if ← accept .closeList then return []
    let item ← if ← accept .key then singleField fuel else readNode fuel false false
    return item :: (← flowItems fuel false)

/-- A mapping of one field inside of a flow list. -/
def singleField : Nat → FromTokens Node
  | 0 => failure
  | fuel + 1 => do
    let ends : List Token := [.value, .comma, .closeList]
    if ends.contains (← peek) then
      advance
      return .mapping [(Node.empty, ← flowValue fuel .closeList)]
    else
      let key ← readNode fuel false false
      return .mapping [(key, ← flowValue fuel .closeList)]

/-- The value of a field inside of a flow collection that ends with the given token. -/
def flowValue : Nat → Token → FromTokens Node
  | 0, _ => failure
  | fuel + 1, close => do
    if ← accept .value then
      let next ← peek
      if next == .comma || next == close then pure Node.empty else readNode fuel false false
    else pure Node.empty

/-- The fields of a flow mapping, up to its end. A comma may stand after the last field, and values
may be missing. -/
def flowFields : Nat → (isFirst : Bool) → FromTokens (List (Node × Node))
  | 0, _ => failure
  | fuel + 1, isFirst => do
    if ← accept .closeMapping then return []
    if !isFirst && !(← accept .comma) then failure
    if ← accept .closeMapping then return []
    if ← accept .key then
      let ends : List Token := [.value, .comma, .closeMapping]
      let key ← if ends.contains (← peek) then pure Node.empty else readNode fuel false false
      let value ← flowValue fuel .closeMapping
      return (key, value) :: (← flowFields fuel false)
    else
      let key ← readNode fuel false false
      return (key, Node.empty) :: (← flowFields fuel false)

end

/-- The first document; an empty one, or one that is not there, is an empty node. -/
def readDocument (fuel : Nat) : FromTokens Node := do
  match ← peek with
  | .streamEnd => pure Node.empty
  | .documentStart =>
    advance
    let ends : List Token := [.documentStart, .documentEnd, .streamEnd]
    if ends.contains (← peek) then pure Node.empty else readNode fuel true false
  | _ => readNode fuel true false

/-- How many tokens have to be free of faults from the end of the document on. -/
def lookahead : Nat := 3

/-- The node of the first document of a text. A fault behind the document counts if it is near. -/
def Node.read? (text : String) : Option Node := do
  let (tokens, isComplete) := tokensOf text
  let (node, rest) ← (readDocument (4 * tokens.length + 4)).run { tokens := tokens }
  if isComplete || rest.tokens.length ≥ lookahead then some node else none

end ModuleLint.Yaml
