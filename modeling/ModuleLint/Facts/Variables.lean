import ModuleLint.Distinct
import ModuleLint.Walk.Context

/-!
# Mentions of variables

While a module is walked, every parameter, declaration and mention of a variable is noted down with
the scope it stands in. Visiting a module starts afresh.
-/

set_option autoImplicit false

namespace ModuleLint

/-- The ways in which a variable is mentioned. -/
inductive MentionKind where
  | parameter
  | declaration
  | usage
deriving Repr, DecidableEq, Inhabited

/-- The name of a way of mentioning a variable. -/
def MentionKind.name : MentionKind → String
  | .parameter => "parameter"
  | .declaration => "declaration"
  | .usage => "usage"

/-- One mention of a variable. -/
structure Mention where
  name : String
  scope : String
  kind : MentionKind
  line : UInt64
  exported : Bool
  routine : String
deriving Repr, DecidableEq, Inhabited

namespace Mention

/-- A mention in the given context. -/
def inContext (c : Context) (name : String) (kind : MentionKind) (span : Span) (exported : Bool) :
    Mention :=
  { name := name, scope := c.scope, kind := kind, line := span.line, exported := exported,
    routine := c.routineName }

/-- The mention that a node makes, if it makes one. -/
def ofNode? (n : Node) (c : Context) : Option Mention :=
  match n with
  | .parameter p => some (inContext c p.name .parameter p.span false)
  | .declaration d => some (inContext c d.name .declaration d.span d.exported)
  | .reference r => some (inContext c r.name .usage r.span false)
  | _ => none

end Mention

namespace Mentions

/-- What a node adds to the mentions. -/
def observe (n : Node) (c : Context) (mentions : List Mention) : List Mention :=
  match n with
  | .module _ => []
  | _ => mentions ++ (Mention.ofNode? n c).toList

/-- The hook that gathers mentions of variables. -/
def hook : Hook Context (List Mention) :=
  fun n c mentions => { state := observe n c mentions }

/-- The mentions of one kind. -/
def ofKind (mentions : List Mention) (kind : String) : List Mention :=
  mentions.filter fun m => m.kind.name == kind

/-- The mentions in one scope. -/
def inScope (mentions : List Mention) (scope : String) : List Mention :=
  mentions.filter fun m => m.scope == scope

/-- The distinct names, in the order first seen. -/
def names (mentions : List Mention) : List String :=
  distinct (mentions.map (·.name))

end Mentions

end ModuleLint
