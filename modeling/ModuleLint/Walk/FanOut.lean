import ModuleLint.Walk.Basic

/-!
# Several hooks on one walk

A fan-out shows every node to several constituents in the order of their registration. A constituent
that panics on a node is noted down as failed there, and the others still see that node; the walk
itself goes on.
-/

set_option autoImplicit false

namespace ModuleLint

/-- One of the hooks of a fan-out, with the name of its type for messages. -/
structure Constituent (γ σ : Type) where
  typeName : String
  hook : Hook γ σ

/-- A constituent that panicked on a node. -/
structure ConstituentError where
  index : Nat
  typeName : String
  kind : Kind
  line : UInt64
  cause : Panic
deriving Repr, DecidableEq

/-- The text of a constituent's failure. -/
def ConstituentError.message (e : ConstituentError) : String :=
  "visitor #" ++ toString e.index ++ " (" ++ e.typeName ++ ") failed on " ++ e.kind.name
    ++ " at line " ++ toString e.line.toNat ++ ": " ++ e.cause.recovered

/-- The errors inside of a constituent's failure. -/
def ConstituentError.wrapped (e : ConstituentError) : List WrappedError := e.cause.wrapped

/-- The state of a fan-out: that of its constituents, and their failures so far. -/
structure FanState (σ : Type) where
  state : σ
  errors : List ConstituentError

namespace FanOut

variable {γ σ : Type}

/-- Shows a node to one constituent. -/
def dispatch (n : Node) (g : γ) (r : Reaction (FanState σ)) (c : Nat × Constituent γ σ) :
    Reaction (FanState σ) :=
  let mine := c.2.hook n g r.state.state
  let failed := match mine.panic with
    | some cause =>
      [{ index := c.1, typeName := c.2.typeName, kind := n.kind, line := n.line, cause := cause }]
    | none => []
  { state := { state := mine.state, errors := r.state.errors ++ failed }
    entered := r.entered ++ mine.entered }

/-- The constituents with their indices. -/
def numbered (cs : List (Constituent γ σ)) : List (Nat × Constituent γ σ) :=
  (List.range cs.length).zip cs

/-- The hook that shows every node to all constituents. It never panics itself. -/
def hook (cs : List (Constituent γ σ)) : Hook γ (FanState σ) :=
  fun n g s => (numbered cs).foldl (dispatch n g) { state := s }

/-- All failures: those of constituents on nodes, then what the constituents report themselves. -/
def failures (s : FanState σ) (reported : List (Option String)) : List String :=
  s.errors.map ConstituentError.message ++ reported.filterMap id

end FanOut

/-- Several failures as one text, one line each, if there are any. -/
def joinFailures : List String → Option String
  | [] => none
  | texts => some ("\n".intercalate texts)

end ModuleLint
