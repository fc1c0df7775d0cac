import ModuleLint.Telemetry.Record
import ModuleLint.Text.Search

/-!
# Which attributes may leave the program

Attributes of spans are exported only when a policy permits their keys: blocked keys never, bare
keys always, and all others when they are in one of the namespaces. Dropped keys are noted.
-/

set_option autoImplicit false

namespace ModuleLint.Telemetry

/-- What may be exported. A namespace is the start of its keys, point included. -/
structure Policy where
  namespaces : List String
  bare : List String
  blocked : List String
deriving Repr, DecidableEq, Inhabited

namespace Policy

/-- The policy in force: names of what was analysed may leave, source text may not. -/
def default : Policy :=
  { namespaces := ["bslint.", "batch.", "error.", "module.", "rule.", "run."]
    bare := ["error"]
    blocked := ["module.source", "module.snippet"] }

/-- Whether a key may be exported. -/
def permits (p : Policy) (key : String) : Bool :=
  !p.blocked.contains key
    && (p.bare.contains key || p.namespaces.any fun start => Text.startsWith key start)

/-- The attributes of a span that may be exported. -/
def keep {α : Type} (p : Policy) (attributes : List (String × α)) : List (String × α) :=
  attributes.filter fun a => p.permits a.1

/-- The notes about the attributes of a span that may not be exported. -/
def notes {α : Type} (p : Policy) (attributes : List (String × α)) : List Record :=
  (attributes.filter fun a => !p.permits a.1).map fun a =>
    { level := .debug, message := "span attribute dropped", attributes := [("key", .text a.1)] }

end Policy

end ModuleLint.Telemetry
