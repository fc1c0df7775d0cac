import ModuleLint.Tree.Outline

/-!
# Walking a tree

A walk shows each node of an outline to a hook, in order. The hook keeps a state of its own and may
panic, which ends the walk. While the walk is below a node, the surroundings of that node are in
force: they are set up before the hook sees the node and undone when the walk leaves it, no matter
whether it leaves it at the end or because of a panic.
-/

set_option autoImplicit false

namespace ModuleLint

/-- How a hook gives up: with some value, shown as a text, or with an error of its own. -/
inductive Panic where
  | value (text : String)
  | error (text : String)
deriving Repr, DecidableEq, Inhabited

/-- What a panic says. -/
def Panic.text : Panic → String
  | .value t => t
  | .error t => t

/-- An error that can be found inside of another one. -/
inductive WrappedError where
  | panicked
  | raised (text : String)
deriving Repr, DecidableEq

/-- The errors inside of a recovered panic: that there was a panic, and the error it carries, if it
carries one. -/
def Panic.wrapped : Panic → List WrappedError
  | .value _ => [.panicked]
  | .error t => [.panicked, .raised t]

/-- Whether the panic carries an error. -/
def Panic.isError : Panic → Bool
  | .value _ => false
  | .error _ => true

/-- How a hook reacts to a node: its new state, the scopes it entered without leaving them, and the
panic it ended with, if any. What it did before it panicked stays done. -/
structure Reaction (σ : Type) where
  state : σ
  entered : List String := []
  panic : Option Panic := none

/-- The same reaction with another view of the state. -/
def Reaction.map {σ τ : Type} (f : σ → τ) (r : Reaction σ) : Reaction τ :=
  { state := f r.state, entered := r.entered, panic := r.panic }

/-- A hook sees a node with its surroundings. -/
abbrev Hook (γ σ : Type) := Node → γ → σ → Reaction σ

/-- How the surroundings of a node are set up and undone. `leave` is given the node, the
surroundings before the node was entered and those at the time of leaving; `push` enters one
scope. -/
structure Surroundings (γ : Type) where
  enter : Node → γ → γ
  leave : Node → γ → γ → γ
  push : String → γ → γ

/-- Nothing is known about where a node stands. -/
def Surroundings.none : Surroundings Unit :=
  { enter := fun _ _ => (), leave := fun _ _ _ => (), push := fun _ _ => () }

/-- Where a walk has got to: the surroundings, the state of the hook, and the panic that stopped
it. -/
structure Progress (γ σ : Type) where
  surroundings : γ
  state : σ
  panic : Option Panic

namespace Progress

variable {γ σ : Type}

/-- Goes on unless the walk has been stopped. -/
def andThen (p : Progress γ σ) (next : γ → σ → Progress γ σ) : Progress γ σ :=
  match p.panic with
  | some _ => p
  | none => next p.surroundings p.state

/-- A walk that has nothing to do. -/
def idle (g : γ) (s : σ) : Progress γ σ :=
  { surroundings := g, state := s, panic := none }

end Progress

section

variable {γ σ : Type}

/-- Shows one node to the hook. -/
def visit (sur : Surroundings γ) (hook : Hook γ σ) (n : Node) (g : γ) (s : σ) : Progress γ σ :=
  let r := hook n g s
  { surroundings := r.entered.foldl (fun g name => sur.push name g) g
    state := r.state
    panic := r.panic }

/-- Runs a part of a walk with the surroundings of a node in force. -/
def within (sur : Surroundings γ) (n : Node) (body : γ → σ → Progress γ σ) (g : γ) (s : σ) :
    Progress γ σ :=
  let p := body (sur.enter n g) s
  { p with surroundings := sur.leave n g p.surroundings }

mutual

/-- Walks a node and all nodes below it. -/
def walkOutline (sur : Surroundings γ) (hook : Hook γ σ) : Outline → γ → σ → Progress γ σ
  | .node n children =>
    within sur n fun g s => (visit sur hook n g s).andThen (walkOutlines sur hook children)

/-- Walks several outlines one after another. -/
def walkOutlines (sur : Surroundings γ) (hook : Hook γ σ) :
    List Outline → γ → σ → Progress γ σ
  | [], g, s => Progress.idle g s
  | o :: rest, g, s => (walkOutline sur hook o g s).andThen (walkOutlines sur hook rest)

end

end

/-- The failure of a walk, named after the node at its top. -/
structure WalkError where
  kind : Kind
  line : UInt64
  cause : Panic
deriving Repr, DecidableEq

/-- The text of a recovered panic. -/
def Panic.recovered (p : Panic) : String :=
  "visitor panicked: " ++ p.text

/-- The text of a failed walk. -/
def WalkError.message (e : WalkError) : String :=
  "analysis of " ++ e.kind.name ++ " at line " ++ toString e.line.toNat ++ " aborted: "
    ++ e.cause.recovered

/-- The errors inside of the failure of a walk. -/
def WalkError.wrapped (e : WalkError) : List WrappedError := e.cause.wrapped

/-- The failure of a walk that was stopped by a panic. -/
def Progress.failure {γ σ : Type} (root : Node) (p : Progress γ σ) : Option WalkError :=
  p.panic.map fun cause => { kind := root.kind, line := root.line, cause := cause }

/-- Walks a tree from its top, if there is a tree at all. -/
def walk {γ σ : Type} (sur : Surroundings γ) (hook : Hook γ σ) (root : Option Outline)
    (g : γ) (s : σ) : Progress γ σ :=
  match root with
  | some o => walkOutline sur hook o g s
  | none => Progress.idle g s

end ModuleLint
