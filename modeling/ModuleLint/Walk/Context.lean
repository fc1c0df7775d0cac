import ModuleLint.Walk.Basic

/-!
# The context of a node

While a module is walked its context tells where the walk is: the name of the module, the stack of
scopes, the routine around the current node and whether there is a loop or a condition around it.
The context of a node is already in force when a hook sees the node itself, so a loop counts as
being inside of a loop.
-/

set_option autoImplicit false

namespace ModuleLint

/-- A stack of scope names that is popped by lowering its height. The entries above the height stay
where they are until others take their place. -/
structure ScopeStack where
  cells : List String
  height : Nat
  height_le : height ≤ cells.length
deriving Repr, DecidableEq

namespace ScopeStack

/-- The name of the scope at the bottom of every stack. -/
def globalName : String := "global"

/-- The stack of a module. -/
def global : ScopeStack :=
  { cells := [globalName], height := 1, height_le := Nat.le_refl 1 }

instance : Inhabited ScopeStack := ⟨global⟩

/-- The scopes on the stack, outermost first. -/
def scopes (s : ScopeStack) : List String := s.cells.take s.height

/-- Puts a scope on top. -/
def enter (s : ScopeStack) (name : String) : ScopeStack :=
  { cells := s.cells.take s.height ++ name :: s.cells.drop (s.height + 1)
    height := s.height + 1
    height_le := by
      have := s.height_le
      simp only [List.length_append, List.length_take, List.length_cons]
      omega }

/-- Goes back to the height at which a scope was entered. There are cells up to that height, since
cells are never given up. -/
def release (s : ScopeStack) (height : Nat) : ScopeStack :=
  { s with height := min height s.cells.length, height_le := Nat.min_le_right .. }

/-- The scopes joined with dots. -/
def text (s : ScopeStack) : String :=
  ".".intercalate s.scopes

/-- There are as many scopes as the stack is high. -/
@[simp] theorem length_scopes (s : ScopeStack) : s.scopes.length = s.height := by
  unfold scopes
  rw [List.length_take, Nat.min_eq_left s.height_le]

/-- A scope is entered on top of the others. -/
@[simp] theorem scopes_enter (s : ScopeStack) (name : String) :
    (s.enter name).scopes = s.scopes ++ [name] := by
  have hlength : (s.cells.take s.height).length = s.height := s.length_scopes
  unfold scopes enter
  rw [List.take_append, hlength, List.take_of_length_le (Nat.le_succ_of_le (Nat.le_of_eq hlength)),
    Nat.add_sub_cancel_left, List.take_succ_cons, List.take_zero]

/-- A release goes back to the cells below a height, whatever has been written into them. -/
theorem scopes_release (s : ScopeStack) (height : Nat) :
    (s.release height).scopes = s.cells.take height := by
  show s.cells.take (min height s.cells.length) = s.cells.take height
  exact List.take_eq_take_iff.mpr (by omega)

end ScopeStack

/-- Where a walk is. The function and the procedure around the current node are kept apart. -/
structure Context where
  moduleName : String
  stack : ScopeStack
  function? : Option Routine
  procedure? : Option Routine
  inLoop : Bool
  inCondition : Bool
deriving Inhabited

namespace Context

/-- The context at module level. -/
def ofModule (name : String) : Context :=
  { moduleName := name, stack := ScopeStack.global, function? := none, procedure? := none,
    inLoop := false, inCondition := false }

/-- The scopes joined with dots. -/
def scope (c : Context) : String := c.stack.text

/-- The routine around the current node: a function before a procedure. -/
def routine (c : Context) : Option (RoutineKind × Routine) :=
  match c.function?, c.procedure? with
  | some r, _ => some (.function, r)
  | none, some r => some (.procedure, r)
  | none, none => none

/-- The name of the routine around the current node, empty at module level. -/
def routineName (c : Context) : String :=
  match c.routine with
  | some (_, r) => r.name
  | none => ""

/-- The kind of the routine around the current node. -/
def routineKind? (c : Context) : Option RoutineKind :=
  c.routine.map (·.1)

/-- The name of the scope of a routine. -/
def scopeName (kind : RoutineKind) (name : String) : String :=
  match kind with
  | .function => "func:" ++ name
  | .procedure => "procedure:" ++ name

/-- The context inside of a routine. -/
def enterRoutine (c : Context) (kind : RoutineKind) (r : Routine) : Context :=
  let inside := { c with stack := c.stack.enter (scopeName kind r.name) }
  match kind with
  | .function => { inside with function? := some r, procedure? := none }
  | .procedure => { inside with function? := none, procedure? := some r }

/-- The context below a node. -/
def enter (n : Node) (c : Context) : Context :=
  match n with
  | .module m => if c.moduleName == "" then { c with moduleName := m.name } else c
  | .function r => c.enterRoutine .function r
  | .procedure r => c.enterRoutine .procedure r
  | .ifStatement .. => { c with inCondition := true }
  | .whileLoop .. => { c with inLoop := true }
  | .forLoop .. => { c with inLoop := true }
  | _ => c

/-- The context after a routine: the scopes, the function and the procedure of before are put
back. -/
def leaveRoutine (before after : Context) : Context :=
  { after with
    stack := after.stack.release before.stack.height
    function? := before.function?
    procedure? := before.procedure? }

/-- The context after a node: what entering the node has changed is put back, only the name of the
module stays. -/
def leave (n : Node) (before after : Context) : Context :=
  match n with
  | .function _ => leaveRoutine before after
  | .procedure _ => leaveRoutine before after
  | .ifStatement .. => { after with inCondition := before.inCondition }
  | .whileLoop .. => { after with inLoop := before.inLoop }
  | .forLoop .. => { after with inLoop := before.inLoop }
  | _ => after

/-- Walks keep the context of each node. -/
def surroundings : Surroundings Context :=
  { enter := enter
    leave := leave
    push := fun name c => { c with stack := c.stack.enter name } }

end Context

/-- Scopes entered one after another, and for each entering the height to go back to. -/
structure ScopeHistory where
  stack : ScopeStack
  heights : List Nat
deriving Repr

namespace ScopeHistory

/-- Nothing has been entered yet. -/
def start : ScopeHistory := { stack := ScopeStack.global, heights := [] }

/-- Enters a scope and remembers the height for its release. -/
def enter (h : ScopeHistory) (name : String) : ScopeHistory :=
  { stack := h.stack.enter name, heights := h.heights ++ [h.stack.height] }

/-- Releases the scope that was entered as number `n`. -/
def release (h : ScopeHistory) (n : Nat) : ScopeHistory :=
  match h.heights[n]? with
  | some height => { h with stack := h.stack.release height }
  | none => h

end ScopeHistory

end ModuleLint
