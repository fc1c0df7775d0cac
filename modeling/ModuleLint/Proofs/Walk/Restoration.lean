import ModuleLint.Proofs.Walk.Visits
import ModuleLint.Walk.Context

/-!
# The context after a walk

A walk puts the context back that it found, whether it comes to its end or is stopped by a panic. What a
node changes is put back when the node is left, so along a walk no scope of the start is lost and the routine,
the loop and the condition around the start are those of the start again (`leadsTo_walkOutline`). Scopes that
a hook enters inside of a routine go when the routine is left. As long as the hook enters none elsewhere,
the stack is therefore as high as before (`height_walkOutline`), and so the same. The name of the module stays
once it is known (`moduleName_walkRoot`).

A panic moreover ends the visits where it happens, and is what the walk fails with (`restores_of_entersInside`).
All this holds of each walk of a series with one hook and one context (`each_walk_restores`).
-/

set_option autoImplicit false

namespace ModuleLint

/-! ## What a walk keeps -/

/-- A relation between the surroundings at the start and at the end that holds of each part of a walk: of
entering a scope, and of all that happens from entering a node up to leaving it. -/
structure Keeps {γ : Type} (sur : Surroundings γ) (P : Node → Prop) (R : γ → γ → Prop) : Prop where
  refl : ∀ g, R g g
  trans : ∀ {a b c}, R a b → R b c → R a c
  push : ∀ name g, R g (sur.push name g)
  leave : ∀ n, P n → ∀ g after, R (sur.enter n g) after → R g (sur.leave n g after)

section Keeps

variable {γ σ : Type} {sur : Surroundings γ} {P : Node → Prop} {R : γ → γ → Prop} (h : Keeps sur P R)
  (hook : Hook γ σ)
include h

/-- The scopes that a hook enters at a node are kept as one. -/
theorem Keeps.visit (n : Node) (g : γ) (s : σ) : R g (visit sur hook n g s).surroundings := by
  show R g ((hook n g s).entered.foldl (fun g name => sur.push name g) g)
  generalize (hook n g s).entered = names
  induction names generalizing g with
  | nil => exact h.refl g
  | cons name rest ih => exact h.trans (h.push name g) (ih _)

mutual

/-- A walk keeps what its parts keep, by the recursion over the tree. -/
theorem Keeps.walkOutline : ∀ (o : Outline) (g : γ) (s : σ), (∀ n ∈ o.nodes, P n) →
    R g (walkOutline sur hook o g s).surroundings
  | .node n children, g, s => by
    intro hnodes
    rw [Outline.nodes] at hnodes
    have hvisit := h.visit hook n (sur.enter n g) s
    have hbelow := Keeps.walkOutlines children
      (ModuleLint.visit sur hook n (sur.enter n g) s).surroundings
      (ModuleLint.visit sur hook n (sur.enter n g) s).state
      fun x hx => hnodes x (List.mem_cons_of_mem n hx)
    apply h.leave n (hnodes n (List.mem_cons_self ..))
    show R (sur.enter n g) (Progress.andThen _ _).surroundings
    unfold Progress.andThen
    cases (ModuleLint.visit sur hook n (sur.enter n g) s).panic with
    | some cause => exact hvisit
    | none => exact h.trans hvisit hbelow

/-- A walk of trees side by side keeps what its parts keep. -/
theorem Keeps.walkOutlines : ∀ (os : List Outline) (g : γ) (s : σ), (∀ n ∈ nodesOfAll os, P n) →
    R g (walkOutlines sur hook os g s).surroundings
  | [], g, s => fun _ => h.refl g
  | o :: rest, g, s => by
    intro hnodes
    rw [nodesOfAll] at hnodes
    have hfirst := Keeps.walkOutline o g s fun n hn => hnodes n (List.mem_append_left _ hn)
    unfold ModuleLint.walkOutlines Progress.andThen
    cases (ModuleLint.walkOutline sur hook o g s).panic with
    | some cause => exact hfirst
    | none =>
      exact h.trans hfirst (Keeps.walkOutlines rest _ _
        fun n hn => hnodes n (List.mem_append_right _ hn))

end

/-- The part of a walk from the visit of a node to the end of the nodes below it. -/
theorem Keeps.inside (n : Node) (children : List Outline) (g : γ) (s : σ)
    (hnodes : ∀ x ∈ nodesOfAll children, P x) :
    R g ((ModuleLint.visit sur hook n g s).andThen
      (ModuleLint.walkOutlines sur hook children)).surroundings := by
  unfold Progress.andThen
  cases (ModuleLint.visit sur hook n g s).panic with
  | some cause => exact h.visit hook n g s
  | none => exact h.trans (h.visit hook n g s) (h.walkOutlines hook children _ _ hnodes)

end Keeps

/-! ## Stacks and contexts -/

namespace ScopeStack

/-- On a stack that is high enough a release takes names off. -/
theorem scopes_release_of_le {s : ScopeStack} {height : Nat} (h : height ≤ s.height) :
    (s.release height).scopes = s.scopes.take height := by
  rw [scopes_release]
  unfold scopes
  rw [List.take_take, Nat.min_eq_left h]

/-- A stack that has grown since is brought back by releasing it to its old height. -/
theorem scopes_release_of_isPrefix {before after : ScopeStack}
    (h : before.scopes <+: after.scopes) : (after.release before.height).scopes = before.scopes := by
  have hlength : before.height ≤ after.height := by
    have hle := h.length_le
    rw [length_scopes, length_scopes] at hle
    exact hle
  obtain ⟨above, habove⟩ := h
  rw [scopes_release_of_le hlength, ← habove]
  exact List.take_left' before.length_scopes

end ScopeStack

namespace Context

/-- No scope has been left, and the function, the procedure, the loop and the condition around are the same. -/
structure LeadsTo (before after : Context) : Prop where
  scopes : before.stack.scopes <+: after.stack.scopes
  function? : after.function? = before.function?
  procedure? : after.procedure? = before.procedure?
  inLoop : after.inLoop = before.inLoop
  inCondition : after.inCondition = before.inCondition

/-- The contexts differ at most in the name of the module. -/
structure SamePlace (before after : Context) : Prop where
  scopes : after.stack.scopes = before.stack.scopes
  function? : after.function? = before.function?
  procedure? : after.procedure? = before.procedure?
  inLoop : after.inLoop = before.inLoop
  inCondition : after.inCondition = before.inCondition

/-- Nothing is lost when nothing happens. -/
theorem LeadsTo.refl (c : Context) : LeadsTo c c :=
  { scopes := List.prefix_rfl, function? := rfl, procedure? := rfl, inLoop := rfl, inCondition := rfl }

/-- What is not lost in two parts is not lost. -/
theorem LeadsTo.trans {a b c : Context} (hab : LeadsTo a b) (hbc : LeadsTo b c) : LeadsTo a c :=
  { scopes := hab.scopes.trans hbc.scopes
    function? := hbc.function?.trans hab.function?
    procedure? := hbc.procedure?.trans hab.procedure?
    inLoop := hbc.inLoop.trans hab.inLoop
    inCondition := hbc.inCondition.trans hab.inCondition }

/-- If no scope is lost and the stack is as high as before, the place is the same. -/
theorem LeadsTo.samePlace {before after : Context} (h : LeadsTo before after)
    (hheight : after.stack.height = before.stack.height) : SamePlace before after :=
  { scopes := (h.scopes.eq_of_length (by simp [hheight])).symm
    function? := h.function?
    procedure? := h.procedure?
    inLoop := h.inLoop
    inCondition := h.inCondition }

/-- The routine around is told by the function and the procedure around. -/
theorem routine_congr {c d : Context} (hfunction : d.function? = c.function?)
    (hprocedure : d.procedure? = c.procedure?) : d.routine = c.routine := by
  unfold routine
  rw [hfunction, hprocedure]

/-- At the same place the same routine is around. -/
theorem SamePlace.routine {c d : Context} (h : SamePlace c d) : d.routine = c.routine :=
  routine_congr h.function? h.procedure?

end Context

/-! ## Entering and leaving a node -/

def Node.isRoutine : Node → Bool
  | .function _ => true
  | .procedure _ => true
  | _ => false

namespace Context

/-- A module gives its name where none is known. -/
theorem enter_module (m : Module) (c : Context) :
    enter (.module m) c
      = { c with moduleName := if c.moduleName = "" then m.name else c.moduleName } := by
  by_cases hname : c.moduleName = ""
  · simp [enter, hname]
  · simp [enter, hname]

/-- Only routines enter a scope. -/
theorem stack_enter {n : Node} (hn : n.isRoutine = false) (c : Context) :
    (enter n c).stack = c.stack := by
  cases n with
  | module m => rw [enter_module]
  | function r => cases hn
  | procedure r => cases hn
  | _ => rfl

/-- Only routines leave one. -/
theorem stack_leave {n : Node} (hn : n.isRoutine = false) (before after : Context) :
    (leave n before after).stack = after.stack := by
  cases n with
  | function r => cases hn
  | procedure r => cases hn
  | _ => rfl

/-- The name of the module stays when a node is left. -/
theorem moduleName_leave (n : Node) (before after : Context) :
    (leave n before after).moduleName = after.moduleName := by
  cases n <;> rfl

/-- Only a module gives a name. -/
theorem moduleName_enter {n : Node} (hn : n.kind ≠ .module) (c : Context) :
    (enter n c).moduleName = c.moduleName := by
  cases n with
  | module m => exact absurd rfl hn
  | _ => rfl

/-- A routine enters the scope of its name. -/
theorem stack_enterRoutine (c : Context) (kind : RoutineKind) (r : Routine) :
    (c.enterRoutine kind r).stack = c.stack.enter (scopeName kind r.name) := by
  cases kind <;> rfl

/-- Inside of a routine its scope stands on top of those before it. -/
theorem LeadsTo.scopes_of_enterRoutine {c after : Context} (kind : RoutineKind) (r : Routine)
    (h : LeadsTo (c.enterRoutine kind r) after) : c.stack.scopes <+: after.stack.scopes := by
  have hscopes := h.scopes
  rw [stack_enterRoutine, ScopeStack.scopes_enter] at hscopes
  exact (List.prefix_append ..).trans hscopes

/-- Leaving a routine brings the stack back, whatever has been put on it inside. -/
theorem LeadsTo.height_leave {n : Node} (hn : n.isRoutine = true) {c after : Context}
    (h : LeadsTo (enter n c) after) : (leave n c after).stack.height = c.stack.height := by
  have hrelease : c.stack.scopes <+: after.stack.scopes →
      (after.stack.release c.stack.height).height = c.stack.height := by
    intro hscopes
    rw [← ScopeStack.length_scopes, ScopeStack.scopes_release_of_isPrefix hscopes,
      ScopeStack.length_scopes]
  cases n with
  | function r => exact hrelease (LeadsTo.scopes_of_enterRoutine .function r h)
  | procedure r => exact hrelease (LeadsTo.scopes_of_enterRoutine .procedure r h)
  | _ => cases hn

/-- From entering a node up to leaving it no scope is lost. -/
theorem LeadsTo.leave {n : Node} {c after : Context} (h : LeadsTo (enter n c) after) :
    LeadsTo c (Context.leave n c after) := by
  have hrelease : c.stack.scopes <+: after.stack.scopes →
      c.stack.scopes <+: (after.stack.release c.stack.height).scopes := by
    intro hscopes
    simp only [ScopeStack.scopes_release_of_isPrefix hscopes, List.prefix_rfl]
  cases n with
  | module m =>
    rw [enter_module] at h
    exact { h with }
  | function r =>
    have hscopes := LeadsTo.scopes_of_enterRoutine .function r h
    exact { scopes := hrelease hscopes, function? := rfl, procedure? := rfl, inLoop := h.inLoop,
            inCondition := h.inCondition }
  | procedure r =>
    have hscopes := LeadsTo.scopes_of_enterRoutine .procedure r h
    exact { scopes := hrelease hscopes, function? := rfl, procedure? := rfl, inLoop := h.inLoop,
            inCondition := h.inCondition }
  | ifStatement =>
    exact { h with inCondition := rfl }
  | whileLoop =>
    exact { h with inLoop := rfl }
  | forLoop =>
    exact { h with inLoop := rfl }
  | _ => exact h

/-- A scope that a hook enters hides none. -/
theorem leadsTo_push (name : String) (c : Context) : LeadsTo c (surroundings.push name c) :=
  { scopes := by
      show c.stack.scopes <+: (c.stack.enter name).scopes
      rw [ScopeStack.scopes_enter]
      exact List.prefix_append ..
    function? := rfl
    procedure? := rfl
    inLoop := rfl
    inCondition := rfl }

/-- No walk loses a scope of its start. -/
theorem keeps_leadsTo : Keeps surroundings (fun _ => True) LeadsTo :=
  { refl := LeadsTo.refl
    trans := LeadsTo.trans
    push := leadsTo_push
    leave := fun _ _ _ _ h => h.leave }

/-- Below a module the name stays. -/
theorem keeps_moduleName :
    Keeps surroundings (fun n => n.kind ≠ .module) (fun a b => b.moduleName = a.moduleName) :=
  { refl := fun _ => rfl
    trans := fun hab hbc => hbc.trans hab
    push := fun _ _ => rfl
    leave := fun n hn c after h =>
      (moduleName_leave n c after).trans (h.trans (moduleName_enter hn c)) }

end Context

/-! ## Walks of outlines -/

section Walk

open Context

variable {σ : Type} (hook : Hook Context σ)

mutual

/-- The stack is as high after a walk as before, if the hook enters no scopes where the stack is as high as
at the start. -/
theorem height_walkOutline {base : Nat} : ∀ (o : Outline) (c : Context) (s : σ),
    c.stack.height = base →
    (∀ v ∈ visits surroundings hook o c s, v.surroundings.stack.height = base → v.entered = []) →
    (walkOutline surroundings hook o c s).surroundings.stack.height = base
  | .node n children, c, s => by
    intro hbase hentered
    cases hn : n.isRoutine with
    | true =>
      -- leaving a routine is enough, whatever happened inside
      have hinside := keeps_leadsTo.inside hook n children (enter n c) s fun _ _ => trivial
      exact (hinside.height_leave hn).trans hbase
    | false =>
      have hheight : (enter n c).stack.height = base := by
        rw [stack_enter hn]
        exact hbase
      unfold visits at hentered
      rw [logOf_node] at hentered
      have hnone : (hook n (enter n c) s).entered = [] :=
        hentered _ (List.mem_cons_self ..) hheight
      have hvisit : visit surroundings hook n (enter n c) s
          = { surroundings := enter n c
              state := (hook n (enter n c) s).state
              panic := (hook n (enter n c) s).panic } := by
        simp only [visit, hnone, List.foldl_nil]
      show (leave n c ((visit surroundings hook n (enter n c) s).andThen
        (walkOutlines surroundings hook children)).surroundings).stack.height = base
      rw [stack_leave hn, hvisit]
      unfold Progress.andThen
      cases hpanic : (hook n (enter n c) s).panic with
      | some cause => exact hheight
      | none =>
        refine height_walkOutlines children _ _ hheight fun v hv => hentered v ?_
        apply List.mem_cons_of_mem
        show v ∈ match (hook n (enter n c) s).panic with
          | some _ => []
          | none => logOfAll surroundings (visitOf hook) hook children
              (visit surroundings hook n (enter n c) s).surroundings
              (visit surroundings hook n (enter n c) s).state
        rw [hvisit, hpanic]
        exact hv

/-- The stack is as high after a walk of trees side by side as before, under the same condition. -/
theorem height_walkOutlines {base : Nat} : ∀ (os : List Outline) (c : Context) (s : σ),
    c.stack.height = base →
    (∀ v ∈ logOfAll surroundings (visitOf hook) hook os c s,
      v.surroundings.stack.height = base → v.entered = []) →
    (walkOutlines surroundings hook os c s).surroundings.stack.height = base
  | [], c, s => fun hbase _ => hbase
  | o :: rest, c, s => by
    intro hbase hentered
    rw [logOfAll_cons] at hentered
    have hfirst := height_walkOutline o c s hbase
      fun v hv => hentered v (List.mem_append_left _ hv)
    unfold walkOutlines Progress.andThen
    cases hpanic : (walkOutline surroundings hook o c s).panic with
    | some cause => exact hfirst
    | none =>
      rw [hpanic] at hentered
      exact height_walkOutlines rest _ _ hfirst fun v hv => hentered v (List.mem_append_right _ hv)

end

end Walk

/-! ## Series of walks -/

/-- What a walk starts from. -/
inductive Root where
  | module (m : Module)
  | function (r : Routine)
  | procedure (r : Routine)

namespace Root

def outline : Root → Outline
  | .module m => m.outline
  | .function r => r.functionOutline
  | .procedure r => r.procedureOutline

/-- The node at the top. -/
def node (root : Root) : Node := root.outline.root

/-- The name of the module during a walk: if it is not known before, it is that of the walked module. -/
def moduleNameAfter (name : String) : Root → String
  | .module m => if name = "" then m.name else name
  | _ => name

end Root

section Series

variable {σ : Type}

/-- A walk that keeps the context of each node. -/
def walkRoot (hook : Hook Context σ) (root : Root) (c : Context) (s : σ) : Progress Context σ :=
  walk Context.surroundings hook (some root.outline) c s

/-- The hook enters scopes inside of routines only. There the stack is higher than at the start of the
walk, since the routine has a scope of its own. -/
def EntersInside (hook : Hook Context σ) (root : Root) (c : Context) (s : σ) : Prop :=
  ∀ v ∈ visits Context.surroundings hook root.outline c s,
    v.surroundings.stack.height = c.stack.height → v.entered = []

/-- What holds of a walk on which the hook may panic at any visit. -/
structure Restores (hook : Hook Context σ) (root : Root) (c : Context) (s : σ) : Prop where
  samePlace : c.SamePlace (walkRoot hook root c s).surroundings
  moduleName : (walkRoot hook root c s).surroundings.moduleName = root.moduleNameAfter c.moduleName
  -- without panics the hook would be shown the whole tree, and what it is shown is the beginning of that
  free : (freeVisits Context.surroundings hook root.outline c s).map Visit.node = root.outline.nodes
  received : visits Context.surroundings hook root.outline c s
    <+: freeVisits Context.surroundings hook root.outline c s
  succeeds_iff : (walkRoot hook root c s).failure root.node = none
    ↔ ∀ v ∈ visits Context.surroundings hook root.outline c s, v.panic = none
  received_all : (walkRoot hook root c s).failure root.node = none →
    visits Context.surroundings hook root.outline c s
      = freeVisits Context.surroundings hook root.outline c s
  fails : ∀ e, (walkRoot hook root c s).failure root.node = some e →
    e.kind = root.node.kind ∧ e.line = root.node.line
      ∧ (∃ before last, visits Context.surroundings hook root.outline c s = before ++ [last]
          ∧ (∀ v ∈ before, v.panic = none) ∧ last.panic = some e.cause)
      ∧ .panicked ∈ e.wrapped ∧ ∀ text, e.cause = .error text → .raised text ∈ e.wrapped

/-- A property of every walk of a series with one hook and one context. -/
def EachWalk (hook : Hook Context σ) (P : Root → Context → σ → Prop) :
    List Root → Context → σ → Prop
  | [], _, _ => True
  | root :: rest, c, s =>
    P root c s
      ∧ EachWalk hook P rest (walkRoot hook root c s).surroundings (walkRoot hook root c s).state

/-- The context after a series of walks. -/
def contextAfter (hook : Hook Context σ) : List Root → Context → σ → Context
  | [], c, _ => c
  | root :: rest, c, s =>
    contextAfter hook rest (walkRoot hook root c s).surroundings (walkRoot hook root c s).state

variable {hook : Hook Context σ}

/-- The name after a walk is that of the root, if it gives one and none was known. -/
theorem moduleName_walkRoot (root : Root) (c : Context) (s : σ) :
    (walkRoot hook root c s).surroundings.moduleName = root.moduleNameAfter c.moduleName := by
  have hroutine : ∀ (head : Node) (r : Routine), head.kind ≠ .module →
      (walkOutline Context.surroundings hook (.node head r.children) c s).surroundings.moduleName
        = c.moduleName := fun head r hhead =>
    Context.keeps_moduleName.walkOutline hook (.node head r.children) c s
      fun n hn => kind_ne_module_of_mem_routine hhead hn
  cases root with
  | function r => exact hroutine (.function r) r Kind.noConfusion
  | procedure r => exact hroutine (.procedure r) r Kind.noConfusion
  | module m =>
    obtain ⟨below, houtline, hbelow⟩ := m.exists_outline_eq
    have hinside := Context.keeps_moduleName.inside hook (.module m) below
      (Context.enter (.module m) c) s hbelow
    show (walkOutline Context.surroundings hook m.outline c s).surroundings.moduleName = _
    rw [houtline]
    exact (Context.moduleName_leave ..).trans
      (hinside.trans (congrArg Context.moduleName (Context.enter_module m c)))

/-- What a panic is reported with says that there was one, and holds the error if it was one. -/
theorem mem_wrapped (p : Panic) :
    .panicked ∈ p.wrapped ∧ ∀ text, p = .error text → .raised text ∈ p.wrapped := by
  cases p with
  | value text => simp [Panic.wrapped]
  | error text => simp [Panic.wrapped]

/-- A walk of a hook that enters scopes inside of routines only restores the context. -/
theorem restores_of_entersInside {root : Root} {c : Context} {s : σ}
    (h : EntersInside hook root c s) : Restores hook root c s := by
  have hleads := Context.keeps_leadsTo.walkOutline hook root.outline c s fun _ _ => trivial
  have hheight := height_walkOutline hook root.outline c s rfl h
  have hfailure : (walkRoot hook root c s).failure root.node
      = (walkOutline Context.surroundings hook root.outline c s).panic.map fun cause =>
          { kind := root.node.kind, line := root.node.line, cause := cause } := rfl
  have hnone : (walkRoot hook root c s).failure root.node = none
      ↔ (walkOutline Context.surroundings hook root.outline c s).panic = none := by
    rw [hfailure, Option.map_eq_none_iff]
  have hcut := cut_walkOutline Context.surroundings hook root.outline c s
  refine
    { samePlace := hleads.samePlace hheight
      moduleName := moduleName_walkRoot root c s
      free := map_node_freeVisits Context.surroundings hook root.outline c s
      received := ?_, succeeds_iff := ?_, received_all := ?_, fails := ?_ }
  · cases hcut with
    | whole _ _ hall _ => exact hall ▸ List.prefix_rfl
    | stopped _ _ _ more _ _ _ _ hall => exact ⟨more, hall.symm⟩
  · rw [hnone]
    cases hcut with
    | whole hpanic _ _ hcalm => exact iff_of_true hpanic hcalm
    | stopped cause before last _ hpanic hlast _ hreceived _ =>
      have hlastmem : last ∈ visits Context.surroundings hook root.outline c s := by
        rw [hreceived]
        simp
      rw [hpanic]
      refine iff_of_false (by simp) fun hall => ?_
      rw [hall last hlastmem] at hlast
      cases hlast
  · rw [hnone]
    intro hok
    cases hcut with
    | whole _ _ hall _ => exact hall.symm
    | stopped _ _ _ _ hpanic _ _ _ _ =>
      rw [hpanic] at hok
      cases hok
  · intro e he
    rw [hfailure, Option.map_eq_some_iff] at he
    obtain ⟨cause, hpanic, rfl⟩ := he
    cases hcut with
    | whole hok _ _ _ =>
      rw [hok] at hpanic
      cases hpanic
    | stopped cause' before last _ hpanic' hlast hbefore hreceived _ =>
      obtain rfl : cause' = cause := Option.some.inj (hpanic'.symm.trans hpanic)
      exact ⟨rfl, rfl, ⟨before, last, hreceived, hbefore, hlast⟩, mem_wrapped cause'⟩

/-- Every walk of a series brings its context back, whatever panics there are, and so does the whole
series. -/
theorem each_walk_restores (roots : List Root) (c : Context) (s : σ)
    (h : EachWalk hook (EntersInside hook) roots c s) :
    EachWalk hook (Restores hook) roots c s
      ∧ c.SamePlace (contextAfter hook roots c s)
      ∧ (contextAfter hook roots c s).moduleName
        = roots.foldl (fun name root => root.moduleNameAfter name) c.moduleName := by
  induction roots generalizing c s with
  | nil => exact ⟨trivial, ⟨rfl, rfl, rfl, rfl, rfl⟩, rfl⟩
  | cons root rest ih =>
    obtain ⟨hfirst, hrest⟩ := h
    have hone := restores_of_entersInside hfirst
    obtain ⟨heach, hplace, hname⟩ := ih _ _ hrest
    refine ⟨⟨hone, heach⟩, ?_, ?_⟩
    · exact
        { scopes := hplace.scopes.trans hone.samePlace.scopes
          function? := hplace.function?.trans hone.samePlace.function?
          procedure? := hplace.procedure?.trans hone.samePlace.procedure?
          inLoop := hplace.inLoop.trans hone.samePlace.inLoop
          inCondition := hplace.inCondition.trans hone.samePlace.inCondition }
    · rw [List.foldl_cons, ← hone.moduleName]
      exact hname

/-- Counts its visits, enters a scope at each loop and panics at the fifth visit. -/
def stumbling : Hook Context Nat := fun n _ visited =>
  { state := visited + 1
    entered := if n.kind = .whileLoop then ["loop"] else []
    panic := if visited = 4 then some (.error "out of breath") else none }

/-- A function with a loop. -/
def repeating : Routine :=
  let total : Reference := { span := none, name := "total" }
  { span := none, name := "Repeating", exported := false, parameters := [none]
    body := [.loopWhile none (.reference total)
      [.assign { span := none, target := some total, value := .hole }, .hole]] }

def repeatingModule : Module :=
  { Module.empty "Sums" with
    declarations := [some { span := none, name := "total", exported := false }, none]
    functions := [some repeating] }

/-- The walk of the module is stopped below the loop, whose scope is still entered then. The walk of the
function comes to its end. -/
theorem each_walk_restores_stumbling :
    ((walkRoot stumbling (.module repeatingModule) (.ofModule "") 0).failure
        (.module repeatingModule)
      = some { kind := .module, line := 0, cause := .error "out of breath" })
    ∧ (visits Context.surroundings stumbling repeatingModule.outline (.ofModule "") 0).map
        (fun v => (v.node.kind, v.surroundings.stack.scopes, v.surroundings.inLoop))
      = [(.module, ["global"], false), (.declaration, ["global"], false),
          (.function, ["global", "func:Repeating"], false),
          (.whileLoop, ["global", "func:Repeating"], true),
          (.reference, ["global", "func:Repeating", "loop"], true)]
    ∧ EachWalk stumbling (EntersInside stumbling)
        [.module repeatingModule, .function repeating] (.ofModule "") 0
    ∧ EachWalk stumbling (Restores stumbling)
        [.module repeatingModule, .function repeating] (.ofModule "") 0 := by
  have henters : EachWalk stumbling (EntersInside stumbling)
      [.module repeatingModule, .function repeating] (.ofModule "") 0 := by
    refine ⟨?_, ?_, trivial⟩
    · unfold EntersInside
      decide
    · unfold EntersInside
      decide
  exact ⟨by decide, by decide, henters, (each_walk_restores _ _ _ henters).1⟩

end Series

end ModuleLint
