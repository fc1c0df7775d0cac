import Mathlib.Data.List.Forall2
import ModuleLint.Proofs.Walk.Isolation
import ModuleLint.Proofs.Walk.Restoration

/-!
# What is seen from the same place

A walk puts the place back that it found. Contexts at the same place may differ in the name of the module and in the
cells of the stack above its height, which no hook can tell. So walks that start at the same place see the same nodes
from the same places (`forall₂_sightings`).
-/

set_option autoImplicit false

namespace ModuleLint

open Context

/-! ## Contexts at the same place -/

namespace Context

/-- To be at the same place is symmetric. -/
theorem SamePlace.symm {c d : Context} (h : SamePlace c d) : SamePlace d c :=
  { scopes := h.scopes.symm
    function? := h.function?.symm
    procedure? := h.procedure?.symm
    inLoop := h.inLoop.symm
    inCondition := h.inCondition.symm }

/-- To be at the same place is transitive. -/
theorem SamePlace.trans {a b c : Context} (hab : SamePlace a b) (hbc : SamePlace b c) : SamePlace a c :=
  { scopes := hbc.scopes.trans hab.scopes
    function? := hbc.function?.trans hab.function?
    procedure? := hbc.procedure?.trans hab.procedure?
    inLoop := hbc.inLoop.trans hab.inLoop
    inCondition := hbc.inCondition.trans hab.inCondition }

/-- A routine leads to the same place from the same place. -/
theorem SamePlace.enterRoutine {c d : Context} (h : SamePlace c d) (kind : RoutineKind) (r : Routine) :
    SamePlace (c.enterRoutine kind r) (d.enterRoutine kind r) := by
  have hscopes : (d.enterRoutine kind r).stack.scopes = (c.enterRoutine kind r).stack.scopes := by
    rw [stack_enterRoutine, stack_enterRoutine, ScopeStack.scopes_enter, ScopeStack.scopes_enter, h.scopes]
  cases kind with
  | function => exact { h with scopes := hscopes, function? := rfl, procedure? := rfl }
  | procedure => exact { h with scopes := hscopes, function? := rfl, procedure? := rfl }

/-- Entering a node leads to the same place from the same place. -/
theorem SamePlace.enter {c d : Context} (h : SamePlace c d) (n : Node) :
    SamePlace (Context.enter n c) (Context.enter n d) := by
  cases n with
  | module m =>
    rw [enter_module, enter_module]
    exact { h with }
  | function r => exact h.enterRoutine .function r
  | procedure r => exact h.enterRoutine .procedure r
  | ifStatement => exact { h with inCondition := rfl }
  | whileLoop => exact { h with inLoop := rfl }
  | forLoop => exact { h with inLoop := rfl }
  | _ => exact h

/-- The same scopes are written in the same way. -/
theorem SamePlace.scope_eq {c d : Context} (h : SamePlace c d) : d.scope = c.scope := by
  unfold scope ScopeStack.text
  rw [h.scopes]

/-- The same routine is named in the same way. -/
theorem SamePlace.routineName_eq {c d : Context} (h : SamePlace c d) : d.routineName = c.routineName := by
  unfold routineName
  rw [h.routine]

end Context

/-! ## What is seen from the same place -/

/-- A quiet hook enters no scope on any visit. -/
theorem Quiet.map_entered_visits {γ σ : Type} {sur : Surroundings γ} {hook : Hook γ σ} (hquiet : Quiet hook)
    (o : Outline) (g : γ) (s : σ) :
    (visits sur hook o g s).map Visit.entered = (sightings sur o g).map fun _ => [] := by
  have hentered : (fun (s : σ) (x : Node × γ) => (visitOf hook x.1 x.2 s).entered) = fun _ _ => [] := by
    funext s x
    exact hquiet.entered_eq_nil x.1 x.2 s
  have hlogged := foldl_logged (fun s (x : Node × γ) => (hook x.1 x.2 s).state)
    (fun s x => visitOf hook x.1 x.2 s) (sightings sur o g) s []
  have hvisits : visits sur hook o g s = [] ++ trail _ _ (sightings sur o g) s :=
    (logOf_quiet sur hquiet _ o g s).trans (congrArg Prod.snd hlogged)
  rw [hvisits, List.nil_append, map_trail, hentered, trail_of_stateless]

/-- A hook that enters no scopes leaves the context at its place. -/
theorem Quiet.samePlace_walkOutline {σ : Type} {hook : Hook Context σ} (hquiet : Quiet hook) (o : Outline)
    (c : Context) (s : σ) : SamePlace c (walkOutline surroundings hook o c s).surroundings := by
  have hleads := keeps_leadsTo.walkOutline hook o c s fun _ _ => trivial
  apply hleads.samePlace
  refine height_walkOutline hook o c s rfl fun v hv _ => ?_
  have hv := List.mem_map_of_mem (f := Visit.entered) hv
  rw [hquiet.map_entered_visits] at hv
  exact (List.mem_map.mp hv).elim fun _ h => h.2.symm

/-- The same node is seen from the same place. -/
def SameSight (x y : Node × Context) : Prop := y.1 = x.1 ∧ SamePlace x.2 y.2

mutual

/-- From the same place the same nodes are seen, each from the same place. -/
theorem forall₂_sightings : ∀ (o : Outline) {c d : Context}, SamePlace c d →
    List.Forall₂ SameSight (sightings surroundings o c) (sightings surroundings o d)
  | .node n children, c, d => by
    intro h
    rw [sightings_node, sightings_node]
    exact .cons ⟨rfl, h.enter n⟩ (forall₂_sightingsOfAll children (h.enter n))

/-- From the same place the same nodes of trees side by side are seen, each from the same place. -/
theorem forall₂_sightingsOfAll : ∀ (os : List Outline) {c d : Context}, SamePlace c d →
    List.Forall₂ SameSight (sightingsOfAll surroundings os c) (sightingsOfAll surroundings os d)
  | [], c, d => fun _ => .nil
  | o :: rest, c, d => by
    intro h
    -- the walk of the first outline comes back to where it began, from either context
    have hc := quiet_idleHook.samePlace_walkOutline o c ()
    have hd := quiet_idleHook.samePlace_walkOutline o d ()
    rw [sightingsOfAll_cons, sightingsOfAll_cons]
    exact List.rel_append (forall₂_sightings o h)
      (forall₂_sightingsOfAll rest ((hc.symm.trans h).trans hd))

end

end ModuleLint
