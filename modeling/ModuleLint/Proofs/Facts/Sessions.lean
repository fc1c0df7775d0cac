import Mathlib.Data.List.Forall2
import ModuleLint.Facts.Variables
import ModuleLint.Proofs.Facts.NodeLookups
import ModuleLint.Proofs.Walk.Isolation
import ModuleLint.Proofs.Walk.SamePlace

/-!
# Walking one module after another

The facts about routines, about variables and about data flow may be gathered on many walks, with one
context and one set of collectors for all of them. Nothing of a module is left when the next one has been
walked (`collectors_start_afresh`).

There are two things that could be left. One is the context. A walk puts the place back that it found, so
later walks start at the same place as the first one, and what is seen from the same place is the same
(`forall₂_sightings`), up to the name of the module and to the cells of the stack above its height. The
other one is the state of the collectors, which start afresh at the node of a module
(`state_walkNext_of_samePlace`), their indices by nodes included (`Collectors.Indexed`).
-/

set_option autoImplicit false

namespace ModuleLint

open Context

/-! ## What the collectors make of a node -/

/-- From the same place the facts of the same routine are changed. -/
theorem RoutineFacts.updateCurrent_of_samePlace {c d : Context} (h : SamePlace c d) (facts : RoutineFacts)
    (f : RoutineFact → RoutineFact) : facts.updateCurrent d f = facts.updateCurrent c f := by
  unfold updateCurrent currentPlace?
  rw [h.routine]

/-- From the same place a call is one of the same routine. -/
theorem RoutineFacts.addCall_of_samePlace {c d : Context} (h : SamePlace c d) (facts : RoutineFacts)
    (callee : String) : facts.addCall d callee = facts.addCall c callee := by
  unfold addCall current? currentPlace?
  simp only [h.routine, updateCurrent_of_samePlace h]

/-- The facts about routines that a node adds depend on its place only. -/
theorem RoutineFacts.observe_of_samePlace {c d : Context} (h : SamePlace c d) (n : Node)
    (facts : RoutineFacts) : observe n d facts = observe n c facts := by
  cases n with
  | parameter p => exact facts.updateCurrent_of_samePlace h _
  | returnStatement span value => exact facts.updateCurrent_of_samePlace h _
  | call call => exact facts.addCall_of_samePlace h call.name
  | _ => rfl

/-- A mention depends on its place only, and not on the name of the module. -/
theorem Mention.inContext_of_samePlace {c d : Context} (h : SamePlace c d) (name : String)
    (kind : MentionKind) (span : Span) (exported : Bool) :
    inContext d name kind span exported = inContext c name kind span exported := by
  unfold inContext
  rw [h.scope_eq, h.routineName_eq]

/-- The mentions that a node adds depend on its place only. -/
theorem Mentions.observe_of_samePlace {c d : Context} (h : SamePlace c d) (n : Node)
    (mentions : List Mention) : observe n d mentions = observe n c mentions := by
  cases n <;> simp only [observe, Mention.ofNode?, Mention.inContext_of_samePlace h]

/-- The state of the collectors that share the walks. -/
structure Collectors where
  routines : RoutineFacts
  mentions : List Mention
  flow : Flow.Findings

namespace Collectors

/-- Nothing has been gathered. -/
def fresh : Collectors :=
  { routines := RoutineFacts.empty, mentions := [], flow := Flow.Findings.empty }

/-- The collectors in the order in which they see a node. -/
def constituents (budget : Nat) : List (Constituent Context Collectors) :=
  [ { typeName := "routine facts"
      hook := fun n c s => (RoutineFacts.hook n c s.routines).map fun x => { s with routines := x } },
    { typeName := "mentions"
      hook := fun n c s => (Mentions.hook n c s.mentions).map fun x => { s with mentions := x } },
    { typeName := "data flow"
      hook := fun n c s => (Flow.Findings.hook budget n c s.flow).map fun x => { s with flow := x } } ]

/-- The failures of the routines whose budget was used up, as one text. -/
def flowFailure? (s : Collectors) : Option String :=
  joinFailures (s.flow.errors.map Flow.BudgetError.message)

/-- What a node adds to all collectors. -/
def observe (budget : Nat) (n : Node) (c : Context) (s : Collectors) : Collectors :=
  { routines := RoutineFacts.observe n c s.routines
    mentions := Mentions.observe n c s.mentions
    flow := Flow.Findings.observe budget n s.flow }

/-- On a node all collectors are served, and none of them fails. -/
theorem hook_constituents (budget : Nat) (n : Node) (c : Context) (s : FanState Collectors) :
    FanOut.hook (constituents budget) n c s
      = { state := { state := s.state.observe budget n c, errors := s.errors } } := by
  change ({ state := { state := s.state.observe budget n c, errors := s.errors ++ [] ++ [] ++ [] } } :
    Reaction (FanState Collectors)) = _
  simp only [List.append_nil]

/-- The collectors neither fail nor enter scopes. -/
theorem quiet_constituents (budget : Nat) : Quiet (FanOut.hook (constituents budget)) :=
  { panic_eq_none := fun _ _ _ => rfl, entered_eq_nil := fun _ _ _ => rfl }

/-- What the collectors make of a node depends on its place only. -/
theorem observe_of_samePlace {c d : Context} (h : SamePlace c d) (budget : Nat) (n : Node)
    (s : Collectors) : s.observe budget n d = s.observe budget n c := by
  unfold observe
  rw [RoutineFacts.observe_of_samePlace h, Mentions.observe_of_samePlace h]

/-- The collectors start afresh at the node of a module. -/
theorem observe_module (budget : Nat) (m : Module) (c d : Context) (s t : Collectors) :
    s.observe budget (.module m) c = t.observe budget (.module m) d := rfl

/-- Both indices by nodes tell the last entries of the lists beside them. -/
structure Indexed (s : Collectors) : Prop where
  routines : s.routines.Indexed
  flow : s.flow.Indexed

/-- What is seen on walks does not break the indices. -/
theorem Indexed.foldl_observe {s : Collectors} (h : Indexed s) (budget : Nat) (xs : List (Node × Context)) :
    Indexed (xs.foldl (fun s x => s.observe budget x.1 x.2) s) := by
  induction xs generalizing s with
  | nil => exact h
  | cons x rest ih => exact ih ⟨h.routines.observe x.1 x.2, h.flow.observe budget x.1⟩

end Collectors

/-! ## Sessions -/

/-- One more walk with the context and the collectors of those before. -/
def Collectors.walkNext (budget : Nat) (p : Progress Context (FanState Collectors)) (m : Option Module) :
    Progress Context (FanState Collectors) :=
  walk surroundings (FanOut.hook (constituents budget)) (m.map (·.outline)) p.surroundings p.state

/-- Modules walked one after another, starting with fresh collectors. -/
def session (budget : Nat) (name : String) (modules : List (Option Module)) :
    Progress Context (FanState Collectors) :=
  modules.foldl (Collectors.walkNext budget)
    (Progress.idle (Context.ofModule name) { state := Collectors.fresh, errors := [] })

/-- What the collectors have gathered after these walks. -/
def collected (budget : Nat) (name : String) (modules : List (Option Module)) : Collectors :=
  (session budget name modules).state.state

namespace Collectors

/-- Sights of the same nodes from the same places add the same. -/
theorem foldl_observe_of_sameSight (budget : Nat) {xs ys : List (Node × Context)}
    (h : List.Forall₂ SameSight xs ys) (s : Collectors) :
    ys.foldl (fun s x => s.observe budget x.1 x.2) s = xs.foldl (fun s x => s.observe budget x.1 x.2) s := by
  induction h generalizing s with
  | nil => rfl
  | cons hxy _ ih =>
    rw [List.foldl_cons, List.foldl_cons, hxy.1, observe_of_samePlace hxy.2, ih]

/-- A walk goes where it would go without collectors, and these gather what is seen. -/
theorem walkOutline_eq (budget : Nat) (o : Outline) (c : Context) (s : FanState Collectors) :
    walkOutline surroundings (FanOut.hook (constituents budget)) o c s
      = { surroundings := (walkOutline surroundings idleHook o c ()).surroundings
          state := { state := (sightings surroundings o c).foldl (fun s x => s.observe budget x.1 x.2) s.state
                     errors := s.errors }
          panic := none } := by
  have hfold : ∀ (xs : List (Node × Context)) (s : FanState Collectors),
      xs.foldl (fun s x => (FanOut.hook (constituents budget) x.1 x.2 s).state) s
        = { state := xs.foldl (fun s x => s.observe budget x.1 x.2) s.state, errors := s.errors } := by
    intro xs
    induction xs with
    | nil => exact fun s => rfl
    | cons x rest ih =>
      intro s
      rw [List.foldl_cons, ih, hook_constituents, List.foldl_cons]
  rw [walkOutline_quiet surroundings (quiet_constituents budget), hfold]

/-- From the same place a walk of a module gathers the same, whatever has been gathered before. -/
theorem state_walkNext_of_samePlace (budget : Nat) {p q : Progress Context (FanState Collectors)}
    (h : SamePlace p.surroundings q.surroundings) (m : Module) :
    (walkNext budget q (some m)).state.state = (walkNext budget p (some m)).state.state := by
  obtain ⟨below, houtline, -⟩ := m.exists_outline_eq
  have hbelow := forall₂_sightingsOfAll below (h.enter (.module m))
  simp only [walkNext, Option.map_some, walk, walkOutline_eq, houtline, sightings_node, List.foldl_cons]
  rw [observe_module budget m _ (surroundings.enter (.module m) p.surroundings) _ p.state.state]
  exact foldl_observe_of_sameSight budget hbelow _

/-- The data flow of a walk is that of the module. -/
theorem flow_walkNext (budget : Nat) (p : Progress Context (FanState Collectors)) (m : Module) :
    (walkNext budget p (some m)).state.state.flow = Flow.analyze budget m := by
  have hobserves : Observes (FanOut.hook (constituents budget)) (fun s => s.state.flow)
      (Flow.Findings.observe budget) :=
    { panic_eq_none := fun _ _ _ => rfl, view_state := fun _ _ _ => rfl }
  have hwalk := (walkOutline_observes surroundings hobserves m.outline p.surroundings p.state).2
  rw [Flow.foldl_observe_module] at hwalk
  exact hwalk

/-- The facts about routines after a walk are those about the routines of the module. -/
theorem notes_walkNext (budget : Nat) (p : Progress Context (FanState Collectors)) (m : Module) :
    RoutineFacts.Notes m.routines (walkNext budget p (some m)).state.state.routines := by
  have hroutines : ∀ (xs : List (Node × Context)) (s : Collectors),
      (xs.foldl (fun s x => s.observe budget x.1 x.2) s).routines
        = xs.foldl (fun facts x => RoutineFacts.observe x.1 x.2 facts) s.routines := by
    intro xs
    induction xs with
    | nil => exact fun _ => rfl
    | cons x rest ih => exact fun s => ih _
  simp only [walkNext, Option.map_some, walk, walkOutline_eq, hroutines]
  exact RoutineFacts.notes_foldl_observe m _ _

/-- The walks so far have come back to the level of modules, none of them has failed, and the indices are in step. -/
structure Settled (p : Progress Context (FanState Collectors)) : Prop where
  samePlace : SamePlace (Context.ofModule "") p.surroundings
  panic_eq_none : p.panic = none
  errors_eq_nil : p.state.errors = []
  indexed : Indexed p.state.state

/-- One more walk, of a module or of none, leaves the session settled. -/
theorem Settled.walkNext {budget : Nat} {p : Progress Context (FanState Collectors)} (h : Settled p)
    (m : Option Module) : Settled (Collectors.walkNext budget p m) := by
  cases m with
  | none =>
    exact { samePlace := h.samePlace
            panic_eq_none := rfl
            errors_eq_nil := h.errors_eq_nil
            indexed := h.indexed }
  | some m =>
    have hplace := (quiet_constituents budget).samePlace_walkOutline m.outline p.surroundings p.state
    have hwalk := walkOutline_eq budget m.outline p.surroundings p.state
    have hnext : Collectors.walkNext budget p (some m)
        = walkOutline surroundings (FanOut.hook (constituents budget)) m.outline p.surroundings p.state := rfl
    rw [hnext]
    exact { samePlace := h.samePlace.trans hplace
            panic_eq_none := by rw [hwalk]
            errors_eq_nil := by rw [hwalk]; exact h.errors_eq_nil
            indexed := by rw [hwalk]; exact h.indexed.foldl_observe budget _ }

/-- A session is settled after any number of walks. -/
theorem settled_session (budget : Nat) (name : String) (modules : List (Option Module)) :
    Settled (session budget name modules) := by
  have hrun : ∀ p, Settled p → Settled (modules.foldl (walkNext budget) p) := by
    induction modules with
    | nil => exact fun p hp => hp
    | cons m rest ih => exact fun p hp => ih _ (hp.walkNext m)
  apply hrun
  exact { samePlace := { scopes := rfl, function? := rfl, procedure? := rfl, inLoop := rfl, inCondition := rfl }
          panic_eq_none := rfl
          errors_eq_nil := rfl
          indexed := ⟨RoutineFacts.indexed_empty, Flow.Findings.indexed_empty⟩ }

/-- The last walk of a session starts where the others have come to. -/
theorem session_concat (budget : Nat) (name : String) (modules : List (Option Module)) (m : Option Module) :
    session budget name (modules ++ [m]) = walkNext budget (session budget name modules) m := by
  unfold session
  rw [List.foldl_append, List.foldl_cons, List.foldl_nil]

end Collectors

/-- For each sequence of modules, some of them missing, that is walked with one context and one set of
collectors: a missing module changes nothing, and after any other one the collectors are those of a
session with this module alone. The data flow is that of the module analysed directly. A routine whose
budget was used up is left out of the results and named once in the failure.

At any time a node leads to the last facts and to the last result that have it. After the walk of a
module these are about the routine of that module with the node, and a node of no routine of the module
leads nowhere, whatever routines other modules had. -/
theorem collectors_start_afresh (budget : Nat) (name other : String) (modules : List (Option Module)) :
    (session budget name modules).panic = none
      ∧ (session budget name modules).state.errors = []
      ∧ (∀ node, (collected budget name modules).routines.lookup? node
            = ((collected budget name modules).routines.routines.filter fun f => f.node == node).getLast?
          ∧ (collected budget name modules).flow.result? node
            = ((collected budget name modules).flow.results.filter fun x => x.node == node).getLast?)
      ∧ collected budget name (modules ++ [none]) = collected budget name modules
      ∧ ∀ m : Module,
        collected budget name (modules ++ [some m]) = collected budget other [some m]
          ∧ (collected budget name (modules ++ [some m])).flow = Flow.analyze budget m
          ∧ (Flow.analyze budget m).results = (Flow.outcomes budget m).filterMap Except.toOption
          ∧ (Flow.analyze budget m).errors = (Flow.outcomes budget m).filterMap Flow.failure?
          ∧ (collected budget name (modules ++ [some m])).flowFailure?
            = joinFailures (((Flow.outcomes budget m).filterMap Flow.failure?).map
                Flow.BudgetError.message)
          ∧ ∀ node, ((collected budget name (modules ++ [some m])).routines.lookup? node).map
                (fun f => (f.kind, f.declaration))
              = (m.routines.filter fun x => x.2.node x.1 == node).getLast?
            ∧ (collected budget name (modules ++ [some m])).flow.result? node
              = (((Flow.outcomes budget m).filterMap Except.toOption).filter fun x => x.node == node).getLast? := by
  have hsettled := Collectors.settled_session budget name modules
  refine ⟨hsettled.panic_eq_none, hsettled.errors_eq_nil, fun node => ?_, ?_, fun m => ?_⟩
  · exact ⟨hsettled.indexed.routines.lookup?_eq node, hsettled.indexed.flow node⟩
  · unfold collected
    rw [Collectors.session_concat]
    rfl
  · have hlast : collected budget name (modules ++ [some m])
        = (Collectors.walkNext budget (session budget name modules) (some m)).state.state := by
      unfold collected
      rw [Collectors.session_concat]
    have hflow : (collected budget name (modules ++ [some m])).flow = Flow.analyze budget m := by
      rw [hlast]
      exact Collectors.flow_walkNext budget _ m
    have hplace : SamePlace (Context.ofModule other) (session budget name modules).surroundings :=
      (Collectors.settled_session budget other []).samePlace.symm.trans hsettled.samePlace
    have hindexed := (Collectors.settled_session budget name (modules ++ [some m])).indexed
    refine ⟨?_, hflow, Flow.results_analyze_outcomes budget m, Flow.errors_analyze_outcomes budget m, ?_,
      fun node => ⟨?_, ?_⟩⟩
    · rw [hlast]
      exact Collectors.state_walkNext_of_samePlace budget hplace m
    · unfold Collectors.flowFailure?
      rw [hflow, Flow.errors_analyze_outcomes]
    · have hnotes : RoutineFacts.Notes m.routines (collected budget name (modules ++ [some m])).routines := by
        rw [hlast]
        exact Collectors.notes_walkNext budget _ m
      exact hnotes.lookup?_eq hindexed.routines node
    · rw [← Flow.results_analyze_outcomes, ← hflow]
      exact hindexed.flow node

end ModuleLint
