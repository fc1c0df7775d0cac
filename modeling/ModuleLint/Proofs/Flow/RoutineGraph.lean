import Mathlib.Data.List.Basic
import ModuleLint.Proofs.Flow.LoweringSteps

/-!
# The flow graph of a routine and its script

The events of the flow graph of a routine, taken block by block, are the script of the routine from
top to bottom, and its definitions are those of the script in the same order (`tells_finalBuilder`).
So a position in a block is a place of the script: the number of events in earlier blocks, plus the
number of events before it in its own block (`Graph.offset`).
-/

set_option autoImplicit false

namespace ModuleLint

open ModuleLint.Flow

/-! ## Declared names -/

/-- Reads declare nothing. -/
theorem any_declares_reads (rs : List Reference) (name : String) :
    (rs.map Effect.read).any (·.declares name) = false := by
  induction rs with
  | nil => rfl
  | cons r rest ih => rw [List.map_cons, List.any_cons, ih]; rfl

/-- Expressions declare nothing. -/
theorem any_declares_effects (e : Expr) (name : String) :
    e.effects.any (·.declares name) = false := by
  rw [e.effects_eq_map_reads]
  exact any_declares_reads e.reads name

/-- A target declares its variable only where it belongs to a declaration. -/
theorem any_declares_target (origin : Origin) (target : Option Reference) (name : String)
    (h : origin ≠ .declaration) :
    (effectsOfTarget origin target).any (·.declares name) = false := by
  cases target with
  | none => rfl
  | some r => cases origin <;> first | rfl | exact absurd rfl h

mutual

/-- The names that a statement declares are those its effects declare. -/
theorem Stmt.contains_locals (s : Stmt) (name : String) :
    s.locals.contains name = s.effects.any (·.declares name) := by
  match s with
  | .hole _ => rfl
  | .generic _ => rfl
  | .declare d =>
    simp only [Stmt.locals, Stmt.effects, List.contains_cons, List.contains_nil, List.any_cons,
      List.any_nil, Effect.declares, BEq.comm]
  | .assign a =>
    simp [Stmt.locals, Stmt.effects, any_declares_effects, any_declares_target,
      -List.any_eq_false]
  | .call c =>
    simp only [Stmt.effects, effectsOfExprs_eq_map_reads, any_declares_reads]
    rfl
  | .leave _ value =>
    simp only [Stmt.effects, any_declares_effects]
    rfl
  | .loopWhile _ condition body =>
    simp only [Stmt.locals, Stmt.effects, List.any_append, any_declares_effects, Bool.false_or]
    exact contains_localsOfStmts body name
  | .loopFor _ counter first last collection body =>
    simp only [Stmt.locals, Stmt.effects, List.any_append, any_declares_effects, Bool.false_or,
      any_declares_target .loopCounter counter name (by decide)]
    exact contains_localsOfStmts body name
  | .branch _ condition body alternatives otherwise =>
    simp only [Stmt.locals, Stmt.effects, List.any_append, any_declares_effects, Bool.false_or,
      List.contains_append]
    rw [contains_localsOfStmts body name, contains_localsOfAlternatives alternatives name,
      contains_localsOfStmts otherwise name, Bool.or_assoc]

/-- The names that statements declare are those their effects declare. -/
theorem contains_localsOfStmts (body : List Stmt) (name : String) :
    (localsOfStmts body).contains name = (effectsOfStmts body).any (·.declares name) := by
  match body with
  | [] => rfl
  | s :: rest =>
    simp only [localsOfStmts, effectsOfStmts, List.contains_append, List.any_append]
    rw [Stmt.contains_locals s name, contains_localsOfStmts rest name]

/-- The names that further conditions declare are those their effects declare. -/
theorem contains_localsOfAlternatives (alternatives : List Alternative) (name : String) :
    (localsOfAlternatives alternatives).contains name
      = (effectsOfAlternatives alternatives).any (·.declares name) := by
  match alternatives with
  | [] => rfl
  | .mk condition body :: rest =>
    simp only [localsOfAlternatives, effectsOfAlternatives, Alternative.locals,
      Alternative.effects, List.contains_append, List.any_append, any_declares_effects,
      Bool.false_or]
    rw [contains_localsOfStmts body name, contains_localsOfAlternatives rest name]

end

namespace Flow

/-! ## Numbering the definitions of a script -/

/-- Definitions are counted part by part. -/
theorem definitionCount_append (es fs : List Effect) :
    definitionCount (es ++ fs) = definitionCount es + definitionCount fs :=
  List.countP_append

/-- The events of a second part are numbered after the definitions of the first. -/
theorem eventsFrom_append (n : Nat) (es fs : List Effect) :
    eventsFrom n (es ++ fs) = eventsFrom n es ++ eventsFrom (n + definitionCount es) fs := by
  induction es generalizing n with
  | nil => rfl
  | cons e rest ih =>
    have hcount : definitionCount (e :: rest) = definitionCount [e] + definitionCount rest :=
      definitionCount_append [e] rest
    rw [List.cons_append, eventsFrom, ih, eventsFrom, hcount, Nat.add_assoc, List.cons_append]

/-- The event at a place of a script: the definitions before it give its number. -/
theorem getElem?_eventsFrom (n : Nat) (es : List Effect) (p : Nat) :
    (eventsFrom n es)[p]? = es[p]?.map fun e => e.event (n + definitionCount (es.take p)) := by
  induction es generalizing n p with
  | nil => rfl
  | cons e rest ih =>
    cases p with
    | zero => rfl
    | succ p =>
      have hcount : definitionCount (e :: rest.take p)
          = definitionCount [e] + definitionCount (rest.take p) :=
        definitionCount_append [e] (rest.take p)
      rw [eventsFrom, List.getElem?_cons_succ, List.getElem?_cons_succ, ih, List.take_succ_cons,
        hcount, Nat.add_assoc]

/-- Each effect has one event. -/
theorem length_eventsFrom (n : Nat) (es : List Effect) : (eventsFrom n es).length = es.length := by
  induction es generalizing n with
  | nil => rfl
  | cons e rest ih => simp [eventsFrom, ih]

/-- A definition apart from the block it stands in. -/
def Definition.unplaced (d : Definition) : Definition := { d with block := 0 }

/-- Each effect that defines adds one definition. -/
theorem length_flatMap_definition (names : Names) (block : Nat) (es : List Effect) :
    (es.flatMap (Effect.definition names block)).length = definitionCount es := by
  induction es with
  | nil => rfl
  | cons e rest ih =>
    have hcount : definitionCount (e :: rest) = definitionCount [e] + definitionCount rest :=
      definitionCount_append [e] rest
    rw [List.flatMap_cons, List.length_append, ih, hcount]
    cases e <;> rfl

namespace Builder

variable {names : Names}

/-- The graph tells a script: its events, block by block, are those of the script, and so are its
definitions. -/
structure Tells (names : Names) (b : Builder) (script : List Effect) : Prop where
  events : (List.range b.size).flatMap b.graph.events = eventsFrom 0 script
  definitions : b.graph.definitions.map Definition.unplaced
    = script.flatMap (Effect.definition names 0)

/-- The definitions of the graph are as many as those of the script. -/
theorem Tells.length_definitions {b : Builder} {script : List Effect}
    (h : Tells names b script) : b.graph.definitions.length = definitionCount script := by
  rw [← length_flatMap_definition names 0, ← h.definitions, List.length_map]

/-- Before lowering begins the graph tells nothing. -/
theorem tells_start : Tells names start [] := ⟨rfl, rfl⟩

/-- One more event in the last block that has any is one more event in all. -/
theorem flatMap_range_append {α : Type} (f : Nat → List α) (x : α) {c n : Nat} (hc : c < n)
    (hlater : ∀ i, c < i → f i = []) :
    (List.range n).flatMap (fun i => if i = c then f i ++ [x] else f i)
      = (List.range n).flatMap f ++ [x] := by
  induction n with
  | zero => omega
  | succ n ih =>
    rw [List.range_succ, List.flatMap_append, List.flatMap_append]
    by_cases hn : c = n
    · subst hn
      have hsame : (List.range c).flatMap (fun i => if i = c then f i ++ [x] else f i)
          = (List.range c).flatMap f := by
        apply List.flatMap_congr
        intro i hi
        rw [if_neg (Nat.ne_of_lt (List.mem_range.mp hi))]
      simp [hsame]
    · rw [ih (by omega)]
      simp [Ne.symm hn, hlater n (by omega)]

/-- A graph that performs one more effect tells one more. -/
theorem Tells.perform {b : Builder} {script : List Effect} (h : Tells names b script)
    (hb : b.WellFormed) (e : Effect) : Tells names (b.perform names e) (script ++ [e]) where
  events := by
    have hevents : (b.perform names e).graph.events = fun i =>
        if i = b.current then b.graph.events i ++ [e.event b.graph.definitions.length]
        else b.graph.events i := by
      funext i
      exact events_perform b e i hb.current_lt
    rw [hevents, size_perform, flatMap_range_append _ _ hb.current_lt hb.events_later, h.events,
      h.length_definitions, eventsFrom_append, Nat.zero_add]
    rfl
  definitions := by
    rw [definitions_perform, List.map_append, h.definitions, List.flatMap_append]
    cases e <;> rfl

/-- Steps tell the effects that they perform. -/
theorem Steps.tells {inner : Nat → Prop} {b b' : Builder} {es script : List Effect}
    (h : Steps names inner b es b') (hb : b.WellFormed) (hs : Tells names b script) :
    Tells names b' (script ++ es) := by
  induction h with
  | refl => simpa using hs
  | effect e h ih =>
    rw [← List.append_assoc]
    exact ih.perform (h.wellFormed hb) e
  | edge _ _ _ _ _ ih =>
    refine ⟨?_, ih.definitions⟩
    rw [size_addEdge, ← ih.events]
    exact List.flatMap_congr fun i _ => events_addEdge _ _ _ i
  | @block b₁ _ kind h ih =>
    refine ⟨?_, ih.definitions⟩
    have hnew : (b₁.startBlock kind).graph.events = b₁.graph.events :=
      funext (events_startBlock b₁ kind)
    rw [size_startBlock, hnew, List.range_succ, List.flatMap_append, ih.events,
      List.flatMap_singleton, events_of_size_le _ (Nat.le_refl _), List.append_nil]

end Builder

/-! ## The graph of a routine -/

/-- The names that a routine of a module declares are those of its text. -/
theorem Names.isLocal_ofRoutine (m : Option Module) (r : Routine) (name : String) :
    (Names.ofRoutine m r).isLocal name = r.declares name :=
  contains_localsOfStmts r.body name

/-- Defining the variables of the module on entry is performing effects, those hidden by local names left out. -/
theorem defineModuleVariables_eq (names : Names) (vs : List Declaration) (b : Builder) :
    vs.foldl (fun b v =>
        if names.isLocal v.name then b else b.define names .moduleVariable v.name v.span) b
      = b.performAll names ((vs.filter fun v => !names.isLocal v.name).map fun v =>
          .define .moduleVariable v.name v.span) := by
  induction vs generalizing b with
  | nil => rfl
  | cons v rest ih =>
    rw [List.foldl_cons, ih]
    cases h : names.isLocal v.name with
    | true => simp [h]
    | false => simp [h, Builder.performAll, Builder.perform]

/-- Defining the parameters on entry is performing effects. -/
theorem defineParameters_eq (names : Names) (ps : List Parameter) (b : Builder) :
    ps.foldl (fun b p => b.define names .parameter p.name p.span) b
      = b.performAll names (ps.map fun p => .define .parameter p.name p.span) := by
  induction ps generalizing b with
  | nil => rfl
  | cons p rest ih => exact ih (b.define names .parameter p.name p.span)

/-- The builder of a routine when its body has been lowered. -/
def bodyBuilder (m : Option Module) (r : Routine) : Builder :=
  lowerStmts (Names.ofRoutine m r) r.body
    (Builder.start.performAll (Names.ofRoutine m r) (r.entryEffects m))

/-- The builder of a routine when its body has been connected to the exit. -/
def finalBuilder (m : Option Module) (r : Routine) : Builder :=
  (bodyBuilder m r).addEdge (bodyBuilder m r).current Graph.exit

/-- The graph of a routine is that of its body with an edge to the exit. -/
theorem ofRoutine_eq (m : Option Module) (r : Routine) :
    Graph.ofRoutine m r = (finalBuilder m r).graph := by
  have hentry : defineParameters (Names.ofRoutine m r) r
      (defineModuleVariables (Names.ofRoutine m r) m Builder.start)
      = Builder.start.performAll (Names.ofRoutine m r) (r.entryEffects m) := by
    unfold defineParameters defineModuleVariables Routine.entryEffects
    rw [defineParameters_eq, Builder.performAll_append]
    congr 1
    cases m with
    | none => rfl
    | some m =>
      refine (defineModuleVariables_eq _ _ _).trans ?_
      simp only [Names.isLocal_ofRoutine]
  unfold Graph.ofRoutine finalBuilder bodyBuilder
  simp only [hentry]

/-- What is defined on entry goes into the first block. -/
theorem entry_lowers (m : Option Module) (r : Routine) :
    Builder.Lowers (Names.ofRoutine m r) Builder.start (r.entryEffects m)
      (Builder.start.performAll (Names.ofRoutine m r) (r.entryEffects m)) :=
  .performAll (show Builder.start.graph.succs _ = [] from rfl) _

/-- The body is lowered after it. -/
theorem body_lowers (m : Option Module) (r : Routine) :
    Builder.Lowers (Names.ofRoutine m r)
      (Builder.start.performAll (Names.ofRoutine m r) (r.entryEffects m)) (effectsOfStmts r.body)
      (bodyBuilder m r) :=
  lowerStmts_lowers _ _ _ ((entry_lowers m r).steps.wellFormed .start) (entry_lowers m r).isOpen

/-- The graph of a body is well-formed. -/
theorem wellFormed_bodyBuilder (m : Option Module) (r : Routine) : (bodyBuilder m r).WellFormed :=
  (body_lowers m r).steps.wellFormed ((entry_lowers m r).steps.wellFormed .start)

/-- The steps from nothing to the finished graph of a routine. -/
theorem steps_finalBuilder (m : Option Module) (r : Routine) :
    Builder.Steps (Names.ofRoutine m r) Builder.start.inner Builder.start (r.script m)
      (finalBuilder m r) := by
  have hbody := (entry_lowers m r).trans (body_lowers m r)
  have hwf := wellFormed_bodyBuilder m r
  exact .edge hbody.steps (hbody.steps.inner_of_inner _ (.inl rfl)) hwf.current_lt
    hwf.current_ne_exit hwf.exit_lt

/-- The finished graph of a routine is well-formed. -/
theorem wellFormed_finalBuilder (m : Option Module) (r : Routine) : (finalBuilder m r).WellFormed :=
  (steps_finalBuilder m r).wellFormed .start

/-- The finished graph of a routine tells its script. -/
theorem tells_finalBuilder (m : Option Module) (r : Routine) :
    (finalBuilder m r).Tells (Names.ofRoutine m r) (r.script m) :=
  (steps_finalBuilder m r).tells .start Builder.tells_start

/-! ## Places -/

namespace Graph

/-- The number of events in the blocks before a given one. -/
def offset (g : Graph) (b : Nat) : Nat := ((List.range b).flatMap g.events).length

/-- The places that a block covers. -/
def stretch (g : Graph) (b : Nat) : List Nat := List.range' (g.offset b) (g.events b).length

/-- The places of a block follow those of the block before. -/
theorem offset_succ (g : Graph) (b : Nat) : g.offset (b + 1) = g.offset b + (g.events b).length := by
  simp [offset, List.range_succ, List.flatMap_append]

/-- Later blocks have later places. -/
theorem offset_mono (g : Graph) {a b : Nat} (h : a ≤ b) : g.offset a ≤ g.offset b := by
  induction b with
  | zero => exact Nat.le_of_eq (by rw [Nat.le_zero.mp h])
  | succ b ih =>
    rcases Nat.lt_or_eq_of_le h with hlt | rfl
    · have := ih (by omega)
      rw [offset_succ]; omega
    · exact Nat.le_refl _

/-- Places in different blocks differ. -/
theorem place_injective (g : Graph) {a b i j : Nat} (hi : i < (g.events a).length)
    (hj : j < (g.events b).length) (h : g.offset a + i = g.offset b + j) : a = b ∧ i = j := by
  have hab : a = b := by
    rcases Nat.lt_trichotomy a b with hlt | heq | hlt
    · have := g.offset_mono (show a + 1 ≤ b from hlt)
      rw [offset_succ] at this; omega
    · exact heq
    · have := g.offset_mono (show b + 1 ≤ a from hlt)
      rw [offset_succ] at this; omega
  subst hab
  exact ⟨rfl, by omega⟩

/-- The event at a place is the one at that position of its block. -/
theorem getElem?_place (g : Graph) {b j n : Nat} (hb : b < n) (hj : j < (g.events b).length) :
    ((List.range n).flatMap g.events)[g.offset b + j]? = (g.events b)[j]? := by
  induction n with
  | zero => omega
  | succ n ih =>
    rw [List.range_succ, List.flatMap_append, List.flatMap_singleton]
    rcases Nat.lt_or_eq_of_le (Nat.le_of_lt_succ hb) with hlt | rfl
    · have hle := g.offset_mono (show b + 1 ≤ n from hlt)
      rw [offset_succ] at hle
      have hin : g.offset b + j < ((List.range n).flatMap g.events).length := by
        unfold offset at *; omega
      rw [List.getElem?_append_left hin, ih hlt]
    · have hout : ((List.range b).flatMap g.events).length ≤ g.offset b + j := Nat.le_add_right _ _
      rw [List.getElem?_append_right hout]
      congr 1
      unfold offset; omega

/-- Every place is a position of some block. -/
theorem exists_place (g : Graph) {n p : Nat} (h : p < g.offset n) :
    ∃ b j, b < n ∧ j < (g.events b).length ∧ p = g.offset b + j := by
  induction n with
  | zero => simp [offset] at h
  | succ n ih =>
    rw [offset_succ] at h
    rcases Nat.lt_or_ge p (g.offset n) with hlt | hge
    · obtain ⟨b, j, hb, hj, hp⟩ := ih hlt
      exact ⟨b, j, by omega, hj, hp⟩
    · exact ⟨n, p - g.offset n, by omega, by omega, by omega⟩

end Graph

end Flow

end ModuleLint
