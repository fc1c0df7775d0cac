import ModuleLint.Proofs.Facts.RoutineNotes

/-!
# Routine facts against the text of the module

What is noted down about a routine, apart from its calls, depends on its own text only. The call graph is that of
all calls of the module, so a routine counts as used if any routine calls its name, and the routines that are told to
call themselves have the names that the graph tells to be recursive. The reports on routines without callers and on
functions without values follow (`routine_facts_match_text`).
-/

set_option autoImplicit false

namespace ModuleLint

/-- The names that the routines of a module call. -/
def Module.calledNames (m : Module) : List String := m.routines.flatMap fun x => x.2.callees

/-- No routine of the module calls this one, and it is not exempt. -/
def Module.isUnused (m : Module) (exemptExported : Bool) (x : RoutineKind × Routine) : Bool :=
  !m.calledNames.contains x.2.name && !(exemptExported && x.2.exported)

/-- Some return statement of the routine has a value. -/
def Routine.returnsValue (r : Routine) : Bool := (returnsOfStmts r.body).any (·.hasValue)

/-- What is noted down about a routine, apart from its calls, is what its text says. -/
structure RoutineFact.Describes (x : RoutineKind × Routine) (f : RoutineFact) : Prop where
  name : f.name = x.2.name
  kind : f.kind = x.1
  line : f.line = x.2.span.line
  exported : f.exported = x.2.exported
  length : f.length = x.2.span.length
  declaration : f.declaration = x.2
  parameters : f.parameters = (x.2.parameters.filterMap id).map Parameter.fact
  returns : f.returns = returnsOfStmts x.2.body

/-- The entry of a routine after its walk describes it. -/
theorem describes_after (before : List (String × String)) (kind : RoutineKind) (r : Routine) :
    RoutineFact.Describes (kind, r) (.after before kind r (nodesOfAll r.children)) := by
  obtain ⟨hparameters, hreturns, -⟩ := r.filterMap_nodes
  exact { name := rfl, kind := rfl, line := rfl, exported := rfl, length := rfl, declaration := rfl,
          parameters := hparameters, returns := hreturns }

/-- All entries describe their routines, in the same order. -/
theorem forall₂_noted (before : List (String × String)) (rs : List (RoutineKind × Routine)) :
    List.Forall₂ RoutineFact.Describes rs (noted before rs) := by
  induction rs generalizing before with
  | nil => exact .nil
  | cons x rest ih => exact .cons (describes_after before x.1 x.2) (ih _)

/-- Facts are selected and told as the routines they describe. -/
theorem map_filter_of_describes {α : Type} {rs : List (RoutineKind × Routine)} {fs : List RoutineFact}
    (h : List.Forall₂ RoutineFact.Describes rs fs) {p : RoutineFact → Bool} {q : RoutineKind × Routine → Bool}
    (hpq : ∀ x f, RoutineFact.Describes x f → p f = q x) {tell : RoutineFact → α} {told : RoutineKind × Routine → α}
    (htell : ∀ x f, RoutineFact.Describes x f → tell f = told x) :
    (fs.filter p).map tell = (rs.filter q).map told := by
  induction h with
  | nil => rfl
  | @cons x f rest fs hx _ ih =>
    rw [List.filter_cons, List.filter_cons, hpq x f hx]
    cases q x with
    | true => simp [htell x f hx, ih]
    | false => simpa using ih

/-- Each name that calls itself is told once, by the first routine of this name that does so. -/
theorem exists_noted_selfCalling (before : List (String × String)) (rs : List (RoutineKind × Routine)) (name : String) :
    (∃ f ∈ noted before rs, f.name = name ∧ f.name ∈ f.calls)
      ↔ (name, name) ∈ callsOf rs ∧ (name, name) ∉ before := by
  induction rs generalizing before with
  | nil => simp [noted, callsOf]
  | cons x rest ih =>
    obtain ⟨kind, r⟩ := x
    have hhead : (r.name = name ∧ r.name ∈ newCallees before r.name r.callees)
        ↔ (name, name) ∈ r.callPairs ∧ (name, name) ∉ before := by
      rw [mem_newCallees, mem_callPairs]
      constructor
      · rintro ⟨rfl, hc, hb⟩
        exact ⟨⟨rfl, hc⟩, hb⟩
      · rintro ⟨⟨rfl, hc⟩, hb⟩
        exact ⟨rfl, hc, hb⟩
    have hcalls : (name, name) ∈ callsOf ((kind, r) :: rest)
        ↔ (name, name) ∈ r.callPairs ∨ (name, name) ∈ callsOf rest := by
      unfold callsOf
      rw [List.flatMap_cons, List.mem_append]
    rw [noted, List.exists_mem_cons_iff, ih, calls_after_children, hcalls, List.mem_append]
    show (r.name = name ∧ r.name ∈ newCallees before r.name r.callees) ∨ _ ↔ _
    rw [hhead]
    by_cases hb : (name, name) ∈ before <;> by_cases hr : (name, name) ∈ r.callPairs <;> simp [hb, hr]

/-- Selecting functions among all routines is selecting in the list of functions. -/
theorem filter_function_routines (m : Module) (p : Routine → Bool) :
    m.routines.filter (fun x => x.1 == .function && p x.2)
      = ((m.functions.filterMap id).filter p).map fun r => (RoutineKind.function, r) := by
  unfold Module.routines
  rw [List.filter_append, List.filter_map, List.filter_map]
  have hprocedures : (m.procedures.filterMap id).filter
      ((fun x : RoutineKind × Routine => x.1 == .function && p x.2) ∘ fun r => (.procedure, r)) = [] := by
    apply List.filter_eq_nil_iff.mpr
    intro r _
    simp
  rw [hprocedures, List.map_nil, List.append_nil]
  rfl

namespace RoutineFacts.Notes

variable {m : Module} {facts : RoutineFacts} (h : Notes m.routines facts)
include h

/-- A name counts as called when a routine of the module calls it. -/
theorem isCalled_eq (name : String) : facts.graph.isCalled name = m.calledNames.contains name := by
  rw [Bool.eq_iff_iff, h.graph.isCalled_iff, List.contains_iff_mem]
  unfold Module.calledNames
  simp only [List.mem_eraseDups, mem_callsOf, List.mem_flatMap]
  constructor
  · rintro ⟨call, ⟨x, hx, -, hc⟩, rfl⟩
    exact ⟨x, hx, hc⟩
  · rintro ⟨x, hx, hc⟩
    exact ⟨(x.2.name, name), ⟨x, hx, rfl, hc⟩, rfl⟩

/-- The collected entries describe the routines of the module one by one. -/
theorem forall₂_describes : List.Forall₂ RoutineFact.Describes m.routines facts.routines := by
  rw [h.routines]
  exact forall₂_noted [] m.routines

/-- Anything told about the unused entries is told of the unused routines of the tree. -/
theorem map_unused {α : Type} (exemptExported : Bool) {tell : RoutineFact → α} {told : RoutineKind × Routine → α}
    (htell : ∀ x f, RoutineFact.Describes x f → tell f = told x) :
    (facts.unused exemptExported).map tell = (m.routines.filter (m.isUnused exemptExported)).map told := by
  refine map_filter_of_describes h.forall₂_describes (fun x f hf => ?_) htell
  rw [h.isCalled_eq, hf.name, hf.exported]
  rfl

/-- Anything told about functions without a returned value is told of those of the tree. -/
theorem map_valueless {α : Type} {tell : RoutineFact → α} (told : RoutineKind × Routine → α)
    (htell : ∀ x f, RoutineFact.Describes x f → tell f = told x) :
    ((facts.ofKind .function).filter fun f => !f.returns.any (·.hasValue)).map tell
      = ((m.functions.filterMap id).filter fun r => !r.returnsValue).map fun r => told (.function, r) := by
  have hsame : ∀ x f, RoutineFact.Describes x f →
      (!f.returns.any (·.hasValue) && f.kind == .function) = (x.1 == .function && !x.2.returnsValue) := by
    intro x f hf
    rw [hf.returns, hf.kind, Bool.and_comm]
    rfl
  unfold ofKind
  rw [List.filter_filter, map_filter_of_describes h.forall₂_describes hsame htell,
    filter_function_routines m fun r => !r.returnsValue, List.map_map]
  rfl

/-- The recursive names of the graph are those with a routine that calls its own name. -/
theorem mem_recursive_iff (name : String) : name ∈ facts.graph.recursive ↔ (name, name) ∈ callsOf m.routines := by
  rw [h.graph.recursive_eq]
  simp only [List.mem_filter, List.mem_eraseDups, List.mem_map, List.contains_iff_mem]
  constructor
  · exact fun hname => hname.2
  · exact fun hcall => ⟨⟨(name, name), hcall, rfl⟩, hcall⟩

/-- The names of the self-calling entries are the recursive names. -/
theorem mem_selfCalling_iff (name : String) :
    name ∈ facts.selfCalling.map (·.name) ↔ (name, name) ∈ callsOf m.routines := by
  have hnoted := exists_noted_selfCalling [] m.routines name
  rw [← h.routines] at hnoted
  simp only [List.not_mem_nil, not_false_eq_true, and_true] at hnoted
  rw [← hnoted]
  unfold selfCalling
  simp only [List.mem_map, List.mem_filter, List.contains_iff_mem]
  constructor
  · rintro ⟨f, ⟨hf, hcalls⟩, rfl⟩
    exact ⟨f, hf, rfl, hcalls⟩
  · rintro ⟨f, hf, rfl, hcalls⟩
    exact ⟨f, ⟨hf, hcalls⟩, rfl⟩

end RoutineFacts.Notes

/-- After a walk of a module, from any place and with any facts before, the facts are one for each function and then
one for each procedure, in the order of the module, and each says what the text of its routine says. The unused
routines are those whose name is called nowhere in the module. A name is told to call itself by the routines and by the
graph alike, just when some routine of this name calls it. Analyses report the unused routines and the functions
that nowhere return a value. -/
theorem routine_facts_match_text (m : Module) (c : Context) (before : RoutineFacts) (options : EngineOptions) :
    let walked := walkOutline Context.surroundings RoutineFacts.hook m.outline c before
    walked.panic = none
      ∧ List.Forall₂ RoutineFact.Describes m.routines walked.state.routines
      ∧ (∀ exemptExported, (walked.state.unused exemptExported).map (fun f => (f.kind, f.declaration))
          = m.routines.filter (m.isUnused exemptExported))
      ∧ (∀ name, (name ∈ walked.state.selfCalling.map (·.name) ↔ name ∈ walked.state.graph.recursive)
          ∧ (name ∈ walked.state.graph.recursive ↔ ∃ x ∈ m.routines, x.2.name = name ∧ name ∈ x.2.callees))
      ∧ (analyzeModule [Usage.unusedRoutine] options (some m)).violations
          = Violation.sort ((m.routines.filter (m.isUnused options.exemptExported)).map fun x =>
              Usage.unusedRoutine.info.violation (some m) x.2.span
                (x.1.name ++ " '" ++ x.2.name ++ "' is never called in this module"))
      ∧ (analyzeModule [Usage.missingReturnValue] options (some m)).violations
          = Violation.sort (((m.functions.filterMap id).filter fun r => !r.returnsValue).map fun r =>
              Usage.missingReturnValue.info.violation (some m) r.span
                ("function '" ++ r.name ++ "' never returns a value")) := by
  have hwalk := RoutineFacts.notes_walkOutline m c before
  have hfacts := RoutineFacts.notes_factsOf options m
  refine ⟨?_, hwalk.forall₂_describes, fun exemptExported => ?_, fun name => ⟨?_, ?_⟩, ?_, ?_⟩
  · rw [walkOutline_quiet Context.surroundings RoutineFacts.quiet_hook]
  · refine (hwalk.map_unused exemptExported fun x f hf => ?_).trans (List.map_id _)
    rw [hf.kind, hf.declaration]
    rfl
  · rw [hwalk.mem_selfCalling_iff, hwalk.mem_recursive_iff]
  · rw [hwalk.mem_recursive_iff, mem_callsOf]
  · refine (violations_usageRule _ _ options m).trans (congrArg Violation.sort ?_)
    refine hfacts.map_unused options.exemptExported fun x f hf => ?_
    unfold Usage.atRoutine Usage.unusedComplaint
    rw [hf.declaration, hf.kind, hf.name]
    rfl
  · refine (violations_usageRule _ _ options m).trans (congrArg Violation.sort ?_)
    refine hfacts.map_valueless (fun x => Usage.missingReturnValue.info.violation (some m) x.2.span
      ("function '" ++ x.2.name ++ "' never returns a value")) fun x f hf => ?_
    unfold Usage.atRoutine Usage.returnComplaint
    rw [hf.declaration, hf.name]
    rfl

end ModuleLint
