import ModuleLint.Proofs.Flow.ModuleFindings
import ModuleLint.Proofs.Flow.ReachingReads
import ModuleLint.Rule.Usage

/-!
# Dead stores are exact

An assignment is a dead store when some execution comes to it, its variable does not outlive the
routine, and no execution reads the variable after the assignment before it is defined again
(`Routine.IsDeadStore`). The analysis of a routine lists exactly these, in the order of the text, and
the rule about dead stores reports them (`deadDefinitions_exact`).

That a number reaches no use is a statement about all uses, those in code that nothing leads to
included. Such a use sees definitions of its own block only, which is not reachable either
(`contains_usedDefinitions_iff`).
-/

set_option autoImplicit false

namespace ModuleLint

open ModuleLint.Flow

namespace Routine

/-- A value assigned to the name cannot be observed once the routine has returned: the routine
declares the name itself, or all its parameters of that name are passed by value and there are some,
or the name is neither that of a parameter nor that of a variable of the module. -/
def KeepsInside (m : Option Module) (r : Routine) (name : String) : Prop :=
  r.declares name = true
  ∨ ((∃ p, some p ∈ r.parameters ∧ p.name = name)
    ∧ ∀ p, some p ∈ r.parameters → p.name = name → p.byValue = true)
  ∨ ((∀ p, some p ∈ r.parameters → p.name ≠ name)
    ∧ ∀ m', m = some m' → ∀ v, some v ∈ m'.declarations → v.name ≠ name)

/-- Some execution reads the variable after it has passed the place, and does not define it in
between. -/
def ReadAfter (m : Option Module) (r : Routine) (name : String) (place : Nat) : Prop :=
  ∃ q, r.ReadsAt m name q ∧ r.Carries m name place q

/-- An assignment that is executed and whose value nothing can observe. -/
def IsDeadStore (m : Option Module) (r : Routine) (place : Nat) : Prop :=
  ∃ name span, (r.script m)[place]? = some (.define .assignment name span)
    ∧ r.KeepsInside m name ∧ (∃ earlier, r.ComesTo m earlier place)
    ∧ ¬ r.ReadAfter m name place

/-- A numbered definition is the one at a place of the text. -/
def IsDefinitionAt (m : Option Module) (r : Routine) (place : Nat) (numbered : Nat × Definition) :
    Prop :=
  numbered.1 = numberAt m r place
    ∧ ∃ span, (r.script m)[place]? = some (.define numbered.2.origin numbered.2.variableName span)
      ∧ numbered.2.line = span.line ∧ numbered.2.column = span.column

end Routine

namespace Flow

variable {budget : Nat} {m : Option Module} {kind : RoutineKind} {r : Routine} {result : Result}

/-! ## Names that stay inside of a routine -/

/-- The names that do not escape are those of the variables that a routine keeps to itself. -/
theorem escapes_eq_false_iff (m : Option Module) (r : Routine) (name : String) :
    (Names.ofRoutine m r).escapes name = false ↔ r.KeepsInside m name := by
  have hparameter : (Names.ofRoutine m r).parameters.contains name = true
      ↔ ∃ p, some p ∈ r.parameters ∧ p.name = name := by
    simp [Names.ofRoutine]
  have hreference : (Names.ofRoutine m r).references.contains name = false
      ↔ ∀ p, some p ∈ r.parameters → p.name = name → p.byValue = true := by
    rw [Bool.eq_false_iff, Ne, List.contains_iff_mem]
    simp only [Names.ofRoutine, List.mem_map, List.mem_filter, List.mem_filterMap, id]
    constructor
    · intro h p hp hname
      cases hvalue : p.byValue with
      | true => rfl
      | false => exact absurd ⟨p, ⟨⟨some p, hp, rfl⟩, by simp [hvalue]⟩, hname⟩ h
    · rintro h ⟨p, ⟨⟨_, hp, rfl⟩, hvalue⟩, hname⟩
      simp [h p hp hname] at hvalue
  have hmodule : (Names.ofRoutine m r).moduleVariables.contains name = false
      ↔ ∀ m', m = some m' → ∀ v, some v ∈ m'.declarations → v.name ≠ name := by
    cases m with
    | none => simp [Names.ofRoutine]
    | some m' => simp [Names.ofRoutine]
  unfold Names.escapes Routine.KeepsInside
  rw [Names.isLocal_ofRoutine]
  by_cases hlocal : r.declares name = true
  · simp [hlocal]
  · rw [if_neg hlocal]
    by_cases hparam : (Names.ofRoutine m r).parameters.contains name = true
    · obtain ⟨p, hp, hname⟩ := hparameter.mp hparam
      rw [if_pos hparam, hreference]
      constructor
      · exact fun h => .inr (.inl ⟨⟨p, hp, hname⟩, h⟩)
      · rintro (h | ⟨-, h⟩ | ⟨h, -⟩)
        · exact absurd h hlocal
        · exact h
        · exact absurd hname (h p hp)
    · have hnone : ∀ p, some p ∈ r.parameters → p.name ≠ name :=
        fun p hp hname => hparam (hparameter.mpr ⟨p, hp, hname⟩)
      rw [if_neg hparam, hmodule]
      constructor
      · exact fun h => .inr (.inr ⟨hnone, h⟩)
      · rintro (h | ⟨⟨p, hp, hname⟩, -⟩ | ⟨-, h⟩)
        · exact absurd h hlocal
        · exact absurd hname (hnone p hp)
        · exact h

/-! ## Definitions that reach a use -/

/-- A definition that some execution comes to reaches a use exactly when its variable can be read
after it. -/
theorem contains_usedDefinitions_iff (h : analyzeRoutine budget m kind r = .ok result) {p : Nat}
    {name : String} (hp : r.DefinesAt m name p) (hcomes : ∃ earlier, r.ComesTo m earlier p) :
    result.usedDefinitions.contains (numberAt m r p) = true ↔ r.ReadAfter m name p := by
  have huses := forall₂_readPlaces_uses h
  obtain ⟨origin, span, hscript⟩ := definesAt_iff_script.mp hp
  unfold Result.usedDefinitions
  rw [IdSet.contains_ofList, List.mem_flatMap]
  constructor
  · rintro ⟨u, hu, hmem⟩
    obtain ⟨q, -, hrecord⟩ := exists_left_of_mem huses hu
    -- a use that no execution comes to sees no definition that one comes to
    by_cases hq : ∃ earlier, r.ComesTo m earlier q
    · obtain ⟨p', hnumber, hcarries⟩ := (hrecord.mem_iff hq _).mp hmem
      obtain ⟨origin', span', hscript'⟩ := definesAt_iff_script.mp hcarries.1
      obtain rfl : p = p' := eq_of_numberAt_eq hscript rfl hscript' rfl hnumber
      rw [hscript, Option.some.injEq, Effect.define.injEq] at hscript'
      rw [← hscript'.2.1] at hcarries
      obtain ⟨ref, href, hname, -⟩ := hrecord.reads
      have hsame : ref.name = name := hname.symm.trans hscript'.2.1.symm
      exact ⟨q, readsAt_iff_script.mpr ⟨ref, href, hsame⟩, hcarries⟩
    · exact absurd hcomes (hrecord.not_comesTo hq p name hp hmem)
  · rintro ⟨q, hreads, hcarries⟩
    obtain ⟨ref, href, hname⟩ := readsAt_iff_script.mp hreads
    obtain ⟨u, hu, hrecord⟩ := exists_right_of_mem huses (mem_readPlaces.mpr ⟨ref, href⟩)
    obtain ⟨before, between, hq, -⟩ := hcarries.2
    have hsame : u.variableName = name := by
      obtain ⟨ref', href', hname', -⟩ := hrecord.reads
      rw [href, Option.some.injEq, Effect.read.injEq] at href'
      rw [hname', ← href', hname]
    refine ⟨u, hu, (hrecord.mem_iff ⟨_, hq⟩ _).mpr ⟨p, rfl, ?_⟩⟩
    rw [hsame]
    exact hcarries

/-! ## Dead stores -/

/-- A definition stands in reachable code when some execution comes to it. -/
theorem isReachable_block_iff (h : analyzeRoutine budget m kind r = .ok result) {p : Nat}
    {origin : Origin} {name : String} {span : Span} {d : Definition}
    (hp : (r.script m)[p]? = some (.define origin name span))
    (hd : (Graph.ofRoutine m r).definitions[numberAt m r p]? = some d) :
    result.isReachable d.block = true ↔ ∃ earlier, r.ComesTo m earlier p := by
  obtain ⟨b, j, hj, rfl⟩ := exists_block_of_script hp
  rw [block_of_definition hj hp hd, isReachable_iff h, comesTo_place_iff hj]

/-- A definition of the text passes the test of the analysis when it is a dead store. -/
theorem isDeadStore_iff (h : analyzeRoutine budget m kind r = .ok result) {p : Nat}
    {origin : Origin} {name : String} {span : Span} {numbered : Nat × Definition}
    (hp : (r.script m)[p]? = some (.define origin name span)) (hnumber : numbered.1 = numberAt m r p)
    (hd : (Graph.ofRoutine m r).definitions[numbered.1]? = some numbered.2) :
    r.IsDeadStore m p
      ↔ (numbered.2.origin == .assignment && !numbered.2.escapes
          && result.isReachable numbered.2.block
          && !result.usedDefinitions.contains numbered.1) = true := by
  rw [hnumber] at hd ⊢
  obtain ⟨d, hd', -, -, -, horigin, hescapes⟩ := definitions_numberAt hp
  obtain rfl : d = numbered.2 := Option.some.inj (hd'.symm.trans hd)
  have hreachable := isReachable_block_iff h hp hd
  have hkeeps := escapes_eq_false_iff m r name
  have hused := contains_usedDefinitions_iff h (definesAt_iff_script.mpr ⟨origin, span, hp⟩)
  -- for an assignment the mark of the definition is that of its name
  simp only [Bool.and_eq_true, Bool.not_eq_true', beq_iff_eq, horigin, hescapes, hreachable]
  constructor
  · rintro ⟨name', span', hp', hkeep, hcomes, hread⟩
    rw [hp, Option.some.injEq, Effect.define.injEq] at hp'
    obtain ⟨rfl, rfl, rfl⟩ := hp'
    rw [← hused hcomes, Bool.not_eq_true] at hread
    exact ⟨⟨⟨rfl, by simp [hkeeps.mpr hkeep]⟩, hcomes⟩, hread⟩
  · rintro ⟨⟨⟨rfl, hescape⟩, hcomes⟩, hunused⟩
    refine ⟨name, span, hp, hkeeps.mp (by simpa using hescape), hcomes, ?_⟩
    rw [← hused hcomes, Bool.not_eq_true]
    exact hunused

/-- The definitions that are reported as dead stand at the dead stores of the text, in its order. -/
theorem forall₂_deadStores (h : analyzeRoutine budget m kind r = .ok result) :
    List.Forall₂ (r.IsDefinitionAt m) (r.placesWhere m (r.IsDeadStore m))
      result.deadDefinitions := by
  obtain ⟨-, hgraph, -⟩ := analyzeRoutine_eq_ok h
  refine forall₂_placesWhere (forall₂_numbered hgraph) ?_ ?_ ?_
  · rintro p ⟨name, span, hp, -⟩
    rw [hp]
    rfl
  · rintro p numbered ⟨⟨origin, name, span, hp⟩, hnumber, hd⟩
    exact isDeadStore_iff h hp hnumber hd
  · rintro p numbered ⟨⟨origin, name, span, hp⟩, hnumber, hd⟩
    rw [hnumber] at hd
    obtain ⟨d, hd', hname, hline, hcolumn, horigin, -⟩ := definitions_numberAt hp
    obtain rfl : d = numbered.2 := Option.some.inj (hd'.symm.trans hd)
    rw [← hname, ← horigin] at hp
    exact ⟨hnumber, span, hp, hline, hcolumn⟩

/-- The analysis of a routine lists exactly its dead stores, from top to bottom, and the rule about
dead stores reports exactly those of the routines whose analysis converges. -/
theorem deadDefinitions_exact :
    (∀ budget m kind r result, analyzeRoutine budget m kind r = .ok result →
      List.Forall₂ (r.IsDefinitionAt m) (r.placesWhere m (r.IsDeadStore m))
        result.deadDefinitions)
    ∧ ∀ rules options m info,
      Usage.deadStore.behaviour.onFacts.map
          (fun look => look info (analyzeModule rules options (some m)).facts)
        = some (Verdict.of ((converging (budgetOf options.maxIterations) m).flatMap fun r =>
            (r.placesWhere (some m) (r.IsDeadStore (some m))).filterMap (r.reportAt info m fun name =>
              "value assigned to '" ++ name ++ "' in '" ++ r.name ++ "' is never read"))) := by
  refine ⟨fun budget m kind r result h => forall₂_deadStores h, fun rules options m info => ?_⟩
  rw [← reports_analyzeModule (fun budget kind r result h => forall₂_deadStores h)]
  · rfl
  · rintro result p numbered ⟨-, span, hp, hline, hcolumn⟩
    unfold Routine.reportAt
    rw [hp, Option.map_some, RuleInfo.violation, Effect.span, ← hline, ← hcolumn]
    rfl

/-- The assignment after the loop is dead. Those inside of the loop are not, and that behind the
return is never executed. -/
theorem deadDefinitions_exact_adding :
    ∃ result, analyzeRoutine 20 none .function adding = .ok result
      ∧ result.deadDefinitions.map (fun numbered => (numbered.1, numbered.2.variableName))
        = [(4, "last")]
      ∧ List.Forall₂ (adding.IsDefinitionAt none) (adding.placesWhere none (adding.IsDeadStore none))
          result.deadDefinitions := by
  have hrun : (analyzeRoutine 20 none .function adding).toOption.map
      (fun result => result.deadDefinitions.map fun numbered =>
        (numbered.1, numbered.2.variableName)) = some [(4, "last")] := by decide
  obtain ⟨result, hok, hdead⟩ := exists_ok_of_toOption_map hrun
  exact ⟨result, hok, hdead, deadDefinitions_exact.1 20 none .function adding result hok⟩

end Flow

end ModuleLint
