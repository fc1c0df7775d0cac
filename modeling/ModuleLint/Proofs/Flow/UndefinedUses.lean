import ModuleLint.Proofs.Flow.ModuleFindings
import ModuleLint.Proofs.Flow.ReachingReads
import ModuleLint.Rule.Usage

/-!
# Reads before any definition are exact

A read is undefined when the routine defines its variable somewhere and some execution comes to the
read, but no execution has defined the variable by then (`Routine.IsUndefinedRead`). The analysis of a
routine lists exactly these, in the order of the text, and the rule about use before assignment reports
them (`undefinedUses_exact`).

What a routine finds defined on entry has been passed before any read (`mem_of_entry`), so reads of
parameters and of variables of the module are not among them.
-/

set_option autoImplicit false

namespace ModuleLint

open ModuleLint.Flow

namespace Routine

/-- A read of a variable that is defined in the routine, but never before the read. -/
def IsUndefinedRead (m : Option Module) (r : Routine) (place : Nat) : Prop :=
  ∃ ref, (r.script m)[place]? = some (.read ref) ∧ (∃ q, r.DefinesAt m ref.name q)
    ∧ (∃ earlier, r.ComesTo m earlier place)
    ∧ ∀ earlier, r.ComesTo m earlier place → ∀ q ∈ earlier, ¬ r.DefinesAt m ref.name q

/-- A use is the read at a place of the text. -/
def IsReadAt (m : Option Module) (r : Routine) (place : Nat) (u : Use) : Prop :=
  ∃ ref, (r.script m)[place]? = some (.read ref) ∧ u.variableName = ref.name
    ∧ u.line = ref.span.line ∧ u.column = ref.span.column

end Routine

namespace Flow

variable {budget : Nat} {m : Option Module} {kind : RoutineKind} {r : Routine} {result : Result}

/-! ## Definitions before a read -/

/-- Where a variable is defined along some places, it is defined for the last time. -/
theorem exists_last_definition {name : String} {q : Nat} {earlier : List Nat} (hmem : q ∈ earlier)
    (hq : r.DefinesAt m name q) :
    ∃ before p between, earlier = before ++ p :: between ∧ r.DefinesAt m name p
      ∧ ∀ x ∈ between, ¬ r.DefinesAt m name x := by
  induction earlier generalizing q with
  | nil => cases hmem
  | cons x rest ih =>
    by_cases hrest : ∃ y ∈ rest, r.DefinesAt m name y
    · obtain ⟨y, hy, hdef⟩ := hrest
      obtain ⟨before, p, between, rfl, hp, hbetween⟩ := ih hy hdef
      exact ⟨x :: before, p, between, rfl, hp, hbetween⟩
    · have hnone : ∀ y ∈ rest, ¬ r.DefinesAt m name y := fun y hy hdef => hrest ⟨y, hy, hdef⟩
      rcases List.mem_cons.mp hmem with rfl | hmem
      · exact ⟨[], q, rest, rfl, hq, hnone⟩
      · exact absurd hq (hnone q hmem)

/-- Nothing reaches a read exactly when its variable is never defined before. -/
theorem reaching_eq_nil_iff {place : Nat} {u : Use} (hrecord : RecordsRead m r result place u)
    (hcomes : ∃ earlier, r.ComesTo m earlier place) :
    u.reaching = []
      ↔ ∀ earlier, r.ComesTo m earlier place → ∀ q ∈ earlier, ¬ r.DefinesAt m u.variableName q := by
  rw [List.eq_nil_iff_forall_not_mem]
  constructor
  · intro hnone earlier hearlier q hq hdef
    -- the last definition on the way is in force at the read
    obtain ⟨before, p, between, rfl, hp, hbetween⟩ := exists_last_definition hq hdef
    apply hnone (numberAt m r p)
    rw [hrecord.mem_iff hcomes]
    exact ⟨p, rfl, hp, before, between, hearlier, hbetween⟩
  · intro hnever d hd
    obtain ⟨p, -, hp, before, between, hearlier, -⟩ := (hrecord.mem_iff hcomes d).mp hd
    exact hnever _ hearlier p (by simp) hp

/-- The list of definitions knows the variables that are defined in the text. -/
theorem any_definitions_iff (m : Option Module) (r : Routine) (name : String) :
    ((Graph.ofRoutine m r).definitions.any fun d => d.variableName == name) = true
      ↔ ∃ q, r.DefinesAt m name q := by
  rw [List.any_eq_true]
  constructor
  · rintro ⟨d, hd, hname⟩
    obtain ⟨i, hi, hget⟩ := List.getElem_of_mem hd
    have hnumber : i ∈ (r.definitionPlaces m).map (numberAt m r) := by
      rw [map_numberAt_definitionPlaces, List.mem_range, ← length_definitions_ofRoutine]
      exact hi
    obtain ⟨q, hq, rfl⟩ := List.mem_map.mp hnumber
    obtain ⟨origin, defined, span, hscript⟩ := mem_definitionPlaces.mp hq
    obtain ⟨d', hd', hdefined, -⟩ := definitions_numberAt hscript
    rw [List.getElem?_eq_getElem hi, hget, Option.some.injEq] at hd'
    subst hd'
    rw [← hdefined, beq_iff_eq.mp hname] at hscript
    exact ⟨q, definesAt_iff_script.mpr ⟨origin, span, hscript⟩⟩
  · rintro ⟨q, hq⟩
    obtain ⟨origin, span, hscript⟩ := definesAt_iff_script.mp hq
    obtain ⟨d, hd, hname, -⟩ := definitions_numberAt hscript
    exact ⟨d, List.mem_of_getElem? hd, beq_iff_eq.mpr hname⟩

/-! ## Undefined reads -/

/-- A read of the text passes the test of the analysis when it is undefined. -/
theorem isUndefinedRead_iff (h : analyzeRoutine budget m kind r = .ok result) {place : Nat} {u : Use}
    (hrecord : RecordsRead m r result place u) :
    r.IsUndefinedRead m place
      ↔ (u.reaching.isEmpty && result.isReachable u.block
          && result.graph.definitions.any fun d => d.variableName == u.variableName) = true := by
  obtain ⟨-, hgraph, -⟩ := analyzeRoutine_eq_ok h
  obtain ⟨ref, href, hname, -⟩ := hrecord.reads
  rw [hgraph, Bool.and_eq_true, Bool.and_eq_true, List.isEmpty_iff, hrecord.isReachable_iff,
    any_definitions_iff]
  unfold Routine.IsUndefinedRead
  constructor
  · rintro ⟨ref', href', hdefined, hcomes, hnever⟩
    rw [href, Option.some.injEq, Effect.read.injEq] at href'
    rw [← href', ← hname] at hdefined hnever
    exact ⟨⟨(reaching_eq_nil_iff hrecord hcomes).mpr hnever, hcomes⟩, hdefined⟩
  · rintro ⟨⟨hnone, hcomes⟩, hdefined⟩
    have hnever := (reaching_eq_nil_iff hrecord hcomes).mp hnone
    rw [hname] at hdefined hnever
    exact ⟨ref, href, hdefined, hcomes, hnever⟩

/-- The uses that are reported as undefined stand at the undefined reads of the text, in its order. -/
theorem forall₂_undefinedReads (h : analyzeRoutine budget m kind r = .ok result) :
    List.Forall₂ (r.IsReadAt m) (r.placesWhere m (r.IsUndefinedRead m)) result.undefinedUses := by
  refine forall₂_placesWhere (forall₂_readPlaces_uses h) ?_ ?_ ?_
  · rintro p ⟨ref, hp, -⟩
    rw [hp]
    rfl
  · intro p u hrecord
    exact isUndefinedRead_iff h hrecord
  · intro p u hrecord
    exact hrecord.reads

/-! ## What is defined on entry -/

/-- On entry variables are only defined. -/
theorem isDefinition_of_mem_entryEffects {e : Effect} (he : e ∈ r.entryEffects m) :
    e.isDefinition = true := by
  unfold Routine.entryEffects at he
  rcases List.mem_append.mp he with he | he
  · cases m with
    | none => cases he
    | some m' =>
      obtain ⟨v, -, rfl⟩ := List.mem_map.mp he
      rfl
  · obtain ⟨p, -, rfl⟩ := List.mem_map.mp he
    rfl

/-- Before an execution comes to a read it has passed all definitions on entry. -/
theorem mem_of_entry {earlier : List Nat} {place : Nat} {ref : Reference}
    (hcomes : r.ComesTo m earlier place) (hread : (r.script m)[place]? = some (.read ref)) {q : Nat}
    (hq : q < (r.entryEffects m).length) : q ∈ earlier := by
  -- a read stands behind the definitions on entry, since none of those is a read
  have hplace : (r.entryEffects m).length ≤ place := by
    rw [← Nat.not_lt]
    intro hlt
    unfold Routine.script at hread
    rw [List.getElem?_append_left hlt] at hread
    have hdefinition := isDefinition_of_mem_entryEffects (List.mem_of_getElem? hread)
    cases hdefinition
  obtain ⟨later, ending, hruns⟩ := hcomes
  unfold Routine.runs at hruns
  rcases hruns with ⟨⟨-, hgoes⟩, -⟩ | ⟨entry, rest, hsplit, ⟨rfl, -⟩, -⟩
  · cases hgoes
  · -- so the definitions on entry, which come first, are all passed before it
    have hentry : q ∈ placesFrom 0 (r.entryEffects m) := by
      unfold placesFrom
      rw [List.mem_range'_1]
      omega
    rcases List.append_eq_append_iff.mp hsplit with ⟨l, hl, hrest⟩ | ⟨l, hl, -⟩
    · cases l with
      | nil =>
        rw [List.append_nil] at hl
        rwa [← hl]
      | cons x l =>
        obtain ⟨rfl, -⟩ := List.cons.inj hrest
        have hmem : place ∈ placesFrom 0 (r.entryEffects m) := by
          rw [hl]
          simp
        unfold placesFrom at hmem
        rw [List.mem_range'_1] at hmem
        omega
    · rw [hl]
      exact List.mem_append_left l hentry

/-- An undefined read is not one of a variable that is defined on entry. -/
theorem name_ne_of_isUndefinedRead {place : Nat} {ref : Reference}
    (h : r.IsUndefinedRead m place) (href : (r.script m)[place]? = some (.read ref)) :
    ∀ e ∈ r.entryEffects m, e.name ≠ ref.name := by
  intro e he hname
  obtain ⟨ref', href', -, ⟨earlier, hcomes⟩, hnever⟩ := h
  rw [href, Option.some.injEq, Effect.read.injEq] at href'
  subst href'
  obtain ⟨q, hq, hget⟩ := List.getElem_of_mem he
  have hscript : (r.script m)[q]? = some e := by
    unfold Routine.script
    rw [List.getElem?_append_left hq, List.getElem?_eq_getElem hq, hget]
  apply hnever earlier hcomes q (mem_of_entry hcomes href hq)
  rw [← hname]
  cases e with
  | define origin name span => exact definesAt_iff_script.mpr ⟨origin, span, hscript⟩
  | read ref' => cases isDefinition_of_mem_entryEffects he

/-- A use that is found undefined is neither one of a parameter nor one of a variable of the module
that the routine does not declare itself. -/
theorem not_onEntry_of_mem_undefinedUses (h : analyzeRoutine budget m kind r = .ok result) {u : Use}
    (hu : u ∈ result.undefinedUses) :
    (∀ p, some p ∈ r.parameters → p.name ≠ u.variableName)
      ∧ ∀ m', m = some m' → ∀ v, some v ∈ m'.declarations → v.name = u.variableName →
        r.declares u.variableName = true := by
  obtain ⟨place, hplace, ref, href, hname, -⟩ := exists_left_of_mem (forall₂_undefinedReads h) hu
  have hentry := name_ne_of_isUndefinedRead (mem_placesWhere.mp hplace).2 href
  rw [hname]
  constructor
  · intro p hp
    apply hentry (.define .parameter p.name p.span)
    unfold Routine.entryEffects
    refine List.mem_append_right _ (List.mem_map.mpr ⟨p, ?_, rfl⟩)
    exact List.mem_filterMap.mpr ⟨some p, hp, rfl⟩
  · rintro m' rfl v hv hsame
    by_contra hdeclares
    refine hentry (.define .moduleVariable v.name v.span) ?_ hsame
    unfold Routine.entryEffects
    refine List.mem_append_left _ (List.mem_map.mpr ⟨v, ?_, rfl⟩)
    rw [List.mem_filter, List.mem_filterMap, hsame]
    exact ⟨⟨some v, hv, rfl⟩, by simpa using hdeclares⟩

/-- The analysis of a routine lists exactly its undefined reads, from top to bottom, and none of them
is a read of something that is defined on entry. The rule about use before assignment reports exactly
those of the routines whose analysis converges. -/
theorem undefinedUses_exact :
    (∀ budget m kind r result, analyzeRoutine budget m kind r = .ok result →
      List.Forall₂ (r.IsReadAt m) (r.placesWhere m (r.IsUndefinedRead m)) result.undefinedUses
      ∧ ∀ u ∈ result.undefinedUses,
        (∀ p, some p ∈ r.parameters → p.name ≠ u.variableName)
        ∧ ∀ m', m = some m' → ∀ v, some v ∈ m'.declarations → v.name = u.variableName →
          r.declares u.variableName = true)
    ∧ ∀ rules options m info,
      Usage.useBeforeAssignment.behaviour.onFacts.map
          (fun look => look info (analyzeModule rules options (some m)).facts)
        = some (Verdict.of ((converging (budgetOf options.maxIterations) m).flatMap fun r =>
            (r.placesWhere (some m) (r.IsUndefinedRead (some m))).filterMap
              (r.reportAt info m fun name =>
                "'" ++ name ++ "' is read in '" ++ r.name
                  ++ "' before any assignment reaches it"))) := by
  constructor
  · intro budget m kind r result h
    exact ⟨forall₂_undefinedReads h, fun u hu => not_onEntry_of_mem_undefinedUses h hu⟩
  · intro rules options m info
    rw [← reports_analyzeModule (fun budget kind r result h => forall₂_undefinedReads h)]
    · rfl
    · rintro result p u ⟨ref, hp, hname, hline, hcolumn⟩
      unfold Routine.reportAt
      rw [hp, Option.map_some, RuleInfo.violation, Effect.span, Effect.name, ← hname, ← hline,
        ← hcolumn]
      rfl

/-- The variable that is printed first is not assigned before. The loop reads it as well, but
assigns it in the same round. -/
theorem undefinedUses_exact_adding :
    ∃ result, analyzeRoutine 20 none .function adding = .ok result
      ∧ result.undefinedUses.map (fun u => (u.variableName, u.block)) = [("last", 0)]
      ∧ List.Forall₂ (adding.IsReadAt none) (adding.placesWhere none (adding.IsUndefinedRead none))
          result.undefinedUses := by
  have hrun : (analyzeRoutine 20 none .function adding).toOption.map
      (fun result => result.undefinedUses.map fun u => (u.variableName, u.block))
        = some [("last", 0)] := by decide
  obtain ⟨result, hok, huses⟩ := exists_ok_of_toOption_map hrun
  exact ⟨result, hok, huses, (undefinedUses_exact.1 20 none .function adding result hok).1⟩

end Flow

end ModuleLint
