import ModuleLint.Proofs.Facts.RoutineNotes

/-!
# Whose calls are noted down

Routines of one name share a row of the call graph. A call that an earlier routine of the name made is known to the
graph, so it is not noted down again. Hence the calls noted down for a routine are those of its text which no earlier
routine of its name makes, and of several routines of one name that call themselves only the first is reported
(`calls_attributed_to_first_of_name`). Where names are not shared, the calls are those of the text.
-/

set_option autoImplicit false

namespace ModuleLint

/-- The routine calls its own name. -/
def Routine.callsItself (r : Routine) : Bool := r.callees.contains r.name

/-- The first routine of each name. -/
def firstOfNames (rs : List (RoutineKind × Routine)) : List (RoutineKind × Routine) :=
  rs.eraseDupsBy fun x y => x.2.name == y.2.name

/-- What is written down for a routine under its calls: the callees that no routine before it of the same name has. -/
theorem map_calls_noted (before : List (String × String)) (rs : List (RoutineKind × Routine)) :
    (noted before rs).map (·.calls)
      = rs.mapIdx fun i x => newCallees (before ++ callsOf (rs.take i)) x.2.name x.2.callees := by
  induction rs generalizing before with
  | nil => rfl
  | cons x rest ih =>
    obtain ⟨kind, r⟩ := x
    rw [noted, List.map_cons, ih, calls_after_children, List.mapIdx_cons]
    simp [callsOf]

/-- The first entry stays, and later ones of the same name go. -/
theorem firstOfNames_cons (x : RoutineKind × Routine) (rs : List (RoutineKind × Routine)) :
    firstOfNames (x :: rs) = x :: firstOfNames (rs.filter fun y => decide (y.2.name ≠ x.2.name)) := by
  unfold firstOfNames
  rw [List.eraseDupsBy_cons]
  simp

/-- Where nothing is shared, every routine is the first of its name. -/
theorem firstOfNames_of_nodup {rs : List (RoutineKind × Routine)} (h : (rs.map (·.2.name)).Nodup) :
    firstOfNames rs = rs := by
  induction rs with
  | nil => rfl
  | cons x rest ih =>
    obtain ⟨hx, hrest⟩ := List.nodup_cons.mp h
    have hkept : (rest.filter fun y => decide (y.2.name ≠ x.2.name)) = rest := by
      apply List.filter_eq_self.mpr
      intro y hy
      have hne : y.2.name ≠ x.2.name := fun heq => hx (List.mem_map.mpr ⟨y, hy, heq⟩)
      simpa using hne
    rw [firstOfNames_cons, hkept, ih hrest]

/-- The routines noted down with a call to themselves. A routine that calls itself hides the later ones of its name,
just as those are hidden whose call was made before. -/
theorem filter_noted_selfCalling {α : Type} {tell : RoutineFact → α} {told : RoutineKind × Routine → α}
    (htell : ∀ before kind r ns, tell (.after before kind r ns) = told (kind, r)) (before : List (String × String))
    (rs : List (RoutineKind × Routine)) :
    ((noted before rs).filter fun f => f.calls.contains f.name).map tell
      = (firstOfNames (rs.filter fun x => x.2.callsItself && !before.contains (x.2.name, x.2.name))).map told := by
  induction rs generalizing before with
  | nil => rfl
  | cons x rest ih =>
    obtain ⟨kind, r⟩ := x
    -- what is known when the routine is over
    have hknown (name : String) : (before ++ r.callPairs).contains (name, name)
        = (before.contains (name, name) || (decide (name = r.name) && r.callsItself)) := by
      rw [Bool.eq_iff_iff, List.contains_iff_mem, List.mem_append, mem_callPairs]
      by_cases hname : name = r.name
      · simp [hname, Routine.callsItself]
      · simp [hname, Ne.symm hname]
    have hfirst : (RoutineFact.after before kind r (nodesOfAll r.children)).calls.contains r.name
        = (r.callsItself && !before.contains (r.name, r.name)) := by
      rw [calls_after_children, Bool.eq_iff_iff, List.contains_iff_mem, mem_newCallees, Routine.callsItself]
      simp
    have hname : (RoutineFact.after before kind r (nodesOfAll r.children)).name = r.name := rfl
    rw [noted, List.filter_cons, hname, hfirst, List.filter_cons]
    by_cases hr : (r.callsItself && !before.contains (r.name, r.name)) = true
    · -- the routine is told, and the later ones of its name are not
      rw [if_pos hr, if_pos hr, List.map_cons, htell, ih, firstOfNames_cons, List.map_cons, List.filter_filter]
      congr 3
      apply List.filter_congr
      intro y _
      have hself : r.callsItself = true := (Bool.and_eq_true_iff.mp hr).1
      rw [hknown, hself]
      by_cases hname : y.2.name = r.name <;> simp [hname]
    · -- the routine does not call itself, or the call of its name to itself is known already
      rw [if_neg hr, if_neg hr, ih]
      congr 2
      apply List.filter_congr
      intro y _
      rw [hknown]
      by_cases hname : y.2.name = r.name
      · rw [hname]
        cases hself : r.callsItself <;> cases hbefore : before.contains (r.name, r.name) <;> simp_all
      · simp [hname]

/-- Nothing is hidden where neither the routines nor the callers before share a name. -/
theorem map_calls_noted_of_nodup {rs : List (RoutineKind × Routine)} (h : (rs.map (·.2.name)).Nodup)
    (before : List (String × String)) (hbefore : ∀ call ∈ before, ∀ x ∈ rs, x.2.name ≠ call.1) :
    (noted before rs).map (·.calls) = rs.map fun x => x.2.callees.eraseDups := by
  induction rs generalizing before with
  | nil => rfl
  | cons x rest ih =>
    obtain ⟨kind, r⟩ := x
    obtain ⟨hr, hrest⟩ := List.nodup_cons.mp h
    have hnew : newCallees before r.name r.callees = r.callees.eraseDups := by
      apply List.filter_eq_self.mpr
      intro c _
      have hunknown : (r.name, c) ∉ before := fun hcall => hbefore _ hcall (kind, r) (List.mem_cons_self ..) rfl
      simpa using hunknown
    have hlater : ∀ call ∈ before ++ r.callPairs, ∀ y ∈ rest, y.2.name ≠ call.1 := by
      intro call hcall y hy
      rcases List.mem_append.mp hcall with hcall | hcall
      · exact hbefore call hcall y (List.mem_cons_of_mem _ hy)
      · rw [← (mem_callPairs.mp hcall).1]
        exact fun heq => hr (List.mem_map.mpr ⟨y, hy, heq⟩)
    rw [noted, List.map_cons, calls_after_children, hnew, ih hrest _ hlater]
    rfl

/-- Anything told about the routines that call themselves is told of the first one of each name in the tree. -/
theorem RoutineFacts.Notes.map_selfCalling {m : Module} {facts : RoutineFacts} (h : Notes m.routines facts) {α : Type}
    {tell : RoutineFact → α} {told : RoutineKind × Routine → α}
    (htell : ∀ before kind r ns, tell (.after before kind r ns) = told (kind, r)) :
    facts.selfCalling.map tell = (firstOfNames (m.routines.filter fun x => x.2.callsItself)).map told := by
  unfold selfCalling
  rw [h.routines, filter_noted_selfCalling htell]
  simp

/-- The calls that are noted down for a routine are those of its text which no earlier routine of its name makes. Of
the routines that call themselves the first of each name is told and reported. Where no two routines have the same
name, the calls are those of the text, and all routines that call themselves are told. -/
theorem calls_attributed_to_first_of_name (m : Module) (c : Context) (before : RoutineFacts) (options : EngineOptions) :
    let facts := (walkOutline Context.surroundings RoutineFacts.hook m.outline c before).state
    facts.routines.map (·.calls)
        = m.routines.mapIdx (fun i x => newCallees (callsOf (m.routines.take i)) x.2.name x.2.callees)
      ∧ facts.selfCalling.map (fun f => (f.kind, f.declaration))
        = firstOfNames (m.routines.filter fun x => x.2.callsItself)
      ∧ (analyzeModule [Usage.recursiveRoutine] options (some m)).violations
        = Violation.sort ((firstOfNames (m.routines.filter fun x => x.2.callsItself)).map fun x =>
            Usage.recursiveRoutine.info.violation (some m) x.2.span (x.1.name ++ " '" ++ x.2.name ++ "' calls itself"))
      ∧ ((m.routines.map (·.2.name)).Nodup →
          facts.routines.map (·.calls) = m.routines.map (fun x => x.2.callees.eraseDups)
            ∧ facts.selfCalling.map (fun f => (f.kind, f.declaration))
              = m.routines.filter fun x => x.2.callsItself) := by
  have hwalk := RoutineFacts.notes_walkOutline m c before
  have hfacts := RoutineFacts.notes_factsOf options m
  have hself : (walkOutline Context.surroundings RoutineFacts.hook m.outline c before).state.selfCalling.map
      (fun f => (f.kind, f.declaration)) = firstOfNames (m.routines.filter fun x => x.2.callsItself) :=
    (hwalk.map_selfCalling fun _ _ _ _ => rfl).trans (List.map_id _)
  refine ⟨?_, hself, ?_, fun hnames => ⟨?_, ?_⟩⟩
  · rw [hwalk.routines, map_calls_noted]
    rfl
  · refine (violations_usageRule _ _ options m).trans (congrArg Violation.sort ?_)
    exact hfacts.map_selfCalling fun _ _ _ _ => rfl
  · rw [hwalk.routines]
    exact map_calls_noted_of_nodup hnames [] (by simp)
  · rw [hself]
    apply firstOfNames_of_nodup
    exact hnames.sublist (List.filter_sublist.map _)

/-- A module of procedures with one call each: their names with the names they call. -/
def callingPairs (calls : List (String × String)) : Module :=
  { Module.empty "Paths" with
    procedures := calls.map fun call => some
      { span := none, name := call.1, exported := false, parameters := []
        body := [.call { span := none, name := call.2, arguments := [] }] } }

/-- Two routines of different names, of which only the second calls itself. -/
theorem calls_attributed_to_first_of_name_distinct :
    let m := callingPairs [("Walk", "Turn"), ("Turn", "Turn")]
    let facts := (walkOutline Context.surroundings RoutineFacts.hook m.outline (Context.ofModule "Paths")
      RoutineFacts.empty).state
    (m.routines.map (·.2.name)).Nodup
      ∧ facts.routines.map (·.calls) = [["Turn"], ["Turn"]]
      ∧ facts.selfCalling.map (fun f => (f.kind, f.declaration)) = m.routines.drop 1 := by
  have hnames : ((callingPairs [("Walk", "Turn"), ("Turn", "Turn")]).routines.map (·.2.name)).Nodup := by decide
  obtain ⟨-, -, -, hdistinct⟩ := calls_attributed_to_first_of_name (callingPairs [("Walk", "Turn"), ("Turn", "Turn")])
    (Context.ofModule "Paths") RoutineFacts.empty {}
  obtain ⟨hcalls, hself⟩ := hdistinct hnames
  exact ⟨hnames, hcalls.trans (by decide), hself.trans rfl⟩

/-- Two procedures of one name call themselves. The call of the second one is not noted down, and only the first one is
told to call itself. -/
theorem second_of_name_loses_its_call :
    let m := callingPairs [("Walk", "Walk"), ("Walk", "Walk")]
    let facts := (walkOutline Context.surroundings RoutineFacts.hook m.outline (Context.ofModule "Paths")
      RoutineFacts.empty).state
    m.routines.map (fun x => x.2.callees.eraseDups) = [["Walk"], ["Walk"]]
      ∧ facts.routines.map (·.calls) = [["Walk"], []]
      ∧ (m.routines.filter fun x => x.2.callsItself).length = 2
      ∧ facts.selfCalling.length = 1 := by
  decide

end ModuleLint
