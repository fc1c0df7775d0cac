import ModuleLint.Proofs.Flow.Simulation

/-!
# Executions of a routine are paths to the exit

The flow graph of a routine is exact. The places passed on the paths from its entry to its exit are
those of the executions of the routine (`path_iff_executes`), so the events that are shown on such
paths are the traces of the routine, no more and no fewer (`path_events_iff_traces`).
-/

set_option autoImplicit false

namespace ModuleLint.Flow

open Builder

/-- The finished graph of a routine fits its body: only the last block gets one more edge. -/
theorem fits_body (m : Option Module) (r : Routine) :
    Fits (Names.ofRoutine m r)
      (Builder.start.performAll (Names.ofRoutine m r) (r.entryEffects m)) (bodyBuilder m r)
      (finalBuilder m r) := by
  have hb := wellFormed_bodyBuilder m r
  refine ⟨⟨[], ?_⟩, fun i _ _ hne => ?_⟩
  · exact .edge (.refl _) trivial hb.current_lt hb.current_ne_exit hb.exit_lt
  · unfold finalBuilder
    rw [succs_addEdge _ _ _ _ hb.current_lt, if_neg hne]

/-- The whole graph simulates the runs of the routine. Behind the last block there is nothing, so it
does not matter what would come next. -/
theorem simulates_routine (m : Option Module) (r : Routine) (z i : Nat) :
    Simulates (Graph.ofRoutine m r) ((r.runs m).andThen .stop) Graph.entry 0 z i := by
  have hb := wellFormed_bodyBuilder m r
  have hfits := fits_body m r
  have hstart : Stage (Names.ofRoutine m r) Builder.start [] :=
    ⟨.start, show Builder.start.graph.succs _ = [] from rfl, tells_start⟩
  have hentry := simulates_performAll hstart (r.entryEffects m)
    ((body_lowers m r).steps.becomes hfits.becomes)
  have hbody := lowerStmts_simulates _ r.body _ _ _ (hstart.lowers (entry_lowers m r)) hfits
  have hsuccs : (finalBuilder m r).graph.succs (bodyBuilder m r).current = [Graph.exit] := by
    unfold finalBuilder
    rw [succs_addEdge _ _ _ _ hb.current_lt, if_pos rfl, (body_lowers m r).isOpen]
    rfl
  have hfinal := wellFormed_finalBuilder m r
  have hstop : Simulates (finalBuilder m r).graph .stop (bodyBuilder m r).current _ z i :=
    .stop hb.current_ne_exit hsuccs hfinal.events_exit hfinal.succs_exit
  have hposition : ((finalBuilder m r).graph.events (bodyBuilder m r).current).length
      = (bodyBuilder m r).position := by
    unfold finalBuilder position
    rw [events_addEdge]
  rw [hposition] at hstop
  rw [ofRoutine_eq]
  exact (hentry.trans hbody).trans hstop

/-- What ends after some runs has passed one of them. -/
theorem Runs.andThen_stop_andThen {p q : Runs} {t : List Nat} {e : Ending} :
    (p.andThen .stop).andThen q t e ↔ e = .returned ∧ ∃ ending, p t ending := by
  constructor
  · rintro (⟨⟨hp, -⟩ | ⟨u, v, rfl, hp, ⟨rfl, -⟩⟩, he⟩ | ⟨u, v, rfl, ⟨-, hne⟩ | ⟨_, _, -, -, -, hne⟩, -⟩)
    · exact ⟨he, .returned, hp⟩
    · exact ⟨he, .goesOn, by simpa using hp⟩
    · cases hne
    · cases hne
  · rintro ⟨he, ending, hp⟩
    cases ending with
    | goesOn => exact .inl ⟨.inr ⟨t, [], by simp, hp, rfl, rfl⟩, he⟩
    | returned => exact .inl ⟨.inl ⟨hp, rfl⟩, he⟩

/-- The places along the paths from the entry to the exit are those of the executions. -/
theorem path_iff_executes (m : Option Module) (r : Routine) (places : List Nat) :
    (∃ path, (Graph.ofRoutine m r).Path Graph.entry path Graph.exit
      ∧ path.flatMap (Graph.ofRoutine m r).stretch = places) ↔ r.Executes m places := by
  have hsim := simulates_routine m r Graph.exit 0
  constructor
  · rintro ⟨path, hpath, rfl⟩
    have hcompletes : (Graph.ofRoutine m r).Completes path.length Graph.entry 0
        (path.flatMap (Graph.ofRoutine m r).stretch) .returned :=
      ⟨rfl, path, hpath, Nat.le_refl _, by simp⟩
    exact (Runs.andThen_stop_andThen.mp (hsim.sound _ _ _ hcompletes)).2
  · intro hruns
    obtain ⟨k, -, path, hpath, -, hplaces⟩ :=
      hsim.complete 0 places .returned (Runs.andThen_stop_andThen.mpr ⟨rfl, hruns⟩)
    exact ⟨path, hpath, by rw [hplaces, List.drop_zero]⟩

/-! ## Events along paths -/

/-- The events of the script are found at the places of the graph. -/
theorem eventAt_place (m : Option Module) (r : Routine) {b j : Nat}
    (hj : j < ((Graph.ofRoutine m r).events b).length) :
    r.eventAt m ((Graph.ofRoutine m r).offset b + j) = ((Graph.ofRoutine m r).events b)[j]? := by
  have hb : b < (finalBuilder m r).size := by
    rcases Nat.lt_or_ge b (finalBuilder m r).size with hlt | hge
    · exact hlt
    · rw [ofRoutine_eq, events_of_size_le _ hge] at hj
      cases hj
  unfold Routine.eventAt
  rw [← (tells_finalBuilder m r).events, ← ofRoutine_eq]
  exact Graph.getElem?_place _ hb hj

/-- The places of a block hold its events. -/
theorem map_stretch (m : Option Module) (r : Routine) (b : Nat) :
    ((Graph.ofRoutine m r).stretch b).map (r.eventAt m)
      = ((Graph.ofRoutine m r).events b).map some := by
  apply List.ext_getElem?
  intro j
  rcases Nat.lt_or_ge j ((Graph.ofRoutine m r).events b).length with hlt | hge
  · have hscript := eventAt_place m r hlt
    simp only [Graph.stretch, List.getElem?_map, List.getElem?_range' hlt, Option.map_some,
      Nat.one_mul, hscript, List.getElem?_eq_getElem hlt]
  · rw [List.getElem?_eq_none (by simpa [Graph.stretch] using hge),
      List.getElem?_eq_none (by simpa using hge)]

/-- The events along some blocks are those at the places along them. -/
theorem map_flatMap_stretch (m : Option Module) (r : Routine) (path : List Nat) :
    (path.flatMap (Graph.ofRoutine m r).stretch).map (r.eventAt m)
      = (path.flatMap (Graph.ofRoutine m r).events).map some := by
  rw [List.map_flatMap, List.map_flatMap]
  exact List.flatMap_congr fun b _ => map_stretch m r b

/-- Lowering a routine keeps exactly its traces: an event sequence is shown on some path from the
entry to the exit if and only if some execution of the routine shows it. -/
theorem path_events_iff_traces (m : Option Module) (r : Routine) (trace : List Event) :
    (∃ path, (Graph.ofRoutine m r).Path Graph.entry path Graph.exit
      ∧ path.flatMap (Graph.ofRoutine m r).events = trace) ↔ r.Traces m trace := by
  constructor
  · rintro ⟨path, hpath, rfl⟩
    exact ⟨_, (path_iff_executes m r _).mp ⟨path, hpath, rfl⟩, map_flatMap_stretch m r path⟩
  · rintro ⟨places, hruns, htrace⟩
    obtain ⟨path, hpath, rfl⟩ := (path_iff_executes m r places).mpr hruns
    rw [map_flatMap_stretch] at htrace
    exact ⟨path, hpath, List.map_injective_iff.mpr (fun _ _ h => Option.some.inj h) htrace⟩

end ModuleLint.Flow
