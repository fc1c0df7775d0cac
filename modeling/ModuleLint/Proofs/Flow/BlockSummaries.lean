import ModuleLint.Proofs.Flow.ReachingUses

/-!
# Summaries of blocks agree with going through them

The search for reaching definitions takes each block as a whole, by the definitions that it generates and those that
it kills. The uses in a block are found afterwards by going through its events one by one. Both do the same to every
set of definitions (`block_summaries_agree`). So from the set at the start of a block the uses are found on the way to
the set that the search has put at its end.
-/

set_option autoImplicit false

namespace ModuleLint.Flow

/-- Going through the events of a block, given the definitions that reach its start. -/
def Graph.replay (g : Graph) (b : Nat) (start : IdSet) : Replay :=
  (g.events b).foldl (Replay.step g b) { live := start, uses := [] }

/-- An event of a replay changes the live definitions as it does without the rest of the replay. -/
theorem live_step (g : Graph) (b : Nat) (r : Replay) (e : Event) :
    (Replay.step g b r e).live = liveStep g r.live e := by
  unfold Replay.step liveStep
  cases e.definition with
  | none => rfl
  | some d => rfl

/-- The events of a replay change the live definitions as they do without the rest of it. -/
theorem live_foldl_step (g : Graph) (b : Nat) (es : List Event) (r : Replay) :
    (es.foldl (Replay.step g b) r).live = liveAfter g r.live es := by
  induction es generalizing r with
  | nil => rfl
  | cons e rest ih =>
    rw [List.foldl_cons, ih, live_step]
    rfl

/-- The definitions alive after the last event are those that the summary of the block lets out. -/
theorem live_replay (g : Graph) (b : Nat) (start : IdSet) :
    (g.replay b start).live = (Transfer.ofBlock g b).apply start := by
  rw [apply_ofBlock]
  exact live_foldl_step g b (g.events b) { live := start, uses := [] }

/-- In the flow graph of a routine every definition event has the number of a definition of its variable. For every
block and every set, taking away what the block kills and adding what it generates gives the definitions that are
alive when its events have been gone through. So when the search has ended, a block that can be reached, gone
through from the set at its start, as is done to find its uses, leads to the set at its end. -/
theorem block_summaries_agree (m : Option Module) (r : Routine) :
    (∀ b, ∀ e ∈ (Graph.ofRoutine m r).events b, ∀ d, e.definition = some d →
      (Graph.ofRoutine m r).Defines d e.variableName)
    ∧ (∀ b start,
        (start.diff (Transfer.ofBlock (Graph.ofRoutine m r) b).kill).union (Transfer.ofBlock (Graph.ofRoutine m r) b).gen
          = ((Graph.ofRoutine m r).replay b start).live)
    ∧ ∀ budget s, solve (Graph.ofRoutine m r) budget = .ok s →
        usesOf (Graph.ofRoutine m r) s
          = (List.range (Graph.ofRoutine m r).blocks.length).flatMap
              (fun b => ((Graph.ofRoutine m r).replay b (s.startOf b)).uses)
        ∧ ∀ b, (Graph.ofRoutine m r).Reaches Graph.entry b →
            s.endOf b = ((Graph.ofRoutine m r).replay b (s.startOf b)).live := by
  have hg := Graph.wellFormed_ofRoutine m r
  refine ⟨fun b e he d => hg.defines_of_event he, fun b start => (live_replay _ b start).symm, ?_⟩
  intro budget s hsolve
  refine ⟨rfl, fun b hb => ?_⟩
  rw [live_replay]
  exact (Solver.settled_of_solve hg hsolve hb).2

/-- The body of the loop defines `last` and `total` anew. All four definitions that come in are alive at its start,
and the one of `total` before the loop is not at its end. -/
theorem block_summaries_agree_adding :
    ∃ e s, e ∈ (Graph.ofRoutine none adding).events 3 ∧ e.definition = some 3
      ∧ (Graph.ofRoutine none adding).Defines 3 e.variableName
      ∧ solve (Graph.ofRoutine none adding) 20 = .ok s
      ∧ (Graph.ofRoutine none adding).Reaches Graph.entry 3
      ∧ s.startOf 3 = IdSet.ofList [0, 1, 2, 3] ∧ s.endOf 3 = IdSet.ofList [0, 2, 3]
      ∧ s.endOf 3 = ((Graph.ofRoutine none adding).replay 3 (s.startOf 3)).live := by
  have hrun : (solve (Graph.ofRoutine none adding) 20).toOption.map (fun s => (s.startOf 3, s.endOf 3))
      = some (IdSet.ofList [0, 1, 2, 3], IdSet.ofList [0, 2, 3]) := by decide
  obtain ⟨s, hsolve, hsets⟩ := exists_ok_of_toOption_map hrun
  obtain ⟨hstart, hend⟩ := Prod.mk.inj hsets
  have hevent : ({ variableName := "total", line := 0, column := 0, definition := some 3 } : Event)
      ∈ (Graph.ofRoutine none adding).events 3 := by decide
  have hreaches : (Graph.ofRoutine none adding).Reaches Graph.entry 3 :=
    (Graph.reachable_iff (Graph.wellFormed_ofRoutine none adding) 3).mp (by decide)
  obtain ⟨hdefines, -, hsearch⟩ := block_summaries_agree none adding
  exact ⟨_, s, hevent, rfl, hdefines 3 _ hevent 3 rfl, hsolve, hreaches, hstart, hend,
    (hsearch 20 s hsolve).2 3 hreaches⟩

end ModuleLint.Flow
