import ModuleLint.Proofs.Flow.ExitPaths

/-!
# What the marks of the search say

Whatever graph the search runs on, as long as its edges lead to blocks of the graph: it ends by itself, and a block is
marked exactly if there is a path to it. In the flow graph of a routine every block leads on to the exit, so there the
marked blocks are those on the paths from the entry to the exit (`marks_tell_paths`).
-/

set_option autoImplicit false

namespace ModuleLint.Flow

namespace Graph

variable {g : Graph} {a b c : Nat} {path : List Nat}

/-- A path contains the block that it starts from. -/
theorem Path.head_mem (h : g.Path a path b) : a ∈ path := by
  cases h with
  | single => exact List.mem_cons_self
  | cons => exact List.mem_cons_self

/-- A path can be cut at each of its blocks. -/
theorem Path.reaches_of_mem (h : g.Path a path b) (hc : c ∈ path) : g.Reaches a c ∧ g.Reaches c b := by
  induction h with
  | single a =>
    rw [List.mem_singleton.mp hc]
    exact ⟨.refl g a, .refl g a⟩
  | @cons a d b rest edge tail ih =>
    rcases List.mem_cons.mp hc with rfl | hc
    · exact ⟨.refl g c, _, .cons edge tail⟩
    · obtain ⟨hfront, hback⟩ := ih hc
      exact ⟨((Reaches.refl g a).tail edge).trans hfront, hback⟩

/-- Some path passes a block exactly if there are a path to the block and one from there on. -/
theorem exists_path_mem_iff :
    (∃ path, g.Path a path b ∧ c ∈ path) ↔ g.Reaches a c ∧ g.Reaches c b := by
  constructor
  · rintro ⟨path, hpath, hc⟩
    exact hpath.reaches_of_mem hc
  · rintro ⟨⟨front, hfront⟩, ⟨back, hback⟩⟩
    exact ⟨_, hfront.append hback, List.mem_append_right _ hback.head_mem⟩

/-- A mark that is missing counts as unset. -/
theorem getD_false_eq_true_iff (marks : List Bool) (b : Nat) : marks.getD b false = true ↔ marks[b]? = some true := by
  rw [List.getD_eq_getElem?_getD]
  cases marks[b]? <;> simp

end Graph

/-- In a graph whose edges lead to its blocks, the search from a block comes to its end after one round for each block
that it marks. It tells for each block of the graph whether it is marked, and marks exactly the blocks to which there is
a path, of any length, from its start. In the flow graph of a routine the blocks that are marked from the entry are
those on some path from the entry to the exit. -/
theorem marks_tell_paths :
    (∀ (g : Graph) (start : Nat), g.EdgesInside → start < g.blocks.length →
      (∃ last, Graph.Search.Ends g (Graph.Search.start g start) ((g.reachableFrom start).count true) last
        ∧ last.seen = g.reachableFrom start)
      ∧ (g.reachableFrom start).length = g.blocks.length
      ∧ ∀ b, (g.reachableFrom start)[b]? = some true ↔ g.Reaches start b)
    ∧ ∀ (m : Option Module) (r : Routine) (b : Nat),
        (Graph.ofRoutine m r).reachable[b]? = some true
          ↔ ∃ path, (Graph.ofRoutine m r).Path Graph.entry path Graph.exit ∧ b ∈ path := by
  constructor
  · intro g start hg hstart
    obtain ⟨last, hends, hseen, hexplored⟩ := Graph.exists_ends_reachableFrom hg hstart
    refine ⟨⟨last, hends, hseen⟩, ?_, fun b => ?_⟩
    · rw [← hseen]
      exact hexplored.length_eq
    · rw [← Graph.getD_false_eq_true_iff]
      exact Graph.reachableFrom_iff hg hstart b
  · intro m r b
    have hg := Graph.wellFormed_ofRoutine m r
    rw [← Graph.getD_false_eq_true_iff, Graph.reachable_iff hg, Graph.exists_path_mem_iff]
    constructor
    · intro hb
      exact ⟨hb, reaches_exit m r (hg.lt_of_reaches hb)⟩
    · exact And.left

/-- Two loops that share a block, one of them around a single block, and a block that leads into them and that nothing
leads to. -/
def loopedGraph : Graph :=
  { blocks :=
      [{ kind := .entry, succs := [2] }, { kind := .exit }, { kind := .loopHeader, succs := [3, 2, 1] },
       { kind := .loopBody, succs := [2] }, { kind := .unreachable, succs := [3, 4] }]
    definitions := [] }

/-- A graph with a loop, an exit and a block that no edge leads to. -/
theorem marks_tell_paths_loopedGraph :
    loopedGraph.EdgesInside ∧ Graph.entry < loopedGraph.blocks.length
      ∧ loopedGraph.reachable = [true, true, true, true, false]
      ∧ (∃ last, Graph.Search.Ends loopedGraph (Graph.Search.start loopedGraph Graph.entry) 4 last
        ∧ last.seen = loopedGraph.reachable)
      ∧ loopedGraph.Reaches Graph.entry 3 ∧ ¬ loopedGraph.Reaches Graph.entry 4 := by
  have hedges : loopedGraph.EdgesInside := by decide
  have hentry : Graph.entry < loopedGraph.blocks.length := by decide
  obtain ⟨hends, -, hmarks⟩ := marks_tell_paths.1 loopedGraph Graph.entry hedges hentry
  refine ⟨hedges, hentry, by decide, hends, ?_, ?_⟩
  · exact (hmarks 3).mp (by decide)
  · rw [← hmarks 4]
    decide

end ModuleLint.Flow
