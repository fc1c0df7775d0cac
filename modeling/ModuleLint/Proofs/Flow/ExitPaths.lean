import ModuleLint.Proofs.Flow.Reachability
import ModuleLint.Proofs.Flow.Simulation

/-!
# Every block leads to the exit

From each block of the flow graph of a routine there is a path to the exit (`reaches_exit`), also from
blocks that the entry does not lead to. So a path that has come to some block can always be completed.

Lowering a part of a routine keeps this up to the block that is current afterwards
(`Builder.Progress`): each block that the part could connect leads to the exit or to that block.
-/

set_option autoImplicit false

namespace ModuleLint.Flow

variable {names : Names}

namespace Builder

/-- Every block that lowering from `b` to `b'` could connect leads to the exit or to the block that
is current in the end. -/
def Progress (b b' : Builder) : Prop :=
  ∀ i, b.inner i → i < b'.size →
    b'.graph.Reaches i Graph.exit ∨ b'.graph.Reaches i b'.current

variable {b b' b'' : Builder} {es : List Effect}

/-- Paths are kept by further steps. -/
theorem Steps.reaches {inner : Nat → Prop} (h : Steps names inner b es b') {i j : Nat}
    (hpath : b.graph.Reaches i j) : b'.graph.Reaches i j := by
  obtain ⟨path, hpath⟩ := hpath
  refine ⟨path, ?_⟩
  induction hpath with
  | single a => exact .single a
  | cons edge _ ih => exact .cons (h.succs_subset _ edge) ih

/-- Progress adds up: what led to the block between the two parts leads on from there. -/
theorem Progress.trans (h : Progress b b') (h' : Progress b' b'') (hl : Lowers names b' es b'')
    (hb' : b'.current < b'.size) : Progress b b'' := by
  intro i hi hlt
  have hsize := hl.steps.size_le
  by_cases hin : b'.inner i
  · exact h' i hin hlt
  · have hold : i < b'.size := by
      unfold Builder.inner at hin
      omega
    rcases h i hi hold with hexit | hcur
    · exact .inl (hl.steps.reaches hexit)
    · have hcur' := hl.steps.reaches hcur
      rcases h' b'.current (.inl rfl) (by omega) with hexit | hlast
      · exact .inl (hcur'.trans hexit)
      · exact .inr (hcur'.trans hlast)

/-- Nothing new has to lead anywhere. -/
theorem Progress.of_eq (hsize : b'.size = b.size) (hcurrent : b'.current = b.current) :
    Progress b b' := by
  intro i hi hlt
  have hcur : i = b.current := by
    unfold Builder.inner at hi
    omega
  rw [hcur, hcurrent]
  exact .inr (.refl _ _)

/-- Effects open no block. -/
theorem Progress.performAll (b : Builder) (es : List Effect) :
    Progress b (b.performAll names es) :=
  .of_eq (size_performAll b es) (current_performAll b es)

/-- After the end of a routine the block before it leads to the exit. -/
theorem Progress.endRoutine (hb : b.WellFormed) : Progress b b.endRoutine := by
  intro i hi hlt
  have hsize : b.endRoutine.size = b.size + 1 := by simp [Builder.endRoutine]
  have hcur : b.endRoutine.current = b.size := by simp [Builder.endRoutine]
  by_cases hi' : i = b.current
  · refine .inl ((Graph.Reaches.refl _ i).tail ?_)
    unfold Builder.endRoutine
    rw [succs_startBlock, succs_addEdge _ _ _ _ hb.current_lt, if_pos hi']
    simp
  · have hnew : i = b.size := by
      unfold Builder.inner at hi
      omega
    rw [hcur, hnew]
    exact .inr (.refl _ _)

end Builder

open Builder

/-- What lowering a block of statements does for progress, whatever it is lowered into. -/
def ProgressStmts (names : Names) (body : List Stmt) : Prop :=
  ∀ b : Builder, b.WellFormed → b.Open → Progress b (lowerStmts names body b)

/-- From everywhere in a loop the header can be reached, and from there the block after it. -/
theorem progress_loop {body : List Stmt} (hlow : LowersStmts names body)
    (hbody : ProgressStmts names body) (head : List Effect) {b : Builder} (hb : b.WellFormed) :
    Progress b (lowerLoop names head body b) := by
  have hlt := hb.current_lt
  have hinside : Lowers names b head (loopInside names head b) := lowers_loopInside hb head
  have hin := hinside.steps.wellFormed hb
  have hlooped := hlow _ hin hinside.isOpen
  have hprogress := hbody _ hin hinside.isOpen
  have hb' := hlooped.steps.wellFormed hin
  rw [lowerLoop_eq]
  generalize lowerStmts names body (loopInside names head b) = looped at *
  have hsize := hlooped.steps.size_le
  have hcur := hlooped.steps.current_eq_or
  have hlt' := hb'.current_lt
  simp only [size_loopInside, current_loopInside] at hsize hcur
  have hclose : Steps names (fun _ => True) looped [] (looped.endLoop b.size) :=
    (Steps.refl looped).endLoop hb' trivial trivial (by omega) (Nat.ne_of_gt hb.exit_lt)
  have hsuccs := succs_endLoop hb' (show b.size < looped.size by omega) (by omega)
  -- the header leads past the loop, and so do the block before it and the end of the body
  have hheader : (looped.endLoop b.size).graph.Reaches b.size looped.size := by
    refine (Graph.Reaches.refl _ _).tail ?_
    rw [hsuccs, if_pos rfl]
    simp
  have henter : (looped.endLoop b.size).graph.Reaches b.current looped.size := by
    have hedge : b.size ∈ (loopInside names head b).graph.succs b.current := by
      rw [succs_loopInside hb, if_neg (by omega), if_pos rfl]
      simp
    have hedge' := hclose.succs_subset _ (hlooped.steps.succs_subset _ hedge)
    exact ((Graph.Reaches.refl _ _).tail hedge').trans hheader
  have hback : (looped.endLoop b.size).graph.Reaches looped.current looped.size := by
    refine Graph.Reaches.trans ((Graph.Reaches.refl _ _).tail ?_) hheader
    rw [hsuccs, if_neg (by omega), if_pos rfl]
    simp
  intro i hi hlt
  rw [size_endLoop] at hlt
  rw [current_endLoop]
  by_cases h₁ : i = b.current
  · exact .inr (h₁ ▸ henter)
  by_cases h₂ : i = b.size
  · exact .inr (h₂ ▸ hheader)
  by_cases h₃ : i = looped.size
  · exact .inr (h₃ ▸ .refl _ _)
  have hbodyBlock : (loopInside names head b).inner i := by
    unfold Builder.inner at hi ⊢
    rw [current_loopInside, size_loopInside]
    omega
  rcases hprogress i hbodyBlock (by omega) with hexit | hend
  · exact .inl (hclose.reaches hexit)
  · exact .inr ((hclose.reaches hend).trans hback)

namespace Branching

/-- A block leads to the exit or to the end of one of the branches so far. -/
def LeadsOn (br : Branching) (i : Nat) : Prop :=
  br.builder.graph.Reaches i Graph.exit ∨ ∃ e ∈ br.ends, br.builder.graph.Reaches i e

variable {br br' : Branching} {scope : Nat → Prop} {es : List Effect}

/-- What leads on keeps leading on while further branches are lowered. -/
theorem Advances.leadsOn (h : Advances names br es br') {i : Nat} (hi : br.LeadsOn i) :
    br'.LeadsOn i := by
  obtain ⟨added, heq, -⟩ := h.ends_eq
  rcases hi with hexit | ⟨e, he, hend⟩
  · exact .inl (h.steps.reaches hexit)
  · exact .inr ⟨e, by rw [heq]; exact List.mem_append_left _ he, h.steps.reaches hend⟩

/-- A branch lets its test lead on. -/
theorem leadsOn_take {body : List Stmt} (hlow : LowersStmts names body)
    (hbody : ProgressStmts names body) (kind : BlockKind) (h : br.WellFormed)
    (hold : ∀ i, scope i → i < br.builder.size → i ≠ br.test → br.LeadsOn i) (i : Nat)
    (hi : scope i) (hlt : i < (br.take names kind body).builder.size) :
    (br.take names kind body).LeadsOn i := by
  have htake := advances_take hlow kind h
  have htest := h.test_lt
  have hstart : Builder.Steps names br.inner br.builder [] (br.builder.startAfter br.test kind) :=
    (Steps.refl _).startAfter kind (.inl rfl) h.test_lt h.test_ne_exit
  have hwf := hstart.wellFormed h.builder
  have hopen := open_startAfter br.builder kind h.test_lt
  have hprogress := hbody _ hwf hopen
  have hend : (lowerStmts names body (br.builder.startAfter br.test kind)).current
      ∈ (br.take names kind body).ends :=
    List.mem_append_right _ (List.mem_singleton.mpr rfl)
  -- blocks of the branch lead to the exit or to its end
  have hnew : ∀ i, br.builder.size ≤ i → i < (br.take names kind body).builder.size →
      (br.take names kind body).LeadsOn i := by
    intro i hge hlt
    have hinner : (br.builder.startAfter br.test kind).inner i := by
      unfold Builder.inner
      rw [current_startAfter, size_startAfter]
      omega
    rcases hprogress i hinner hlt with hexit | hcur
    · exact .inl hexit
    · exact .inr ⟨_, hend, hcur⟩
  by_cases hge : br.builder.size ≤ i
  · exact hnew i hge hlt
  by_cases heq : i = br.test
  · have hedge := succs_take_test hlow kind h
    have hstep : (br.take names kind body).builder.graph.Reaches i br.builder.size := by
      refine (Graph.Reaches.refl _ _).tail ?_
      rw [heq, hedge]
      simp
    have hfirst : br.builder.size < (br.take names kind body).builder.size := by
      have hsize := (hlow _ hwf hopen).steps.size_le
      rw [size_startAfter] at hsize
      exact hsize
    rcases hnew _ (Nat.le_refl _) hfirst with hexit | ⟨e, he, hreach⟩
    · exact .inl (hstep.trans hexit)
    · exact .inr ⟨e, he, hstep.trans hreach⟩
  · exact htake.leadsOn (hold i hi (by omega) heq)

/-- After a further condition with its block everything leads on that did before, and so do the new blocks. -/
theorem leadsOn_alternative {body : List Stmt} (hlow : LowersStmts names body)
    (hbody : ProgressStmts names body) (condition : Expr) (h : br.WellFormed)
    (hold : ∀ i, scope i → i < br.builder.size → br.LeadsOn i) (i : Nat) (hi : scope i)
    (hlt : i < (lowerAlternative names (.mk condition body) br).builder.size) :
    (lowerAlternative names (.mk condition body) br).LeadsOn i := by
  have hnext : Advances names br condition.effects (br.nextTest names condition) :=
    advances_nextTest condition h
  rw [lowerAlternative_eq] at hlt ⊢
  refine leadsOn_take hlow hbody .elseIfBranch hnext.wellFormed (fun i hi hlt hne => ?_) i hi hlt
  have hsize : (br.nextTest names condition).builder.size = br.builder.size + 1 := by
    simp [nextTest]
  have hne' : i ≠ br.builder.size := hne
  exact hnext.leadsOn (hold i hi (by omega))

/-- After the last branch everything leads on that did before, and where there is none the last test does. -/
theorem leadsOn_finish {otherwise : List Stmt} (hlow : LowersStmts names otherwise)
    (hbody : ProgressStmts names otherwise) (h : br.WellFormed)
    (hold : ∀ i, scope i → i < br.builder.size → br.LeadsOn i) (i : Nat) (hi : scope i)
    (hlt : i < (br.finish names otherwise).builder.size) :
    (br.finish names otherwise).LeadsOn i := by
  cases otherwise with
  | nil =>
    rcases hold i hi hlt with hexit | ⟨e, he, hend⟩
    · exact .inl hexit
    · exact .inr ⟨e, List.mem_append_left _ he, hend⟩
  | cons s rest =>
    exact leadsOn_take hlow hbody .elseBranch h (fun i hi hlt _ => hold i hi hlt) i hi hlt

end Branching

/-- What lowering further conditions does for progress. -/
def ProgressAlternatives (names : Names) (alternatives : List Alternative) : Prop :=
  ∀ (scope : Nat → Prop) (br : Branching), br.WellFormed →
    (∀ i, scope i → i < br.builder.size → br.LeadsOn i) →
    ∀ i, scope i → i < (lowerAlternatives names alternatives br).builder.size →
      (lowerAlternatives names alternatives br).LeadsOn i

/-- A branching statement makes progress when its parts do. -/
theorem progress_branches {body otherwise : List Stmt} {alternatives : List Alternative}
    (hbody : ProgressStmts names body) (halternatives : ProgressAlternatives names alternatives)
    (hotherwise : ProgressStmts names otherwise) {b : Builder} (hb : b.WellFormed) :
    Progress b (lowerBranches names body alternatives otherwise b) := by
  have hlow := lowerStmts_lowers names body
  have hlow' := lowerStmts_lowers names otherwise
  have hfirst := Branching.wellFormed_opened hb
  have htake := Branching.advances_take hlow .thenBranch hfirst
  have halts := lowerAlternatives_advances names alternatives _ htake.wellFormed
  have hdone := Branching.finished_finish hlow' halts.wellFormed
  have hall := Branching.leadsOn_finish hlow' hotherwise halts.wellFormed
    (halternatives b.inner _ htake.wellFormed
      (Branching.leadsOn_take hlow hbody .thenBranch hfirst fun i hi hlt hne => by
        -- before the first branch only the test is there
        exact absurd (hi.resolve_right (Nat.not_le.mpr hlt)) hne))
  intro i hi hlt
  unfold lowerBranches at hlt ⊢
  generalize (lowerAlternatives names alternatives
    ((Branching.opened b).take names .thenBranch body)).finish names otherwise = last at *
  have hmeet : Steps names (fun _ => True) last.builder [] (last.builder.meet last.ends) :=
    (Steps.refl _).meet _ (fun _ _ => trivial) hdone.lt_of_mem hdone.ne_exit_of_mem
  simp only [size_meet, current_meet] at hlt ⊢
  by_cases hjoin : i = last.builder.size
  · exact .inr (hjoin ▸ .refl _ _)
  · rcases hall i hi (by omega) with hexit | ⟨e, he, hend⟩
    · exact .inl (hmeet.reaches hexit)
    · refine .inr ((hmeet.reaches hend).tail ?_)
      rw [succs_meet _ _ _ hdone.lt_of_mem hdone.nodup, if_pos he]
      simp

/-! ## Progress of statements -/

mutual

/-- Lowering a statement makes progress, by the recursion over its parts. -/
theorem lowerStmt_progress (names : Names) (s : Stmt) (b : Builder) (hb : b.WellFormed)
    (ho : b.Open) : Progress b (lowerStmt names s b) := by
  match s with
  | .hole _ => exact .of_eq rfl rfl
  | .generic _ => exact .of_eq rfl rfl
  | .declare d =>
    rw [lowerStmt_declare]
    exact .performAll b _
  | .assign a =>
    rw [lowerStmt_assign]
    exact .performAll b _
  | .call c =>
    rw [lowerStmt_call]
    exact .performAll b _
  | .leave span value =>
    rw [lowerStmt_leave]
    have hread : Lowers names b value.effects _ := .performAll ho _
    have hb' := hread.steps.wellFormed hb
    have hend : Lowers names (b.performAll names value.effects) [] _ := .endRoutine hb'
    exact (Progress.performAll b _).trans (.endRoutine hb') hend hb'.current_lt
  | .loopWhile span condition body =>
    rw [lowerStmt_loopWhile]
    exact progress_loop (lowerStmts_lowers names body) (lowerStmts_progress names body) _ hb
  | .loopFor span counter first last collection body =>
    rw [lowerStmt_loopFor]
    have hread : Lowers names b (first.effects ++ last.effects ++ collection.effects) _ :=
      .performAll ho _
    have hb' := hread.steps.wellFormed hb
    have hloop := progress_loop (lowerStmts_lowers names body) (lowerStmts_progress names body)
      (effectsOfTarget .loopCounter counter) hb'
    exact (Progress.performAll b _).trans hloop
      (lowers_loop (lowerStmts_lowers names body) _ hb') hb'.current_lt
  | .branch span condition body alternatives otherwise =>
    rw [lowerStmt_branch]
    have hread : Lowers names b condition.effects _ := .performAll ho _
    have hb' := hread.steps.wellFormed hb
    have hparts := progress_branches (lowerStmts_progress names body)
      (lowerAlternatives_progress names alternatives) (lowerStmts_progress names otherwise) hb'
    have hlowers := lowers_branches (lowerStmts_lowers names body)
      (lowerAlternatives_advances names alternatives) (lowerStmts_lowers names otherwise) hb'
    exact (Progress.performAll b _).trans hparts hlowers hb'.current_lt

/-- A block of statements makes progress one statement after another. -/
theorem lowerStmts_progress (names : Names) (body : List Stmt) (b : Builder) (hb : b.WellFormed)
    (ho : b.Open) : Progress b (lowerStmts names body b) := by
  match body with
  | [] => exact .of_eq rfl rfl
  | s :: rest =>
    have hs := lowerStmt_lowers names s b hb ho
    have hb' := hs.steps.wellFormed hb
    have hrest := lowerStmts_progress names rest _ hb' hs.isOpen
    exact (lowerStmt_progress names s b hb ho).trans hrest
      (lowerStmts_lowers names rest _ hb' hs.isOpen) hb'.current_lt

/-- Further conditions make progress one after another. -/
theorem lowerAlternatives_progress (names : Names) (alternatives : List Alternative) :
    ProgressAlternatives names alternatives := by
  intro scope br h hold
  match alternatives with
  | [] => exact hold
  | .mk condition body :: rest =>
    have hlow := lowerStmts_lowers names body
    have hone := Branching.advances_alternative hlow condition h
    exact lowerAlternatives_progress names rest scope _ hone.wellFormed
      (Branching.leadsOn_alternative hlow (lowerStmts_progress names body) condition h hold)

end

/-- From every block of the graph of a routine there is a path to the exit. -/
theorem reaches_exit (m : Option Module) (r : Routine) {i : Nat}
    (hi : i < (Graph.ofRoutine m r).blocks.length) :
    (Graph.ofRoutine m r).Reaches i Graph.exit := by
  have hb := wellFormed_bodyBuilder m r
  have hentry := entry_lowers m r
  have hbody := body_lowers m r
  have hwf := hentry.steps.wellFormed .start
  have hprogress : Progress Builder.start (bodyBuilder m r) :=
    (Progress.performAll Builder.start (r.entryEffects m)).trans
      (lowerStmts_progress (Names.ofRoutine m r) r.body _ hwf hentry.isOpen) hbody hwf.current_lt
  have hlast : Steps (Names.ofRoutine m r) (fun _ => True) (bodyBuilder m r) [] (finalBuilder m r) :=
    .edge (.refl _) trivial hb.current_lt hb.current_ne_exit hb.exit_lt
  have hsize : (finalBuilder m r).size = (bodyBuilder m r).size := by simp [finalBuilder]
  rw [ofRoutine_eq] at hi ⊢
  by_cases hexit : i = Graph.exit
  · exact hexit ▸ .refl _ _
  · have hinner : Builder.start.inner i := by
      rcases Nat.eq_zero_or_pos i with h0 | hpos
      · exact .inl h0
      · exact .inr (show 2 ≤ i by unfold Graph.exit at hexit; omega)
    have hlt : i < (bodyBuilder m r).size := by rw [← hsize]; exact hi
    rcases hprogress i hinner hlt with hreach | hreach
    · exact hlast.reaches hreach
    · refine (hlast.reaches hreach).tail ?_
      unfold finalBuilder
      rw [succs_addEdge _ _ _ _ hb.current_lt, if_pos rfl]
      simp

end ModuleLint.Flow
