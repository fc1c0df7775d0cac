import ModuleLint.Distinct
import ModuleLint.Proofs.Flow.Reachability
import ModuleLint.Proofs.Flow.Replay

/-!
# The solution of the flow equations

When the search for reaching definitions ends, the set at the start of each block holds exactly the
definitions that are in force at the end of some path from the entry up to that block
(`contains_start_iff`).

The flags of the search tell which blocks wait (`Flagged`), so putting a block into the queue is the same as inserting
it unless it is there (`Flagged.enqueue`, `Flagged.next`).

Two more invariants are kept by each evaluation of a block. Whatever stands in a set is justified by a path
(`start_sound`, `end_sound`), and every reachable block whose equations do not hold waits in the queue
(`settled_or_waits`). The first gives one direction of the result whatever the queue holds. The second
gives the other direction once the queue is empty: the sets then satisfy all equations, and a
definition can be followed along the path.
-/

set_option autoImplicit false

namespace ModuleLint.Flow

/-- Inserting several adds just these. -/
theorem mem_foldl_insertNew {α : Type} [BEq α] [LawfulBEq α] (xs ys : List α) (y : α) :
    y ∈ ys.foldl insertNew xs ↔ y ∈ xs ∨ y ∈ ys := by
  induction ys generalizing xs with
  | nil => simp
  | cons x rest ih => rw [List.foldl_cons, ih, mem_insertNew, List.mem_cons, or_assoc]

/-- The definition of an event is one of its variable. -/
theorem Graph.WellFormed.defines_of_event {g : Graph} (hg : g.WellFormed) {b d : Nat} {e : Event}
    (he : e ∈ g.events b) (hd : e.definition = some d) : g.Defines d e.variableName := by
  obtain ⟨x, hx, hname, -⟩ := hg.definition_of_event b e he d hd
  unfold Graph.Defines
  rw [hx, Option.map_some, hname]

namespace Solver

variable {g : Graph} {s : Solver} {b c d : Nat} {rest : List Nat}

/-- The set at the start of a block. -/
def startOf (s : Solver) (b : Nat) : IdSet := s.starts.getD b IdSet.empty

/-- The set at the end of a block. -/
def endOf (s : Solver) (b : Nat) : IdSet := s.ends.getD b IdSet.empty

/-- The incoming set of a block holds what comes out of its reachable predecessors. -/
theorem contains_incoming (s : Solver) (g : Graph) (reachable : List Bool) (b d : Nat) :
    (s.incoming g reachable b).contains d = true
      ↔ ∃ p ∈ g.preds b, reachable.getD p false = true ∧ (s.endOf p).contains d = true := by
  have hfold : ∀ (ps : List Nat) (acc : IdSet),
      (ps.foldl (fun acc p => if reachable.getD p false then acc.union (s.endOf p) else acc)
        acc).contains d = true
        ↔ acc.contains d = true
          ∨ ∃ p ∈ ps, reachable.getD p false = true ∧ (s.endOf p).contains d = true := by
    intro ps
    induction ps with
    | nil => simp
    | cons p rest ih =>
      intro acc
      rw [List.foldl_cons, ih]
      cases hp : reachable.getD p false with
      | true =>
        simp only [if_true, IdSet.contains_union, Bool.or_eq_true, List.mem_cons,
          exists_eq_or_imp, hp, true_and, or_assoc]
      | false =>
        simp only [Bool.false_eq_true, if_false, List.mem_cons, exists_eq_or_imp, hp, false_and,
          false_or]
  unfold incoming
  refine (hfold (g.preds b) IdSet.empty).trans ?_
  simp

/-- The incoming set depends on the ends of the predecessors only. -/
theorem incoming_congr {s s' : Solver} {reachable : List Bool}
    (h : ∀ p ∈ g.preds b, s.endOf p = s'.endOf p) :
    s.incoming g reachable b = s'.incoming g reachable b := by
  apply IdSet.ext_contains
  intro d
  rw [Bool.eq_iff_iff, contains_incoming, contains_incoming]
  constructor
  · rintro ⟨p, hp, hr, hd⟩
    exact ⟨p, hp, hr, h p hp ▸ hd⟩
  · rintro ⟨p, hp, hr, hd⟩
    exact ⟨p, hp, hr, (h p hp).symm ▸ hd⟩

/-! ## Flags -/

/-- The flags tell which blocks wait, and no block waits twice. -/
structure Flagged (g : Graph) (s : Solver) : Prop where
  length_queued : s.queued.length = g.blocks.length
  nodup_queue : s.queue.Nodup
  queued_iff : ∀ c, s.queued.getD c false = true ↔ c ∈ s.queue

/-- What a flag is after one of them has been set. -/
theorem getD_set_flag {flags : List Bool} (hb : b < flags.length) (flag : Bool) (c : Nat) :
    (flags.set b flag).getD c false = if c = b then flag else flags.getD c false := by
  rw [List.getD_eq_getElem?_getD, List.getElem?_set]
  by_cases hc : c = b
  · subst hc
    simp [hb]
  · simp [hc, Ne.symm hc]

/-- A block that waits already is left where it is, and another one comes to the end. -/
theorem Flagged.enqueue (h : Flagged g s) (hb : b < g.blocks.length) :
    Flagged g (s.enqueue b) ∧ (s.enqueue b).queue = insertNew s.queue b := by
  have hwaits := h.queued_iff b
  unfold Solver.enqueue insertNew
  by_cases hmem : b ∈ s.queue
  · rw [if_pos (hwaits.mpr hmem), if_pos (List.contains_iff_mem.mpr hmem)]
    exact ⟨h, rfl⟩
  · rw [if_neg (mt hwaits.mp hmem), if_neg (mt List.contains_iff_mem.mp hmem)]
    have hnodup : (s.queue ++ [b]).Nodup := by
      refine List.nodup_append.mpr ⟨h.nodup_queue, List.pairwise_singleton _ b, ?_⟩
      intro x hx y hy hxy
      rw [List.mem_singleton.mp hy] at hxy
      exact hmem (hxy ▸ hx)
    refine ⟨⟨List.length_set.trans h.length_queued, hnodup, fun c => ?_⟩, rfl⟩
    rw [getD_set_flag (by rw [h.length_queued]; exact hb), List.mem_append, List.mem_singleton, ← h.queued_iff]
    by_cases hc : c = b
    · simp [hc]
    · simp [hc]

/-- Blocks that are put into the queue one after another come to its end, as far as they do not wait already. -/
theorem Flagged.foldl_enqueue {bs : List Nat} (h : Flagged g s) (hbs : ∀ b ∈ bs, b < g.blocks.length) :
    Flagged g (bs.foldl Solver.enqueue s) ∧ (bs.foldl Solver.enqueue s).queue = bs.foldl insertNew s.queue := by
  induction bs generalizing s with
  | nil => exact ⟨h, rfl⟩
  | cons b rest ih =>
    rw [List.forall_mem_cons] at hbs
    obtain ⟨hone, hqueue⟩ := h.enqueue hbs.1
    rw [List.foldl_cons, List.foldl_cons, ← hqueue]
    exact ih hone hbs.2

/-- The flags after those of some blocks have been set. -/
theorem foldl_set_flag {bs : List Nat} {flags : List Bool} (hbs : ∀ b ∈ bs, b < flags.length) :
    (bs.foldl (fun flags b => flags.set b true) flags).length = flags.length
      ∧ ∀ c, (bs.foldl (fun flags b => flags.set b true) flags).getD c false = true
          ↔ c ∈ bs ∨ flags.getD c false = true := by
  induction bs generalizing flags with
  | nil => simp
  | cons b rest ih =>
    rw [List.forall_mem_cons] at hbs
    have hrest : ∀ c ∈ rest, c < (flags.set b true).length := by
      rw [List.length_set]
      exact hbs.2
    obtain ⟨hlength, hflags⟩ := ih hrest
    refine ⟨by rw [List.foldl_cons, hlength, List.length_set], fun c => ?_⟩
    rw [List.foldl_cons, hflags, getD_set_flag hbs.1, List.mem_cons]
    by_cases hc : c = b
    · simp [hc]
    · simp [hc]

/-- A block that is taken from the queue does not wait any longer. -/
theorem Flagged.taken {t : Solver} (h : Flagged g s) (hqueue : s.queue = b :: rest) (hrest : t.queue = rest)
    (hflags : t.queued = s.queued.set b false) : Flagged g t := by
  have hnodup := h.nodup_queue
  rw [hqueue, List.nodup_cons] at hnodup
  have hb : b < s.queued.length := by
    have hflag := (h.queued_iff b).mpr (by rw [hqueue]; exact List.mem_cons_self)
    by_contra hge
    rw [List.getD_eq_getElem?_getD, List.getElem?_eq_none (Nat.le_of_not_lt hge)] at hflag
    cases hflag
  refine ⟨by rw [hflags, List.length_set, h.length_queued], by rw [hrest]; exact hnodup.2, fun c => ?_⟩
  rw [hflags, hrest, getD_set_flag hb]
  by_cases hc : c = b
  · simp [hc, hnodup.1]
  · rw [if_neg hc, h.queued_iff, hqueue, List.mem_cons, or_iff_right hc]

/-- Putting blocks into the queue changes nothing else. -/
theorem frame_foldl_enqueue (bs : List Nat) (s : Solver) :
    (bs.foldl Solver.enqueue s).starts = s.starts ∧ (bs.foldl Solver.enqueue s).ends = s.ends
      ∧ (bs.foldl Solver.enqueue s).evaluations = s.evaluations := by
  induction bs generalizing s with
  | nil => exact ⟨rfl, rfl, rfl⟩
  | cons b rest ih =>
    obtain ⟨hstarts, hends, hevaluations⟩ := ih (s.enqueue b)
    rw [List.foldl_cons, hstarts, hends, hevaluations]
    unfold Solver.enqueue
    split <;> exact ⟨rfl, rfl, rfl⟩

/-! ## One evaluation -/

/-- The effects of all blocks. -/
def transfers (g : Graph) : List Transfer := (List.range g.blocks.length).map (Transfer.ofBlock g)

/-- The effect of a block is found under its number. -/
theorem getD_transfers (hb : b < g.blocks.length) :
    (transfers g).getD b Transfer.identity = Transfer.ofBlock g b := by
  unfold transfers
  rw [List.getD_eq_getElem?_getD, List.getElem?_map, List.getElem?_range hb]
  rfl

/-- The set at the end of a block after its next evaluation. -/
def newEnd (s : Solver) (g : Graph) (b : Nat) : IdSet :=
  (Transfer.ofBlock g b).apply (s.incoming g g.reachable b)

/-- The state after the evaluation of a block that has been taken from the queue. -/
def next (s : Solver) (g : Graph) (b : Nat) (rest : List Nat) : Solver :=
  s.evaluate g (transfers g) g.reachable b rest

/-- The state in which a block has been taken from the queue and the set at its start is found. -/
def taken (s : Solver) (g : Graph) (b : Nat) (rest : List Nat) : Solver :=
  { s with
    starts := s.starts.set b (s.incoming g g.reachable b)
    queue := rest
    queued := s.queued.set b false
    evaluations := s.evaluations + 1 }

/-- If the set at the end does not change, nothing is put into the queue. -/
theorem next_of_eq (hb : b < g.blocks.length) (hsame : s.newEnd g b = s.endOf b) :
    s.next g b rest = s.taken g b rest := by
  unfold next evaluate
  simp only [getD_transfers hb]
  exact if_pos (beq_iff_eq.mpr hsame)

/-- If the set at the end of the block changes, then its reachable successors are put into the queue. -/
theorem next_of_ne (hb : b < g.blocks.length) (hne : s.newEnd g b ≠ s.endOf b) :
    s.next g b rest = ((g.succs b).filter fun c => g.reachable.getD c false).foldl Solver.enqueue
      { s.taken g b rest with ends := s.ends.set b (s.newEnd g b) } := by
  unfold next evaluate
  simp only [getD_transfers hb]
  exact if_neg (mt beq_iff_eq.mp hne)

/-- The sets and the number of evaluations after an evaluation. -/
theorem frame_next (s : Solver) (g : Graph) (hb : b < g.blocks.length) (rest : List Nat) :
    (s.next g b rest).starts = s.starts.set b (s.incoming g g.reachable b)
      ∧ (s.next g b rest).ends = (if s.newEnd g b = s.endOf b then s.ends else s.ends.set b (s.newEnd g b))
      ∧ (s.next g b rest).evaluations = s.evaluations + 1 := by
  by_cases hsame : s.newEnd g b = s.endOf b
  · rw [next_of_eq hb hsame, if_pos hsame]
    exact ⟨rfl, rfl, rfl⟩
  · rw [next_of_ne hb hsame, if_neg hsame]
    exact frame_foldl_enqueue _ _

/-- An evaluation finds the set at the start of its block and leaves the others. -/
theorem startOf_next (hb : b < g.blocks.length) (hlen : s.starts.length = g.blocks.length) (c : Nat) :
    (s.next g b rest).startOf c = if c = b then s.incoming g g.reachable b else s.startOf c := by
  unfold startOf
  rw [(frame_next s g hb rest).1, List.getD_eq_getElem?_getD, List.getElem?_set]
  by_cases hc : c = b
  · subst hc
    simp [hlen, hb]
  · simp [hc, Ne.symm hc]

/-- An evaluation finds the set at the end of its block and leaves the others. -/
theorem endOf_next (hb : b < g.blocks.length) (hlen : s.ends.length = g.blocks.length) (c : Nat) :
    (s.next g b rest).endOf c = if c = b then s.newEnd g b else s.endOf c := by
  have hends := (frame_next s g hb rest).2.1
  unfold endOf at hends ⊢
  rw [hends]
  by_cases hsame : s.newEnd g b = s.ends.getD b IdSet.empty
  · rw [if_pos hsame, hsame]
    by_cases hc : c = b
    · rw [if_pos hc, hc]
    · rw [if_neg hc]
  · rw [if_neg hsame, List.getD_eq_getElem?_getD, List.getElem?_set]
    by_cases hc : c = b
    · subst hc
      simp [hlen, hb]
    · simp [hc, Ne.symm hc]

/-- An evaluation neither adds sets nor removes any. -/
theorem length_next (s : Solver) (hb : b < g.blocks.length) (rest : List Nat) :
    (s.next g b rest).starts.length = s.starts.length
      ∧ (s.next g b rest).ends.length = s.ends.length := by
  obtain ⟨hstarts, hends, -⟩ := frame_next s g hb rest
  rw [hstarts, hends]
  constructor
  · exact List.length_set
  · split
    · rfl
    · exact List.length_set

section Queue

variable (hg : g.WellFormed) (h : Flagged g s) (hqueue : s.queue = b :: rest)
include hg h hqueue

/-- The block is taken from the queue, and if the set at its end has changed, its reachable successors come into the
queue that do not wait already. -/
theorem Flagged.next (hb : b < g.blocks.length) :
    Flagged g (s.next g b rest)
      ∧ (s.next g b rest).queue
        = if s.newEnd g b = s.endOf b then rest
          else ((g.succs b).filter fun c => g.reachable.getD c false).foldl insertNew rest := by
  by_cases hsame : s.newEnd g b = s.endOf b
  · rw [next_of_eq hb hsame, if_pos hsame]
    exact ⟨h.taken hqueue rfl rfl, rfl⟩
  · rw [next_of_ne hb hsame, if_neg hsame]
    refine Flagged.foldl_enqueue (h.taken hqueue rfl rfl) fun c hc => ?_
    exact hg.succs_lt b c (List.mem_filter.mp hc).1

/-- The queue after an evaluation that changes nothing. -/
theorem Flagged.queue_next_of_eq (hb : b < g.blocks.length) (hsame : s.newEnd g b = s.endOf b) :
    (s.next g b rest).queue = rest := by
  rw [(h.next hg hqueue hb).2, if_pos hsame]

/-- The queue after an evaluation that changes the set at the end. -/
theorem Flagged.queue_next_of_ne (hb : b < g.blocks.length) (hne : s.newEnd g b ≠ s.endOf b) :
    (s.next g b rest).queue
      = ((g.succs b).filter fun c => g.reachable.getD c false).foldl insertNew rest := by
  rw [(h.next hg hqueue hb).2, if_neg hne]

/-- After an evaluation only blocks wait that waited before, and reachable successors. -/
theorem Flagged.mem_queue_next (hb : b < g.blocks.length) (hc : c ∈ (s.next g b rest).queue) :
    c ∈ rest ∨ (c ∈ g.succs b ∧ g.reachable.getD c false = true) := by
  by_cases hsame : s.newEnd g b = s.endOf b
  · rw [h.queue_next_of_eq hg hqueue hb hsame] at hc
    exact .inl hc
  · rw [h.queue_next_of_ne hg hqueue hb hsame, mem_foldl_insertNew] at hc
    exact hc.imp id List.mem_filter.mp

/-- What waits goes on waiting. -/
theorem Flagged.mem_queue_next_of_mem (hb : b < g.blocks.length) (hc : c ∈ rest) :
    c ∈ (s.next g b rest).queue := by
  by_cases hsame : s.newEnd g b = s.endOf b
  · rwa [h.queue_next_of_eq hg hqueue hb hsame]
  · rw [h.queue_next_of_ne hg hqueue hb hsame, mem_foldl_insertNew]
    exact .inl hc

/-- When the set at the end of a block has changed, its reachable successors wait. -/
theorem Flagged.mem_queue_next_of_changed (hb : b < g.blocks.length) (hne : s.newEnd g b ≠ s.endOf b)
    (hc : c ∈ g.succs b) (hr : g.reachable.getD c false = true) :
    c ∈ (s.next g b rest).queue := by
  rw [h.queue_next_of_ne hg hqueue hb hne, mem_foldl_insertNew]
  exact .inr (List.mem_filter.mpr ⟨hc, hr⟩)

end Queue

/-! ## The invariants of the search -/

/-- The equations of a block hold. -/
def Settled (s : Solver) (g : Graph) (b : Nat) : Prop :=
  s.startOf b = s.incoming g g.reachable b ∧ s.endOf b = (Transfer.ofBlock g b).apply (s.startOf b)

/-- A definition at the start of a block is in force on some path up to the block, and one at the
end on some path through it. -/
structure Justified (g : Graph) (s : Solver) : Prop where
  start_sound : ∀ b d name, g.Defines d name → (s.startOf b).contains d = true →
    ∃ path, g.Path Graph.entry path b ∧ InForce name d (path.dropLast.flatMap g.events)
  end_sound : ∀ b d name, g.Defines d name → (s.endOf b).contains d = true →
    ∃ path, g.Path Graph.entry path b ∧ InForce name d (path.flatMap g.events)

/-- What holds at every moment of the search. -/
structure Invariant (g : Graph) (s : Solver) : Prop where
  flagged : Flagged g s
  length_starts : s.starts.length = g.blocks.length
  length_ends : s.ends.length = g.blocks.length
  queue_reaches : ∀ b ∈ s.queue, g.Reaches Graph.entry b
  settled_or_waits : ∀ b, g.Reaches Graph.entry b → b ∈ s.queue ∨ s.Settled g b
  justified : Justified g s

section Evaluation

variable (hg : g.WellFormed)
include hg

/-- What comes in is in force on a path that ends before the block. -/
theorem Justified.incoming (h : Justified g s) {name : String} (hd : g.Defines d name)
    (hmem : (s.incoming g g.reachable b).contains d = true) :
    ∃ path, g.Path Graph.entry path b ∧ InForce name d (path.dropLast.flatMap g.events) := by
  obtain ⟨p, hp, -, hend⟩ := (contains_incoming s g g.reachable b d).mp hmem
  obtain ⟨path, hpath, hforce⟩ := h.end_sound p d name hd hend
  refine ⟨path ++ [b], hpath.snoc ((hg.mem_preds_iff p b).mp hp), ?_⟩
  rwa [List.dropLast_concat]

/-- What comes out is in force on a path through the block. -/
theorem Justified.newEnd (h : Justified g s) (hb : g.Reaches Graph.entry b) {name : String}
    (hd : g.Defines d name) (hmem : (s.newEnd g b).contains d = true) :
    ∃ path, g.Path Graph.entry path b ∧ InForce name d (path.flatMap g.events) := by
  rcases (contains_apply_ofBlock hd b _).mp hmem with hforce | ⟨hin, hleft⟩
  · -- the block itself defines the variable, whatever path leads to it
    obtain ⟨path, hpath⟩ := hb
    refine ⟨path, hpath, ?_⟩
    rw [hpath.flatMap_eq_dropLast_append, inForce_append]
    exact .inl hforce
  · obtain ⟨path, hpath, hforce⟩ := h.incoming hg hd hin
    refine ⟨path, hpath, ?_⟩
    rw [hpath.flatMap_eq_dropLast_append, inForce_append]
    exact .inr ⟨hforce, hleft⟩

/-- An evaluation adds only what some path justifies. -/
theorem Invariant.justified_next (h : Invariant g s) (hb : g.Reaches Graph.entry b) :
    Justified g (s.next g b rest) := by
  have hlt := hg.lt_of_reaches hb
  constructor
  · intro c d name hd hmem
    rw [startOf_next hlt h.length_starts] at hmem
    split at hmem
    · rename_i hc
      subst hc
      exact h.justified.incoming hg hd hmem
    · exact h.justified.start_sound c d name hd hmem
  · intro c d name hd hmem
    rw [endOf_next hlt h.length_ends] at hmem
    split at hmem
    · rename_i hc
      subst hc
      exact h.justified.newEnd hg hb hd hmem
    · exact h.justified.end_sound c d name hd hmem

/-- The incoming set of a block changes only when a predecessor of it has been evaluated to a new
set. -/
theorem Invariant.incoming_next (h : Invariant g s) (hb : b < g.blocks.length)
    (hc : s.newEnd g b = s.endOf b ∨ c ∉ g.succs b) :
    (s.next g b rest).incoming g g.reachable c = s.incoming g g.reachable c := by
  apply incoming_congr
  intro p hp
  rw [endOf_next hb h.length_ends]
  split
  · rename_i hpb
    subst hpb
    rcases hc with heq | hnot
    · exact heq
    · exact absurd ((hg.mem_preds_iff p c).mp hp) hnot
  · rfl

/-- A block whose equations an evaluation breaks is waiting afterwards. -/
theorem Invariant.settled_next (h : Invariant g s) (hqueue : s.queue = b :: rest)
    (hc : g.Reaches Graph.entry c) :
    c ∈ (s.next g b rest).queue ∨ (s.next g b rest).Settled g c := by
  have hb : g.Reaches Graph.entry b :=
    h.queue_reaches b (by rw [hqueue]; exact List.mem_cons_self)
  have hlt := hg.lt_of_reaches hb
  have hstartOf : ∀ c, (s.next g b rest).startOf c
      = if c = b then s.incoming g g.reachable b else s.startOf c := startOf_next hlt h.length_starts
  by_cases hwait : s.newEnd g b ≠ s.endOf b ∧ c ∈ g.succs b
  · exact .inl (h.flagged.mem_queue_next_of_changed hg hqueue hlt hwait.1 hwait.2
      ((Graph.reachable_iff hg c).mpr hc))
  · -- the incoming set of `c` is what it was
    have hsame : s.newEnd g b = s.endOf b ∨ c ∉ g.succs b := by
      by_cases heq : s.newEnd g b = s.endOf b
      · exact .inl heq
      · exact .inr fun hmem => hwait ⟨heq, hmem⟩
    have hin : (s.next g b rest).incoming g g.reachable c = s.incoming g g.reachable c :=
      h.incoming_next hg hlt hsame
    by_cases hcb : c = b
    · subst hcb
      refine .inr ⟨?_, ?_⟩
      · rw [hstartOf, if_pos rfl, hin]
      · rw [endOf_next hlt h.length_ends, if_pos rfl, hstartOf, if_pos rfl]
        rfl
    · rcases h.settled_or_waits c hc with hmem | ⟨hstart, hend⟩
      · rw [hqueue] at hmem
        rcases List.mem_cons.mp hmem with heq | hmem
        · exact absurd heq hcb
        · exact .inl (h.flagged.mem_queue_next_of_mem hg hqueue hlt hmem)
      · refine .inr ⟨?_, ?_⟩
        · rw [hstartOf, if_neg hcb, hin, hstart]
        · rw [endOf_next hlt h.length_ends, if_neg hcb, hstartOf, if_neg hcb, hend]

/-- One evaluation keeps the invariant. -/
theorem Invariant.next (h : Invariant g s) (hqueue : s.queue = b :: rest) :
    Invariant g (s.next g b rest) := by
  have hb : g.Reaches Graph.entry b :=
    h.queue_reaches b (by rw [hqueue]; exact List.mem_cons_self)
  have hlt := hg.lt_of_reaches hb
  obtain ⟨hstarts, hends⟩ := length_next s hlt rest
  refine ⟨(h.flagged.next hg hqueue hlt).1, hstarts.trans h.length_starts, hends.trans h.length_ends, fun c hc => ?_,
    fun c hc => h.settled_next hg hqueue hc, h.justified_next hg hb⟩
  rcases h.flagged.mem_queue_next hg hqueue hlt hc with hc | ⟨hc, -⟩
  · exact h.queue_reaches c (by rw [hqueue]; exact List.mem_cons_of_mem _ hc)
  · exact hb.tail hc

/-! ## The whole search -/

omit hg in
/-- At the start just the reachable blocks wait. -/
theorem flagged_start (g : Graph) : Flagged g (Solver.start g g.reachable) := by
  have hlt : ∀ b ∈ (Solver.start g g.reachable).queue, b < (g.blocks.map fun _ => false).length := by
    intro b hb
    rw [List.length_map]
    exact List.mem_range.mp (List.mem_filter.mp hb).1
  have hnone : ∀ c, (g.blocks.map fun _ => false).getD c false = false := by
    intro c
    rw [List.getD_eq_getElem?_getD, List.getElem?_map]
    cases g.blocks[c]? <;> rfl
  obtain ⟨hlength, hflags⟩ := foldl_set_flag hlt
  refine ⟨hlength.trans (List.length_map _), List.nodup_range.filter _, fun c => ?_⟩
  have hflag := hflags c
  rw [hnone c, Bool.false_eq_true, or_false] at hflag
  exact hflag

/-- At the start no set has a member, and every block that can be reached waits. -/
theorem invariant_start : Invariant g (Solver.start g g.reachable) where
  flagged := flagged_start g
  length_starts := by simp [Solver.start]
  length_ends := by simp [Solver.start]
  queue_reaches b hb := by
    obtain ⟨-, hr⟩ := List.mem_filter.mp hb
    exact (Graph.reachable_iff hg b).mp hr
  settled_or_waits b hb :=
    .inl (List.mem_filter.mpr ⟨List.mem_range.mpr (hg.lt_of_reaches hb),
      (Graph.reachable_iff hg b).mpr hb⟩)
  justified := by
    have hempty : ∀ b, (g.blocks.map fun _ => IdSet.empty).getD b IdSet.empty = IdSet.empty := by
      intro b
      rw [List.getD_eq_getElem?_getD, List.getElem?_map]
      cases g.blocks[b]? <;> rfl
    constructor
    · intro b d name _ hmem
      rw [show (Solver.start g g.reachable).startOf b = _ from hempty b] at hmem
      simp at hmem
    · intro b d name _ hmem
      rw [show (Solver.start g g.reachable).endOf b = _ from hempty b] at hmem
      simp at hmem

/-- A search that ends has kept the invariant and left nothing waiting. -/
theorem Invariant.run {budget : Nat} {s' : Solver} (h : Invariant g s)
    (hrun : Solver.run g (transfers g) g.reachable budget s = .ok s') :
    Invariant g s' ∧ s'.queue = [] := by
  induction budget generalizing s with
  | zero =>
    cases hqueue : s.queue with
    | nil =>
      unfold Solver.run at hrun
      simp only [hqueue, Except.ok.injEq] at hrun
      exact hrun ▸ ⟨h, hqueue⟩
    | cons b rest =>
      unfold Solver.run at hrun
      simp only [hqueue] at hrun
      cases hrun
  | succ budget ih =>
    cases hqueue : s.queue with
    | nil =>
      unfold Solver.run at hrun
      simp only [hqueue, Except.ok.injEq] at hrun
      exact hrun ▸ ⟨h, hqueue⟩
    | cons b rest =>
      unfold Solver.run at hrun
      simp only [hqueue] at hrun
      exact ih (h.next hg hqueue) hrun

/-- When a search ends, the equations of all blocks hold that can be reached. -/
theorem settled_of_solve {budget : Nat} (hsolve : solve g budget = .ok s) (hb : g.Reaches Graph.entry b) :
    s.Settled g b := by
  obtain ⟨hinv, hempty⟩ := (invariant_start hg).run hg hsolve
  rcases hinv.settled_or_waits b hb with hmem | hsettled
  · rw [hempty] at hmem
    cases hmem
  · exact hsettled

/-- Along an edge the set at the start of the next block holds what comes out of the block before. -/
theorem contains_startOf_of_edge {a : Nat} {name : String}
    (hsettled : ∀ b, g.Reaches Graph.entry b → s.Settled g b) (ha : g.Reaches Graph.entry a)
    (edge : c ∈ g.succs a) (hd : g.Defines d name)
    (h : InForce name d (g.events a)
      ∨ ((s.startOf a).contains d = true ∧ Untouched name (g.events a))) :
    (s.startOf c).contains d = true := by
  have hend : (s.endOf a).contains d = true := by
    rw [(hsettled a ha).2]
    exact (contains_apply_ofBlock hd a _).mpr h
  rw [(hsettled c (ha.tail edge)).1, contains_incoming]
  exact ⟨a, (hg.mem_preds_iff a c).mpr edge, (Graph.reachable_iff hg a).mpr ha, hend⟩

/-- When all equations hold, a definition can be followed along a path. -/
theorem contains_startOf_of_path {a : Nat} {path : List Nat} {name : String}
    (hsettled : ∀ b, g.Reaches Graph.entry b → s.Settled g b) (hd : g.Defines d name)
    (hpath : g.Path a path b) (ha : g.Reaches Graph.entry a)
    (h : InForce name d (path.dropLast.flatMap g.events)
      ∨ ((s.startOf a).contains d = true ∧ Untouched name (path.dropLast.flatMap g.events))) :
    (s.startOf b).contains d = true := by
  induction hpath with
  | single a =>
    rcases h with h | ⟨h, -⟩
    · exact absurd h not_inForce_nil
    · exact h
  | @cons a c b path edge tail ih =>
    have hne : path ≠ [] := by cases tail <;> simp
    rw [List.dropLast_cons_of_ne_nil hne, List.flatMap_cons, inForce_append,
      untouched_append] at h
    have hnext := contains_startOf_of_edge hg hsettled ha edge hd
    rcases h with (h | ⟨h, hrest⟩) | ⟨hstart, h, hrest⟩
    · exact ih (ha.tail edge) (.inl h)
    · exact ih (ha.tail edge) (.inr ⟨hnext (.inl h), hrest⟩)
    · exact ih (ha.tail edge) (.inr ⟨hnext (.inr ⟨hstart, h⟩), hrest⟩)

/-- A search that ends has found, for the start of each block, the definitions in force at the end of
some path up to it. -/
theorem contains_start_iff {budget : Nat} (hsolve : solve g budget = .ok s) {name : String}
    (hd : g.Defines d name) (b : Nat) :
    (s.startOf b).contains d = true
      ↔ ∃ path, g.Path Graph.entry path b ∧ InForce name d (path.dropLast.flatMap g.events) := by
  constructor
  · exact ((invariant_start hg).run hg hsolve).1.justified.start_sound b d name hd
  · rintro ⟨path, hpath, hforce⟩
    exact contains_startOf_of_path hg (fun b => settled_of_solve hg hsolve) hd hpath (.refl g _) (.inl hforce)

end Evaluation

end Solver

end ModuleLint.Flow
