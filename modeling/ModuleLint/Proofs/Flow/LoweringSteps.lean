import ModuleLint.Proofs.Flow.Construction

/-!
# Lowering takes steps

Lowering a statement is a sequence of steps whose events are the effects of the statement, in the
order of the text (`lowerStmt_lowers`). The edges that it draws start from the block that was
current before, or from blocks that it has opened itself, so the rest of the graph is left alone.

Branching statements are the only ones that keep several blocks open at a time: the last test, which
still waits for its second successor, and the blocks in which the branches so far have ended, which
wait for the block where they meet. `Branching.Advances` says what a branch does to them.
-/

set_option autoImplicit false

namespace ModuleLint.Flow

variable {names : Names}

namespace Builder

/-- The blocks that lowering may draw edges from: the current one and those still to come. -/
def inner (b : Builder) (i : Nat) : Prop := i = b.current ∨ b.size ≤ i

/-- The current block has no successor yet. -/
def Open (b : Builder) : Prop := b.graph.succs b.current = []

/-- What a later stage may touch, an earlier one may touch as well. -/
theorem Steps.inner_of_inner {wide : Nat → Prop} {b b' : Builder} {es : List Effect}
    (h : Steps names wide b es b') (i : Nat) (hi : b'.inner i) : b.inner i := by
  have hsize := h.size_le
  have hcur := h.current_eq_or
  unfold Builder.inner at *
  omega

/-- Performing effects is a sequence of steps by itself. -/
theorem Steps.self_performAll {wide : Nat → Prop} (b : Builder) (es : List Effect) :
    Steps names wide b es (b.performAll names es) := by
  simpa using (Steps.refl b).performAll es

/-- Effects add no block. -/
@[simp] theorem size_performAll (b : Builder) (es : List Effect) :
    (b.performAll names es).size = b.size := by
  induction es generalizing b with
  | nil => rfl
  | cons e rest ih => exact (ih (b.perform names e)).trans (size_perform b e)

/-- Effects do not move the current block. -/
@[simp] theorem current_performAll (b : Builder) (es : List Effect) :
    (b.performAll names es).current = b.current := by
  induction es generalizing b with
  | nil => rfl
  | cons e rest ih => exact (ih (b.perform names e)).trans (current_perform b e)

/-- Effects draw no edge. -/
@[simp] theorem succs_performAll (b : Builder) (es : List Effect) (i : Nat) :
    (b.performAll names es).graph.succs i = b.graph.succs i := by
  induction es generalizing b with
  | nil => rfl
  | cons e rest ih => exact (ih (b.perform names e)).trans (succs_perform b e i)

/-- A block without successor stays open while effects are performed. -/
theorem Open.performAll {b : Builder} (h : b.Open) (es : List Effect) :
    (b.performAll names es).Open := by
  unfold Open
  rw [current_performAll, succs_performAll]
  exact h

/-- Opening a block after another adds one block. -/
@[simp] theorem size_startAfter (b : Builder) (source : Nat) (kind : BlockKind) :
    (b.startAfter source kind).size = b.size + 1 := by
  simp [startAfter]

/-- The opened block becomes the current one. -/
@[simp] theorem current_startAfter (b : Builder) (source : Nat) (kind : BlockKind) :
    (b.startAfter source kind).current = b.size := rfl

/-- Opening a block after another moves no event. -/
@[simp] theorem events_startAfter (b : Builder) (source : Nat) (kind : BlockKind) (i : Nat) :
    (b.startAfter source kind).graph.events i = b.graph.events i := by
  simp [startAfter]

/-- The opened block becomes the last successor of its source. -/
theorem succs_startAfter (b : Builder) {source : Nat} (kind : BlockKind) (i : Nat)
    (hs : source < b.size) :
    (b.startAfter source kind).graph.succs i
      = if i = source then b.graph.succs i ++ [b.size] else b.graph.succs i := by
  unfold startAfter
  rw [succs_addEdge _ _ _ _ (by rw [size_startBlock]; omega), succs_startBlock]
  rfl

/-- A new block has no successor. -/
theorem open_startAfter (b : Builder) {source : Nat} (kind : BlockKind) (hs : source < b.size) :
    (b.startAfter source kind).Open := by
  unfold Open
  rw [succs_startAfter b kind _ hs, current_startAfter, if_neg (by omega),
    succs_of_size_le b (Nat.le_refl _)]

/-! ## Where branches meet -/

/-- Edges add no block. -/
theorem size_foldl_addEdge (b : Builder) (target : Nat) (ends : List Nat) :
    (ends.foldl (fun b source => b.addEdge source target) b).size = b.size := by
  induction ends generalizing b with
  | nil => rfl
  | cons e rest ih => rw [List.foldl_cons, ih, size_addEdge]

/-- Edges do not move the current block. -/
theorem current_foldl_addEdge (b : Builder) (target : Nat) (ends : List Nat) :
    (ends.foldl (fun b source => b.addEdge source target) b).current = b.current := by
  induction ends generalizing b with
  | nil => rfl
  | cons e rest ih => rw [List.foldl_cons, ih, current_addEdge]

/-- Edges from several blocks to one: each of them gets it as its last successor. -/
theorem succs_foldl_addEdge (b : Builder) (target i : Nat) (ends : List Nat)
    (hlt : ∀ e ∈ ends, e < b.size) (hnd : ends.Nodup) :
    (ends.foldl (fun b source => b.addEdge source target) b).graph.succs i
      = if i ∈ ends then b.graph.succs i ++ [target] else b.graph.succs i := by
  induction ends generalizing b with
  | nil => simp
  | cons e rest ih =>
    obtain ⟨hnot, hnd⟩ := List.nodup_cons.mp hnd
    have he : e < b.size := hlt e List.mem_cons_self
    have hrest : ∀ x ∈ rest, x < (b.addEdge e target).size := by
      intro x hx
      rw [size_addEdge]
      exact hlt x (List.mem_cons_of_mem _ hx)
    rw [List.foldl_cons, ih _ hrest hnd, succs_addEdge b e target i he]
    by_cases hie : i = e
    · subst hie
      simp [hnot]
    · simp [hie]

/-- Where branches meet there is one more block. -/
@[simp] theorem size_meet (b : Builder) (ends : List Nat) : (b.meet ends).size = b.size + 1 := by
  simp [meet, size_foldl_addEdge]

/-- The block where branches meet becomes the current one. -/
@[simp] theorem current_meet (b : Builder) (ends : List Nat) :
    (b.meet ends).current = b.size := by
  simp [meet, current_foldl_addEdge]

/-- Edges are no events. -/
theorem events_foldl_addEdge (b : Builder) (target i : Nat) (ends : List Nat) :
    (ends.foldl (fun b source => b.addEdge source target) b).graph.events i = b.graph.events i := by
  induction ends generalizing b with
  | nil => rfl
  | cons e rest ih => rw [List.foldl_cons, ih, events_addEdge]

/-- Letting branches meet moves no event. -/
@[simp] theorem events_meet (b : Builder) (ends : List Nat) (i : Nat) :
    (b.meet ends).graph.events i = b.graph.events i := by
  simp [meet, events_foldl_addEdge]

/-- All ends get the block where they meet as their last successor. -/
theorem succs_meet (b : Builder) (ends : List Nat) (i : Nat) (hlt : ∀ e ∈ ends, e < b.size)
    (hnd : ends.Nodup) :
    (b.meet ends).graph.succs i
      = if i ∈ ends then b.graph.succs i ++ [b.size] else b.graph.succs i := by
  unfold meet
  have hlt' : ∀ e ∈ ends, e < (b.startBlock .join).size := by
    intro e he
    have := hlt e he
    rw [size_startBlock]; omega
  rw [succs_foldl_addEdge _ _ _ _ hlt' hnd, succs_startBlock]
  rfl

/-- Ends that are inner blocks may meet. -/
theorem Steps.meet {inner : Nat → Prop} {b b' : Builder} {es : List Effect}
    (h : Steps names inner b es b') (ends : List Nat) (hinner : ∀ e ∈ ends, inner e)
    (hlt : ∀ e ∈ ends, e < b'.size) (hexit : ∀ e ∈ ends, e ≠ Graph.exit) :
    Steps names inner b es (b'.meet ends) := by
  -- the edges are drawn one by one, so the induction is on the ends that are left
  have hdraw : ∀ (ends : List Nat) (c : Builder), Steps names inner b es c → b'.size < c.size →
      (∀ e ∈ ends, inner e ∧ e < b'.size ∧ e ≠ Graph.exit) →
      Steps names inner b es (ends.foldl (fun b source => b.addEdge source b'.size) c) := by
    intro ends
    induction ends with
    | nil => exact fun c hc _ _ => hc
    | cons e rest ih =>
      intro c hc hsize hends
      obtain ⟨h1, h2, h3⟩ := hends e List.mem_cons_self
      refine ih _ (.edge hc h1 (by omega) h3 hsize) (by rwa [size_addEdge]) ?_
      exact fun x hx => hends x (List.mem_cons_of_mem _ hx)
  refine hdraw ends (b'.startBlock .join) (.block .join h) (by simp) ?_
  exact fun e he => ⟨hinner e he, hlt e he, hexit e he⟩

/-- The block where branches meet has no successor yet. -/
theorem open_meet (b : Builder) (ends : List Nat) (hlt : ∀ e ∈ ends, e < b.size)
    (hnd : ends.Nodup) : (b.meet ends).Open := by
  unfold Open
  have hnot : b.size ∉ ends := fun h => Nat.lt_irrefl _ (hlt _ h)
  rw [succs_meet b ends _ hlt hnd, current_meet, if_neg hnot, succs_of_size_le b (Nat.le_refl _)]

/-! ## Lowering a part of a routine -/

/-- Lowering from one builder to another: by steps that draw edges from inner blocks only, and
leaving the current block open. -/
structure Lowers (names : Names) (b : Builder) (es : List Effect) (b' : Builder) : Prop where
  steps : Steps names b.inner b es b'
  isOpen : b'.Open

/-- Parts of a routine are lowered one after another. -/
theorem Lowers.trans {b b' b'' : Builder} {es fs : List Effect} (h : Lowers names b es b')
    (h' : Lowers names b' fs b'') : Lowers names b (es ++ fs) b'' where
  steps := h.steps.trans (h'.steps.mono h.steps.inner_of_inner)
  isOpen := h'.isOpen

/-- Statements without inner blocks are lowered into the current block. -/
theorem Lowers.performAll {b : Builder} (h : b.Open) (es : List Effect) :
    Lowers names b es (b.performAll names es) where
  steps := Steps.self_performAll b es
  isOpen := h.performAll es

/-- A block that follows the current one. -/
theorem Lowers.startAfter {b : Builder} (h : b.WellFormed) (kind : BlockKind) :
    Lowers names b [] (b.startAfter b.current kind) where
  steps := (Steps.refl b).startAfter kind (.inl rfl) h.current_lt h.current_ne_exit
  isOpen := open_startAfter b kind h.current_lt

/-- The end of a routine draws an edge to the exit and goes on in a new block. -/
theorem Lowers.endRoutine {b : Builder} (h : b.WellFormed) : Lowers names b [] b.endRoutine where
  steps := .block _ (.edge (.refl b) (.inl rfl) h.current_lt h.current_ne_exit h.exit_lt)
  isOpen := by
    have hne : b.size ≠ b.current := Nat.ne_of_gt h.current_lt
    unfold Open Builder.endRoutine
    rw [current_startBlock, succs_startBlock, size_addEdge,
      succs_addEdge _ _ _ _ h.current_lt, if_neg hne, succs_of_size_le b (Nat.le_refl _)]

end Builder

/-- The lowering of a loop: a header that performs `head`, and a body that leads back to it. -/
def lowerLoop (names : Names) (head : List Effect) (body : List Stmt) (b : Builder) : Builder :=
  let entered := (b.startAfter b.current .loopHeader).performAll names head
  (lowerStmts names body (entered.startAfter entered.current .loopBody)).endLoop entered.current

/-- Lowers one branch, which follows the last test. -/
def Branching.take (names : Names) (kind : BlockKind) (body : List Stmt) (br : Branching) :
    Branching :=
  br.close (lowerStmts names body (br.builder.startAfter br.test kind))

/-- Lowers one more test, which follows the last one. -/
def Branching.nextTest (names : Names) (condition : Expr) (br : Branching) : Branching :=
  { br with
    builder := (br.builder.startAfter br.test .elseIfTest).performAll names condition.effects
    test := br.builder.size }

/-- Lowers the last branch. When there is none, the last test is one of the ends itself. -/
def Branching.finish (names : Names) (otherwise : List Stmt) (br : Branching) : Branching :=
  match otherwise with
  | [] => { br with ends := br.ends ++ [br.test] }
  | _ :: _ => br.take names .elseBranch otherwise

/-- The state of a branching statement when its first condition has just been read. -/
def Branching.opened (b : Builder) : Branching := { builder := b, test := b.current, ends := [] }

/-- The lowering of a branching statement after its first condition: all branches, and the block
where they meet. -/
def lowerBranches (names : Names) (body : List Stmt) (alternatives : List Alternative)
    (otherwise : List Stmt) (b : Builder) : Builder :=
  let last := (lowerAlternatives names alternatives
    ((Branching.opened b).take names .thenBranch body)).finish names otherwise
  last.builder.meet last.ends

/-! ## The lowering of each statement in these terms -/

/-- A declaration performs its effects. -/
theorem lowerStmt_declare (d : Declaration) (b : Builder) :
    lowerStmt names (.declare d) b = b.performAll names (Stmt.declare d).effects := by
  simp only [lowerStmt, Stmt.effects]
  rfl

/-- An assignment performs its effects. -/
theorem lowerStmt_assign (a : Assignment) (b : Builder) :
    lowerStmt names (.assign a) b = b.performAll names (Stmt.assign a).effects := by
  simp only [lowerStmt, Stmt.effects, Builder.performAll_append]
  rw [Builder.read_eq_performAll names, Builder.defineTarget_eq_performAll]

/-- A call performs its effects. -/
theorem lowerStmt_call (c : Call) (b : Builder) :
    lowerStmt names (.call c) b = b.performAll names (Stmt.call c).effects := by
  simp only [lowerStmt, Stmt.effects]
  rw [Builder.readAll_eq_performAll names]

/-- A return performs the reads of its value and ends the routine. -/
theorem lowerStmt_leave (span : Span) (value : Expr) (b : Builder) :
    lowerStmt names (.leave span value) b = (b.performAll names value.effects).endRoutine := by
  simp only [lowerStmt]
  rw [Builder.read_eq_performAll names]

/-- A loop with a condition reads it in its header. -/
theorem lowerStmt_loopWhile (span : Span) (condition : Expr) (body : List Stmt) (b : Builder) :
    lowerStmt names (.loopWhile span condition body) b
      = lowerLoop names condition.effects body b := by
  simp only [lowerStmt, lowerLoop]
  rw [Builder.read_eq_performAll names]

/-- A loop with a counter reads its range before the header and defines the counter in it. -/
theorem lowerStmt_loopFor (span : Span) (counter : Option Reference) (first last collection : Expr)
    (body : List Stmt) (b : Builder) :
    lowerStmt names (.loopFor span counter first last collection body) b
      = lowerLoop names (effectsOfTarget .loopCounter counter) body
          (b.performAll names (first.effects ++ last.effects ++ collection.effects)) := by
  simp only [lowerStmt, lowerLoop, Builder.performAll_append]
  rw [Builder.defineTarget_eq_performAll, Builder.read_eq_performAll names,
    Builder.read_eq_performAll names, Builder.read_eq_performAll names]

/-- A further condition is one more test and the branch that follows it. -/
theorem lowerAlternative_eq (condition : Expr) (body : List Stmt) (br : Branching) :
    lowerAlternative names (.mk condition body) br
      = (br.nextTest names condition).take names .elseIfBranch body := by
  simp only [lowerAlternative, Branching.nextTest, Branching.take]
  rw [Builder.read_eq_performAll names]
  simp only [Builder.current_performAll, Builder.current_startAfter]
  rfl

/-- A branching statement reads its first condition in the current block. -/
theorem lowerStmt_branch (span : Span) (condition : Expr) (body : List Stmt)
    (alternatives : List Alternative) (otherwise : List Stmt) (b : Builder) :
    lowerStmt names (.branch span condition body alternatives otherwise) b
      = lowerBranches names body alternatives otherwise (b.performAll names condition.effects) := by
  cases otherwise with
  | nil =>
    simp only [lowerStmt]
    rw [Builder.read_eq_performAll names]
    rfl
  | cons s rest =>
    simp only [lowerStmt, lowerBranches, Branching.finish, Branching.take, lowerStmts]
    rw [Builder.read_eq_performAll names]
    rfl

/-! ## Steps of loops and branches -/

/-- What lowering a block of statements does, whatever it is lowered into. -/
def LowersStmts (names : Names) (body : List Stmt) : Prop :=
  ∀ b : Builder, b.WellFormed → b.Open →
    Builder.Lowers names b (effectsOfStmts body) (lowerStmts names body b)

/-- Closing a loop adds the block after it. -/
@[simp] theorem Builder.size_endLoop (b : Builder) (header : Nat) :
    (b.endLoop header).size = b.size + 1 := by
  simp [endLoop]

/-- The block after the loop becomes the current one. -/
@[simp] theorem Builder.current_endLoop (b : Builder) (header : Nat) :
    (b.endLoop header).current = b.size := by
  simp [endLoop]

/-- Closing a loop moves no event. -/
@[simp] theorem Builder.events_endLoop (b : Builder) (header i : Nat) :
    (b.endLoop header).graph.events i = b.graph.events i := by
  simp [endLoop]

/-- A loop may be closed when its header is an inner block. -/
theorem Builder.Steps.endLoop {inner : Nat → Prop} {b b' : Builder} {es : List Effect} {header : Nat}
    (h : Steps names inner b es b') (hb' : b'.WellFormed) (hcur : inner b'.current)
    (hheader : inner header) (hlt : header < b'.size) (hexit : header ≠ Graph.exit) :
    Steps names inner b es (b'.endLoop header) := by
  have hback := h.edge hcur hb'.current_lt hb'.current_ne_exit hlt
  exact hback.startAfter .join hheader (by rwa [size_addEdge]) hexit

open Builder in
/-- Closing a loop draws the edge back to its header and opens the block after the loop. -/
theorem Builder.Lowers.endLoop {b b' : Builder} {es : List Effect} {header : Nat}
    (h : Lowers names b es b') (hb : b.WellFormed) (hheader : b.inner header)
    (hlt : header < b'.size) (hexit : header ≠ Graph.exit) :
    Lowers names b es (b'.endLoop header) where
  steps := by
    have hcur : b.inner b'.current := h.steps.inner_of_inner _ (.inl rfl)
    exact h.steps.endLoop (h.steps.wellFormed hb) hcur hheader hlt hexit
  isOpen := open_startAfter _ .join (by rwa [size_addEdge])

/-- A loop is lowered to its head and its body, one after the other. -/
theorem lowers_loop {body : List Stmt} (hbody : LowersStmts names body) (head : List Effect)
    {b : Builder} (hb : b.WellFormed) :
    Builder.Lowers names b (head ++ effectsOfStmts body) (lowerLoop names head body b) := by
  have h1 : Builder.Lowers names b [] _ := .startAfter hb .loopHeader
  have h2 := h1.trans (Builder.Lowers.performAll h1.isOpen head)
  have hb2 := h2.steps.wellFormed hb
  have h3 := h2.trans (Builder.Lowers.startAfter hb2 .loopBody)
  have h4 := h3.trans (hbody _ (h3.steps.wellFormed hb) h3.isOpen)
  simp only [List.nil_append, List.append_nil] at h4
  refine h4.endLoop hb (h2.steps.inner_of_inner _ (.inl rfl)) ?_ hb2.current_ne_exit
  have hsize := (hbody _ (h3.steps.wellFormed hb) h3.isOpen).steps.size_le
  have hlt := hb2.current_lt
  simp only [Builder.size_startAfter] at hsize
  omega

namespace Branching

/-- The blocks that the branches still to come may draw edges from: the last test and new ones. -/
def inner (br : Branching) (i : Nat) : Prop := i = br.test ∨ br.builder.size ≤ i

/-- What holds between the branches of a branching statement. The blocks in which branches have
ended are distinct, differ from the last test, and have no successor yet. -/
structure WellFormed (br : Branching) : Prop where
  builder : br.builder.WellFormed
  test_lt : br.test < br.builder.size
  test_ne_exit : br.test ≠ Graph.exit
  test_not_mem : br.test ∉ br.ends
  nodup : br.ends.Nodup
  lt_of_mem : ∀ e ∈ br.ends, e < br.builder.size
  ne_exit_of_mem : ∀ e ∈ br.ends, e ≠ Graph.exit
  succs_of_mem : ∀ e ∈ br.ends, br.builder.graph.succs e = []

/-- One or more branches have been lowered: edges were drawn from the last test and from new blocks
only, only new blocks got events, and the new ends are new blocks. -/
structure Advances (names : Names) (br : Branching) (es : List Effect) (br' : Branching) :
    Prop where
  steps : Builder.Steps names br.inner br.builder es br'.builder
  events_eq : ∀ i < br.builder.size, br'.builder.graph.events i = br.builder.graph.events i
  wellFormed : br'.WellFormed
  inner_test : br.inner br'.test
  ends_eq : ∃ added, br'.ends = br.ends ++ added ∧ ∀ e ∈ added, br.builder.size ≤ e

variable {br br' br'' : Branching} {es fs : List Effect}

/-- Without a branch there are no steps. -/
theorem Advances.refl (h : br.WellFormed) : Advances names br [] br where
  steps := .refl _
  events_eq _ _ := rfl
  wellFormed := h
  inner_test := .inl rfl
  ends_eq := ⟨[], by simp⟩

/-- What later branches may touch, earlier ones may touch as well. -/
theorem Advances.inner_of_inner (h : Advances names br es br') (i : Nat) (hi : br'.inner i) :
    br.inner i := by
  have hsize := h.steps.size_le
  have htest := h.inner_test
  unfold Branching.inner at *
  omega

/-- Branches are lowered one after another. -/
theorem Advances.trans (h : Advances names br es br') (h' : Advances names br' fs br'') :
    Advances names br (es ++ fs) br'' where
  steps := h.steps.trans (h'.steps.mono h.inner_of_inner)
  events_eq i hi := by
    rw [h'.events_eq i (Nat.lt_of_lt_of_le hi h.steps.size_le), h.events_eq i hi]
  wellFormed := h'.wellFormed
  inner_test := h.inner_of_inner _ h'.inner_test
  ends_eq := by
    obtain ⟨added, heq, hge⟩ := h.ends_eq
    obtain ⟨added', heq', hge'⟩ := h'.ends_eq
    refine ⟨added ++ added', by rw [heq', heq, List.append_assoc], fun e he => ?_⟩
    rcases List.mem_append.mp he with he | he
    · exact hge e he
    · exact Nat.le_trans h.steps.size_le (hge' e he)

/-- An end is no block that later branches touch. -/
theorem WellFormed.not_inner_of_mem (h : br.WellFormed) {e : Nat} (he : e ∈ br.ends) :
    ¬ br.inner e := by
  rintro (rfl | hge)
  · exact h.test_not_mem he
  · exact absurd (h.lt_of_mem e he) (by omega)

/-- A block that is new and open may become a further end. -/
theorem WellFormed.add_end (h : br.WellFormed) {b : Builder}
    (hsteps : Builder.Steps names br.inner br.builder es b) (hnew : br.builder.size ≤ b.current)
    (hopen : b.Open) :
    WellFormed { br with builder := b, ends := br.ends ++ [b.current] } := by
  have hb := hsteps.wellFormed h.builder
  have hlt := h.test_lt
  have hle := hsteps.size_le
  have hnot : b.current ∉ br.ends := fun hmem => absurd (h.lt_of_mem _ hmem) (by omega)
  refine ⟨hb, Nat.lt_of_lt_of_le hlt hle, h.test_ne_exit, ?_, ?_, ?_, ?_, ?_⟩
  · simp only [List.mem_append, List.mem_singleton, not_or]
    exact ⟨h.test_not_mem, by omega⟩
  · refine List.nodup_append.mpr ⟨h.nodup, by simp, fun a ha b hb hab => hnot ?_⟩
    rwa [← List.mem_singleton.mp hb, ← hab]
  · intro e he
    rcases List.mem_append.mp he with he | he
    · exact Nat.lt_of_lt_of_le (h.lt_of_mem e he) hle
    · rw [List.mem_singleton.mp he]
      exact hb.current_lt
  · intro e he
    rcases List.mem_append.mp he with he | he
    · exact h.ne_exit_of_mem e he
    · rw [List.mem_singleton.mp he]
      exact hb.current_ne_exit
  · intro e he
    rcases List.mem_append.mp he with he | he
    · exact (hsteps.succs_eq (h.not_inner_of_mem he)).trans (h.succs_of_mem e he)
    · rw [List.mem_singleton.mp he]
      exact hopen

/-- A branch that starts from the last test. -/
theorem advances_take {body : List Stmt} (hbody : LowersStmts names body) (kind : BlockKind)
    (h : br.WellFormed) : Advances names br (effectsOfStmts body) (br.take names kind body) := by
  have hstart : Builder.Steps names br.inner br.builder [] (br.builder.startAfter br.test kind) :=
    (Builder.Steps.refl _).startAfter kind (.inl rfl) h.test_lt h.test_ne_exit
  have hopen := Builder.open_startAfter br.builder kind h.test_lt
  have hlower := hbody _ (hstart.wellFormed h.builder) hopen
  have hinner : ∀ i, (br.builder.startAfter br.test kind).inner i → br.inner i := by
    intro i hi
    simp only [Builder.inner, Builder.current_startAfter, Builder.size_startAfter] at hi
    unfold Branching.inner
    omega
  have hsteps := hstart.trans (hlower.steps.mono hinner)
  have hevents : ∀ i < br.builder.size,
      (lowerStmts names body (br.builder.startAfter br.test kind)).graph.events i
        = br.builder.graph.events i := by
    intro i hi
    have hlt : i < (br.builder.startAfter br.test kind).size := by
      rw [Builder.size_startAfter]; omega
    rw [hlower.steps.events_eq (by simp) hlt (by rw [Builder.current_startAfter]; omega),
      Builder.events_startAfter]
  have hnew : br.builder.size ≤ (lowerStmts names body (br.builder.startAfter br.test kind)).current
    := by
    have hcur := hlower.steps.current_eq_or
    simp only [Builder.current_startAfter, Builder.size_startAfter] at hcur
    omega
  rw [List.nil_append] at hsteps
  exact ⟨hsteps, hevents, h.add_end hsteps hnew hlower.isOpen, .inl rfl,
    ⟨_, rfl, by simpa using hnew⟩⟩

/-- A further test that starts from the last one. -/
theorem advances_nextTest (condition : Expr) (h : br.WellFormed) :
    Advances names br condition.effects (br.nextTest names condition) := by
  have hstart : Builder.Steps names br.inner br.builder []
      (br.builder.startAfter br.test .elseIfTest) :=
    (Builder.Steps.refl _).startAfter .elseIfTest (.inl rfl) h.test_lt h.test_ne_exit
  have hsteps := hstart.performAll condition.effects
  rw [List.nil_append] at hsteps
  have hexit := h.builder.exit_lt
  have hsize : (br.nextTest names condition).builder.size = br.builder.size + 1 := by
    simp [nextTest]
  refine ⟨hsteps, ?_, ⟨hsteps.wellFormed h.builder, ?_, ?_, ?_, h.nodup, ?_, h.ne_exit_of_mem, ?_⟩,
    .inr (Nat.le_refl _), ⟨[], by simp [nextTest]⟩⟩
  · intro i hi
    have hread : Builder.Steps names (fun _ => True) (br.builder.startAfter br.test .elseIfTest)
        condition.effects (br.nextTest names condition).builder := .self_performAll _ _
    rw [hread.events_eq (by simp) (by rw [Builder.size_startAfter]; omega)
      (by rw [Builder.current_startAfter]; omega), Builder.events_startAfter]
  · rw [hsize]
    exact Nat.lt_succ_self _
  · show br.builder.size ≠ Graph.exit
    omega
  · show br.builder.size ∉ br.ends
    exact fun hmem => Nat.lt_irrefl _ (h.lt_of_mem _ hmem)
  · intro e he
    have := h.lt_of_mem e he
    rw [hsize]; omega
  · intro e he
    exact (hsteps.succs_eq (h.not_inner_of_mem he)).trans (h.succs_of_mem e he)

/-- A further condition and its block. -/
theorem advances_alternative {body : List Stmt} (hbody : LowersStmts names body) (condition : Expr)
    (h : br.WellFormed) :
    Advances names br (Alternative.mk condition body).effects
      (lowerAlternative names (.mk condition body) br) := by
  have htest : Advances names br condition.effects (br.nextTest names condition) :=
    advances_nextTest condition h
  rw [lowerAlternative_eq]
  exact htest.trans (advances_take hbody .elseIfBranch htest.wellFormed)

/-- The branches are complete: what remains is to let the ends meet. -/
structure Finished (names : Names) (br : Branching) (es : List Effect) (br' : Branching) :
    Prop where
  steps : Builder.Steps names br.inner br.builder es br'.builder
  nodup : br'.ends.Nodup
  lt_of_mem : ∀ e ∈ br'.ends, e < br'.builder.size
  ne_exit_of_mem : ∀ e ∈ br'.ends, e ≠ Graph.exit
  mem_or_inner : ∀ e ∈ br'.ends, e ∈ br.ends ∨ br.inner e

/-- With or without a last branch, the branches are complete afterwards. -/
theorem finished_finish {otherwise : List Stmt} (hbody : LowersStmts names otherwise)
    (h : br.WellFormed) :
    Finished names br (effectsOfStmts otherwise) (br.finish names otherwise) := by
  cases otherwise with
  | nil =>
    refine ⟨.refl _, ?_, ?_, ?_, ?_⟩
    · refine List.nodup_append.mpr ⟨h.nodup, by simp, fun a ha b hb hab => h.test_not_mem ?_⟩
      rwa [← List.mem_singleton.mp hb, ← hab]
    · intro e he
      rcases List.mem_append.mp he with he | he
      · exact h.lt_of_mem e he
      · exact List.mem_singleton.mp he ▸ h.test_lt
    · intro e he
      rcases List.mem_append.mp he with he | he
      · exact h.ne_exit_of_mem e he
      · exact List.mem_singleton.mp he ▸ h.test_ne_exit
    · intro e he
      rcases List.mem_append.mp he with he | he
      · exact .inl he
      · exact .inr (.inl (List.mem_singleton.mp he))
  | cons s rest =>
    have htake := advances_take hbody .elseBranch h
    refine ⟨htake.steps, htake.wellFormed.nodup, htake.wellFormed.lt_of_mem,
      htake.wellFormed.ne_exit_of_mem, fun e he => ?_⟩
    obtain ⟨added, heq, hge⟩ := htake.ends_eq
    rw [show (br.finish names (s :: rest)).ends = br.ends ++ added from heq] at he
    rcases List.mem_append.mp he with he | he
    · exact .inl he
    · exact .inr (.inr (hge e he))

/-- The ends of a branching statement are blocks that it may draw edges from. -/
theorem Finished.inner_of_mem {b : Builder} (h' : Finished names br fs br')
    (h : Advances names (opened b) es br) (e : Nat)
    (he : e ∈ br'.ends) : b.inner e := by
  obtain ⟨added, heq, hge⟩ := h.ends_eq
  rcases h'.mem_or_inner e he with hmem | hinner
  · rw [heq] at hmem
    rcases List.mem_append.mp hmem with hmem | hmem
    · cases hmem
    · exact .inr (hge e hmem)
  · exact h.inner_of_inner e hinner

/-- Letting the ends of all branches meet completes a branching statement. -/
theorem lowers_meet {b : Builder}
    (h : Advances names (opened b) es br) (h' : Finished names br fs br') :
    Builder.Lowers names b (es ++ fs) (br'.builder.meet br'.ends) where
  steps := (h.steps.trans (h'.steps.mono h.inner_of_inner)).meet _ (h'.inner_of_mem h)
    h'.lt_of_mem h'.ne_exit_of_mem
  isOpen := Builder.open_meet _ _ h'.lt_of_mem h'.nodup

/-- Before the first branch no branch has ended. -/
theorem wellFormed_opened {b : Builder} (h : b.WellFormed) : (opened b).WellFormed where
  builder := h
  test_lt := h.current_lt
  test_ne_exit := h.current_ne_exit
  test_not_mem := by simp [opened]
  nodup := by simp [opened]
  lt_of_mem := by simp [opened]
  ne_exit_of_mem := by simp [opened]
  succs_of_mem := by simp [opened]

end Branching

/-- What lowering further conditions does, whatever comes before them. -/
def AdvancesAlternatives (names : Names) (alternatives : List Alternative) : Prop :=
  ∀ br : Branching, br.WellFormed →
    Branching.Advances names br (effectsOfAlternatives alternatives)
      (lowerAlternatives names alternatives br)

/-- A branching statement is lowered branch by branch, in the order of the text. -/
theorem lowers_branches {body otherwise : List Stmt} {alternatives : List Alternative}
    (hbody : LowersStmts names body) (halternatives : AdvancesAlternatives names alternatives)
    (hotherwise : LowersStmts names otherwise) {b : Builder} (hb : b.WellFormed) :
    Builder.Lowers names b
      (effectsOfStmts body ++ (effectsOfAlternatives alternatives ++ effectsOfStmts otherwise))
      (lowerBranches names body alternatives otherwise b) := by
  have htake := Branching.advances_take hbody .thenBranch (Branching.wellFormed_opened hb)
  have hall := htake.trans (halternatives _ htake.wellFormed)
  have hlast := Branching.finished_finish hotherwise hall.wellFormed
  have hmeet := Branching.lowers_meet hall hlast
  rwa [List.append_assoc] at hmeet

/-! ## Steps of statements -/

mutual

/-- Lowering a statement takes steps that perform its effects. -/
theorem lowerStmt_lowers (names : Names) (s : Stmt) (b : Builder) (hb : b.WellFormed)
    (ho : b.Open) : Builder.Lowers names b s.effects (lowerStmt names s b) := by
  match s with
  | .hole _ => exact ⟨.refl b, ho⟩
  | .generic _ => exact ⟨.refl b, ho⟩
  | .declare d =>
    rw [lowerStmt_declare]
    exact .performAll ho _
  | .assign a =>
    rw [lowerStmt_assign]
    exact .performAll ho _
  | .call c =>
    rw [lowerStmt_call]
    exact .performAll ho _
  | .leave span value =>
    rw [lowerStmt_leave]
    have hread : Builder.Lowers names b value.effects _ := .performAll ho _
    simpa [Stmt.effects] using hread.trans (.endRoutine (hread.steps.wellFormed hb))
  | .loopWhile span condition body =>
    rw [lowerStmt_loopWhile]
    exact lowers_loop (lowerStmts_lowers names body) condition.effects hb
  | .loopFor span counter first last collection body =>
    rw [lowerStmt_loopFor]
    have hread : Builder.Lowers names b (first.effects ++ last.effects ++ collection.effects) _ :=
      .performAll ho _
    exact hread.trans (lowers_loop (lowerStmts_lowers names body)
      (effectsOfTarget .loopCounter counter) (hread.steps.wellFormed hb))
  | .branch span condition body alternatives otherwise =>
    rw [lowerStmt_branch]
    have hread : Builder.Lowers names b condition.effects _ := .performAll ho _
    exact hread.trans (lowers_branches (lowerStmts_lowers names body)
      (lowerAlternatives_advances names alternatives) (lowerStmts_lowers names otherwise)
      (hread.steps.wellFormed hb))

/-- Lowering a block of statements takes steps that perform its effects. -/
theorem lowerStmts_lowers (names : Names) (body : List Stmt) (b : Builder) (hb : b.WellFormed)
    (ho : b.Open) : Builder.Lowers names b (effectsOfStmts body) (lowerStmts names body b) := by
  match body with
  | [] => exact ⟨.refl b, ho⟩
  | s :: rest =>
    have hs := lowerStmt_lowers names s b hb ho
    exact hs.trans (lowerStmts_lowers names rest _ (hs.steps.wellFormed hb) hs.isOpen)

/-- Further conditions are lowered branch by branch, by the recursion over them. -/
theorem lowerAlternatives_advances (names : Names) (alternatives : List Alternative)
    (br : Branching) (h : br.WellFormed) :
    Branching.Advances names br (effectsOfAlternatives alternatives)
      (lowerAlternatives names alternatives br) := by
  match alternatives with
  | [] => exact .refl h
  | .mk condition body :: rest =>
    have hone := Branching.advances_alternative (lowerStmts_lowers names body) condition h
    exact hone.trans (lowerAlternatives_advances names rest _ hone.wellFormed)

end

end ModuleLint.Flow
