import ModuleLint.Proofs.Flow.Paths

/-!
# Paths are runs

The places passed along paths through the part of the graph that a statement is lowered to are those
of the runs of the statement (`lowerStmts_simulates`). The proof follows the text: lowering a statement
adds a part to the graph that simulates the runs of the statement, in whatever graph the rest of the
routine makes of it.

What the rest of the routine may still do is fixed by `Builder.Fits`. When a statement has been
lowered, the blocks that it has left behind keep their edges; only the block that is current then
may get events and edges. Between the branches of a branching statement more blocks are unfinished:
the last test and the ends of the branches (`Branching.Settled`).
-/

set_option autoImplicit false

namespace ModuleLint.Flow

variable {names : Names}

namespace Builder

/-- The number of events in the current block. -/
def position (b : Builder) : Nat := (b.graph.events b.current).length

/-- A builder between two statements, at the end of the given script. -/
structure Stage (names : Names) (b : Builder) (script : List Effect) : Prop where
  wellFormed : b.WellFormed
  isOpen : b.Open
  tells : b.Tells names script

/-- Further steps lead to the finished graph. -/
def Becomes (names : Names) (b final : Builder) : Prop :=
  ∃ es, Steps names (fun _ => True) b es final

/-- A finished graph fits a lowering from `b` to `b'` if it has been reached from `b'` and has
exactly the edges of `b'` at the blocks that the lowering was free to connect and has left behind. -/
structure Fits (names : Names) (b b' final : Builder) : Prop where
  becomes : Becomes names b' final
  succs_eq : ∀ i, b.inner i → i < b'.size → i ≠ b'.current →
    final.graph.succs i = b'.graph.succs i

variable {b b' b'' final : Builder} {es fs script : List Effect}

/-- Lowering a part leads to the stage after it. -/
theorem Stage.lowers (h : Stage names b script) (hl : Lowers names b es b') :
    Stage names b' (script ++ es) where
  wellFormed := hl.steps.wellFormed h.wellFormed
  isOpen := hl.isOpen
  tells := hl.steps.tells h.wellFormed h.tells

/-- A block that follows any block of the graph starts a new stage. -/
theorem Stage.startAfter (hb : b.WellFormed) (ht : b.Tells names script) {source : Nat}
    (kind : BlockKind) (hs : source < b.size) (hexit : source ≠ Graph.exit) :
    Stage names (b.startAfter source kind) script := by
  have hsteps : Steps names (fun _ => True) b [] (b.startAfter source kind) :=
    (Steps.refl b).startAfter kind trivial hs hexit
  have htells := hsteps.tells hb ht
  rw [List.append_nil] at htells
  exact ⟨hsteps.wellFormed hb, open_startAfter b kind hs, htells⟩

/-! ## Fitting parts of a lowering -/

/-- What leads to the finished graph after some steps does so before them. -/
theorem Steps.becomes {inner : Nat → Prop} (h : Steps names inner b es b')
    (hl : Becomes names b' final) : Becomes names b final := by
  obtain ⟨fs, hfs⟩ := hl
  exact ⟨_, (h.mono fun _ _ => trivial).trans hfs⟩

/-- A graph that fits a lowering fits its first part. -/
theorem Fits.left (h : Fits names b b'' final) (hl : Lowers names b' fs b'') :
    Fits names b b' final where
  becomes := hl.steps.becomes h.becomes
  succs_eq i hi hlt hne := by
    have hsize := hl.steps.size_le
    have hcur := hl.steps.current_eq_or
    have hout : ¬ b'.inner i := by unfold Builder.inner; omega
    rw [h.succs_eq i hi (by omega) (by omega), hl.steps.succs_eq hout]

/-- A graph that fits a lowering fits its second part. -/
theorem Fits.right (h : Fits names b b'' final) (hl : Lowers names b es b') :
    Fits names b' b'' final where
  becomes := h.becomes
  succs_eq i hi hlt hne := h.succs_eq i (hl.steps.inner_of_inner i hi) hlt hne

/-- The events of a block that is not current any more are final. -/
theorem Becomes.events_eq (hl : Becomes names b final)
    (hb : b.current < b.size) {i : Nat} (hi : i < b.size) (hne : i ≠ b.current) :
    final.graph.events i = b.graph.events i := by
  obtain ⟨fs, hfs⟩ := hl
  exact hfs.events_eq hb hi hne

/-! ## Places of a stage -/

/-- Blocks up to the current one start at the same place in the finished graph. -/
theorem Steps.offset_eq {inner : Nat → Prop} (h : Steps names inner b es b')
    (hb : b.current < b.size) {i : Nat} (hi : i ≤ b.current) :
    b'.graph.offset i = b.graph.offset i := by
  unfold Graph.offset
  congr 1
  apply List.flatMap_congr
  intro x hx
  have hx' := List.mem_range.mp hx
  exact h.events_eq hb (by omega) (by omega)

/-- The current block is the last one with events. -/
theorem WellFormed.offset_size (h : b.WellFormed) :
    b.graph.offset b.size = b.graph.offset b.current + b.position := by
  have hlater : ∀ n, b.graph.offset (b.current + 1 + n) = b.graph.offset (b.current + 1) := by
    intro n
    induction n with
    | zero => rfl
    | succ n ih =>
      rw [← Nat.add_assoc, Graph.offset_succ, ih, h.events_later _ (by omega)]
      rfl
  have hsize : b.size = b.current + 1 + (b.size - (b.current + 1)) := by
    have := h.current_lt
    omega
  rw [hsize, hlater, Graph.offset_succ]
  rfl

/-- The next place of a stage is the length of its script. -/
theorem Stage.place (h : Stage names b script) (hl : Becomes names b final) :
    final.graph.offset b.current + b.position = script.length := by
  obtain ⟨fs, hfs⟩ := hl
  have hscript : b.graph.offset b.size = script.length := by
    unfold Graph.offset
    rw [h.tells.events, length_eventsFrom]
  rw [hfs.offset_eq h.wellFormed.current_lt (Nat.le_refl _), ← h.wellFormed.offset_size, hscript]

/-- A block that has just been opened has no events. -/
theorem position_startAfter (b : Builder) (source : Nat) (kind : BlockKind) :
    (b.startAfter source kind).position = 0 := by
  unfold position
  rw [events_startAfter, current_startAfter, events_of_size_le b (Nat.le_refl _)]
  rfl

/-- The block where branches meet has no events yet. -/
theorem position_meet (b : Builder) (ends : List Nat) : (b.meet ends).position = 0 := by
  unfold position
  rw [events_meet, current_meet, events_of_size_le b (Nat.le_refl _)]
  rfl

/-- Each effect is one more event of the current block. -/
theorem position_performAll (hb : b.current < b.size) (es : List Effect) :
    (b.performAll names es).position = b.position + es.length := by
  induction es generalizing b with
  | nil => rfl
  | cons e rest ih =>
    have hone : (b.perform names e).position = b.position + 1 := by
      unfold position
      rw [current_perform, events_perform _ _ _ hb, if_pos rfl]
      simp
    have hrest := ih (b := b.perform names e) (by simpa using hb)
    rw [List.length_cons]
    show ((b.perform names e).performAll names rest).position = _
    omega

end Builder

/-! ## Simulation of loops and returns -/

open Builder

/-- The part of the finished graph between two builders simulates some runs. -/
def SimulatesFrom (final b : Builder) (p : Runs) (b' : Builder) : Prop :=
  Simulates final.graph p b.current b.position b'.current b'.position

variable {b b' final : Builder} {script : List Effect}

/-- Effects performed in the current block are passed one after another. -/
theorem simulates_performAll (h : Stage names b script) (es : List Effect)
    (hl : Becomes names (b.performAll names es) final) :
    SimulatesFrom final b (.pass (placesFrom script.length es)) (b.performAll names es) := by
  have hcur := h.wellFormed.current_lt
  have hperform : Steps names b.inner b es (b.performAll names es) := .self_performAll b es
  have hplace := h.place (hperform.becomes hl)
  have hpos : (b.performAll names es).position = b.position + es.length :=
    position_performAll hcur es
  obtain ⟨fs, hfs⟩ := hl
  have hprefix := (hfs.events_prefix (by simpa using hcur) b.current).length_le
  have hroom : b.position + es.length ≤ (final.graph.events b.current).length := by
    rw [← hpos]
    unfold position
    rwa [current_performAll]
  have hpass := Simulates.pass hroom
  rw [hplace] at hpass
  unfold SimulatesFrom placesFrom
  rwa [current_performAll, hpos]

/-- Crossing into the block that follows the current one. -/
theorem simulates_startAfter (hb : b.WellFormed) (kind : BlockKind)
    (hl : Becomes names (b.startAfter b.current kind) final)
    (hs : final.graph.succs b.current = [b.size]) :
    SimulatesFrom final b (.pass []) (b.startAfter b.current kind) := by
  have hlt := hb.current_lt
  have hevents : final.graph.events b.current = b.graph.events b.current := by
    rw [hl.events_eq (by simp) (by rw [size_startAfter]; omega)
      (by rw [current_startAfter]; omega), events_startAfter]
  have hedge := Simulates.edge hb.current_ne_exit hs
  unfold SimulatesFrom
  rw [position_startAfter, current_startAfter]
  unfold position
  rwa [← hevents]

/-- What holds of the part of a graph that a block of statements is lowered to. -/
def SimulatesStmts (names : Names) (body : List Stmt) : Prop :=
  ∀ (b final : Builder) (script : List Effect), Stage names b script →
    Fits names b (lowerStmts names body b) final →
    SimulatesFrom final b (runsOfStmts body script.length) (lowerStmts names body b)

/-- The builder of a loop at the start of its body. -/
def loopInside (names : Names) (head : List Effect) (b : Builder) : Builder :=
  ((b.startAfter b.current .loopHeader).performAll names head).startAfter b.size .loopBody

/-- A loop is lowered up to its body, through it, and to its end. -/
theorem lowerLoop_eq (head : List Effect) (body : List Stmt) (b : Builder) :
    lowerLoop names head body b
      = (lowerStmts names body (loopInside names head b)).endLoop b.size := by
  simp only [lowerLoop, loopInside, current_performAll, current_startAfter]

/-- Header and body are two blocks. -/
@[simp] theorem size_loopInside (head : List Effect) (b : Builder) :
    (loopInside names head b).size = b.size + 2 := by
  simp [loopInside]

/-- The body starts in the second of them. -/
@[simp] theorem current_loopInside (head : List Effect) (b : Builder) :
    (loopInside names head b).current = b.size + 1 := by
  simp [loopInside]

/-- Up to its body a loop performs the effects of its head. -/
theorem lowers_loopInside (hb : b.WellFormed) (head : List Effect) :
    Lowers names b head (loopInside names head b) := by
  have hheader : Lowers names b [] _ := .startAfter hb .loopHeader
  have hentered := hheader.trans (.performAll hheader.isOpen head)
  have hinside := hentered.trans (.startAfter (hentered.steps.wellFormed hb) .loopBody)
  simpa [loopInside] using hinside

/-- Inside of a loop its header follows the block before it and leads into the body. -/
theorem succs_loopInside (hb : b.WellFormed) (head : List Effect) (i : Nat) :
    (loopInside names head b).graph.succs i
      = if i = b.size then [b.size + 1]
        else if i = b.current then b.graph.succs i ++ [b.size] else b.graph.succs i := by
  have hlt := hb.current_lt
  unfold loopInside
  rw [succs_startAfter _ _ _ (by simp), succs_performAll, succs_startAfter _ _ _ hlt]
  by_cases hi : i = b.size
  · subst hi
    simp [Nat.ne_of_gt hlt, succs_of_size_le b (Nat.le_refl _)]
  · simp [hi]

/-- At the end of a loop the body leads back to the header, and the header leads past the loop. -/
theorem Builder.succs_endLoop (hb : b.WellFormed) {header : Nat} (hlt : header < b.size)
    (hne : header ≠ b.current) (i : Nat) :
    (b.endLoop header).graph.succs i
      = if i = header then b.graph.succs i ++ [b.size]
        else if i = b.current then b.graph.succs i ++ [header] else b.graph.succs i := by
  unfold Builder.endLoop
  rw [succs_startAfter _ _ _ (by simpa using hlt), succs_addEdge _ _ _ _ hb.current_lt, size_addEdge]
  by_cases hi : i = header
  · simp [hi, hne]
  · simp [hi]

/-- The block after a loop has no events yet. -/
theorem position_endLoop (b : Builder) (header : Nat) : (b.endLoop header).position = 0 :=
  position_startAfter _ _ _

/-- The first block of the body of a loop has no events yet. -/
theorem position_loopInside (head : List Effect) (b : Builder) :
    (loopInside names head b).position = 0 :=
  position_startAfter _ _ _

/-- From the header to the body there are only steps. -/
theorem steps_loopInside (hb : b.WellFormed) (head : List Effect) :
    Steps names (fun _ => True) (b.startAfter b.current .loopHeader) head
      (loopInside names head b) := by
  have hentered : Steps names (fun _ => True) (b.startAfter b.current .loopHeader) head _ :=
    .self_performAll _ head
  exact hentered.startAfter .loopBody trivial (by simp) (Nat.ne_of_gt hb.exit_lt)

/-- The places of the header of a loop are those of its head. -/
theorem stretch_header (h : Stage names b script) (head : List Effect)
    (hl : Becomes names (loopInside names head b) final) :
    final.graph.stretch b.size = placesFrom script.length head := by
  have hb := h.wellFormed
  have hstage : Stage names (b.startAfter b.current .loopHeader) script :=
    .startAfter hb h.tells .loopHeader hb.current_lt hb.current_ne_exit
  have hplace := hstage.place ((steps_loopInside hb head).becomes hl)
  rw [position_startAfter, current_startAfter, Nat.add_zero] at hplace
  -- the body is another block, so the header has got all of its events
  have hevents : (final.graph.events b.size).length = head.length := by
    have hpos : ((b.startAfter b.current .loopHeader).performAll names head).position = _ :=
      position_performAll hstage.wellFormed.current_lt head
    unfold position at hpos
    rw [current_performAll, current_startAfter, events_startAfter,
      events_of_size_le b (Nat.le_refl _)] at hpos
    rw [hl.events_eq (by simp) (by rw [size_loopInside]; omega)
      (by rw [current_loopInside]; omega)]
    unfold loopInside
    rw [events_startAfter, hpos, List.length_nil, Nat.zero_add]
  unfold Graph.stretch placesFrom
  rw [hplace, hevents]

/-- The edges of a loop in a finished graph, and the fit of its body. -/
structure LoopEdges (names : Names) (b inside looped final : Builder) : Prop where
  enter : final.graph.succs b.current = [b.size]
  header : final.graph.succs b.size = [b.size + 1, looped.size]
  back : final.graph.succs looped.current = [b.size]
  body : Fits names inside looped final

/-- The finished graph has the edges of each loop. -/
theorem loopEdges {looped : Builder} {head es : List Effect} (hb : b.WellFormed) (ho : b.Open)
    (hlooped : Lowers names (loopInside names head b) es looped)
    (hfits : Fits names b (looped.endLoop b.size) final) :
    LoopEdges names b (loopInside names head b) looped final := by
  have hlt := hb.current_lt
  have hexit := hb.exit_lt
  have hb' := hlooped.steps.wellFormed ((lowers_loopInside hb head).steps.wellFormed hb)
  have hlt' := hb'.current_lt
  have hsize := hlooped.steps.size_le
  have hcur := hlooped.steps.current_eq_or
  rw [size_loopInside] at hsize
  rw [current_loopInside, size_loopInside] at hcur
  have hne : b.size ≠ looped.current := by omega
  -- the blocks that the loop has connected, all but the one after it
  have hsuccs : ∀ i, b.inner i → i < looped.size →
      final.graph.succs i = if i = b.size then looped.graph.succs i ++ [looped.size]
        else if i = looped.current then looped.graph.succs i ++ [b.size]
        else looped.graph.succs i := by
    intro i hi hlt
    rw [← succs_endLoop hb' (by omega) hne]
    apply hfits.succs_eq i hi
    · rw [size_endLoop]; omega
    · rw [current_endLoop]; omega
  have hold : ∀ i, i ≤ b.size →
      looped.graph.succs i = (loopInside names head b).graph.succs i := by
    intro i hi
    apply hlooped.steps.succs_eq
    simp only [Builder.inner, current_loopInside, size_loopInside]
    omega
  refine ⟨?_, ?_, ?_, ?_, ?_⟩
  · rw [hsuccs _ (.inl rfl) (by omega), if_neg (by omega), if_neg (by omega),
      hold _ (by omega), succs_loopInside hb, if_neg (by omega), if_pos rfl, ho]
    rfl
  · rw [hsuccs _ (.inr (Nat.le_refl _)) (by omega), if_pos rfl, hold _ (Nat.le_refl _),
      succs_loopInside hb, if_pos rfl]
    rfl
  · rw [hsuccs _ (.inr (by omega)) hlt', if_neg (Ne.symm hne), if_pos rfl, hlooped.isOpen]
    rfl
  · have hclose : Steps names (fun _ => True) looped [] (looped.endLoop b.size) :=
      (Steps.refl looped).endLoop hb' trivial trivial (by omega) (by omega)
    exact hclose.becomes hfits.becomes
  · intro i hi hlt hnc
    simp only [Builder.inner, current_loopInside, size_loopInside] at hi
    rw [hsuccs i (.inr (by omega)) hlt, if_neg (by omega), if_neg hnc]

/-- A loop: the header leads into the body and past the loop, and the body leads back. -/
theorem simulates_loop {body : List Stmt} (hlow : LowersStmts names body)
    (hsim : SimulatesStmts names body) (head : List Effect) (h : Stage names b script)
    (hfits : Fits names b (lowerLoop names head body b) final) :
    SimulatesFrom final b
      (.loop (placesFrom script.length head) (runsOfStmts body (script.length + head.length)))
      (lowerLoop names head body b) := by
  have hb := h.wellFormed
  have hexit := hb.exit_lt
  have hinside : Lowers names b head (loopInside names head b) := lowers_loopInside hb head
  have hstage := h.lowers hinside
  have hlooped := hlow _ hstage.wellFormed hstage.isOpen
  have hb' := (hstage.lowers hlooped).wellFormed
  rw [lowerLoop_eq] at hfits ⊢
  have hedges := loopEdges hb h.isOpen hlooped hfits
  have hbecomes := hlooped.steps.becomes hedges.body.becomes
  have hbody := hsim _ final _ hstage hedges.body
  -- the last block of the body is closed, so its end is the end of its events
  have hlast : final.graph.events (lowerStmts names body (loopInside names head b)).current
      = (lowerStmts names body (loopInside names head b)).graph.events
          (lowerStmts names body (loopInside names head b)).current := by
    have hlt := hb'.current_lt
    rw [hfits.becomes.events_eq (by simp) (by rw [size_endLoop]; omega)
      (by rw [current_endLoop]; omega), events_endLoop]
  unfold SimulatesFrom at hbody
  rw [current_loopInside, position_loopInside, List.length_append] at hbody
  have henter := simulates_startAfter hb .loopHeader
    ((steps_loopInside hb head).becomes hbecomes) hedges.enter
  have hround := Simulates.loop (Nat.ne_of_gt hexit) hedges.header
    (by rw [hlast]; exact hbody) hb'.current_ne_exit hedges.back
  rw [stretch_header h head hbecomes] at hround
  unfold SimulatesFrom at henter
  rw [position_startAfter, current_startAfter] at henter
  unfold SimulatesFrom
  rw [current_endLoop, position_endLoop]
  exact henter.nil_trans hround

/-- A return leads to the exit, whatever follows it in the text. -/
theorem simulates_endRoutine (hb : b.WellFormed) (ho : b.Open)
    (hfits : Fits names b b.endRoutine final) : SimulatesFrom final b .stop b.endRoutine := by
  have hlt := hb.current_lt
  have hsize : b.endRoutine.size = b.size + 1 := by simp [Builder.endRoutine]
  have hcur : b.endRoutine.current = b.size := by simp [Builder.endRoutine]
  have hsuccs : final.graph.succs b.current = [Graph.exit] := by
    rw [hfits.succs_eq _ (.inl rfl) (by omega) (by omega)]
    unfold Builder.endRoutine
    rw [succs_startBlock, succs_addEdge _ _ _ _ hlt, if_pos rfl, ho]
    rfl
  have hevents : final.graph.events b.current = b.graph.events b.current := by
    rw [hfits.becomes.events_eq (by omega) (by omega) (by omega)]
    simp [Builder.endRoutine]
  have hend : Lowers names b [] b.endRoutine := .endRoutine hb
  obtain ⟨fs, hfs⟩ := hfits.becomes
  have hfinal := hfs.wellFormed (hend.steps.wellFormed hb)
  unfold SimulatesFrom position
  rw [← hevents]
  exact .stop hb.current_ne_exit hsuccs hfinal.events_exit hfinal.succs_exit

/-! ## Simulation of branches -/

namespace Branching

/-- The finished graph settles what has been lowered of a branching statement that ends in the block
`join`: every end leads there, and the other blocks in scope but the last test keep their edges. -/
structure Settled (names : Names) (scope : Nat → Prop) (br : Branching) (final : Builder)
    (join : Nat) : Prop where
  becomes : Becomes names br.builder final
  events_eq : ∀ i < br.builder.size, final.graph.events i = br.builder.graph.events i
  succs_eq : ∀ i, scope i → i < br.builder.size → i ≠ br.test → i ∉ br.ends →
    final.graph.succs i = br.builder.graph.succs i
  succs_end : ∀ e ∈ br.ends, final.graph.succs e = [join]

/-- The last test gets one more edge, into a part that simulates the given runs. -/
def Leads (br : Branching) (final : Builder) (join : Nat) (q : Runs) : Prop :=
  ∃ x, final.graph.succs br.test = br.builder.graph.succs br.test ++ [x]
    ∧ Simulates final.graph q x 0 join 0

variable {br br' : Branching} {scope : Nat → Prop} {es : List Effect} {join : Nat} {q : Runs}

/-- What is settled later has been settled before. -/
theorem Settled.of_advances (h : Settled names scope br' final join)
    (ha : Advances names br es br') : Settled names scope br final join where
  becomes := ha.steps.becomes h.becomes
  events_eq i hi := by
    rw [h.events_eq i (Nat.lt_of_lt_of_le hi ha.steps.size_le), ha.events_eq i hi]
  succs_eq i hi hlt htest hends := by
    obtain ⟨added, heq, hge⟩ := ha.ends_eq
    have htest' := ha.inner_test
    have hout : ¬ br.inner i := by unfold Branching.inner; omega
    have hne : i ≠ br'.test := fun h => hout (h ▸ htest')
    have hends' : i ∉ br'.ends := by
      rw [heq, List.mem_append, not_or]
      exact ⟨hends, fun hmem => absurd (hge i hmem) (by omega)⟩
    rw [h.succs_eq i hi (Nat.lt_of_lt_of_le hlt ha.steps.size_le) hne hends',
      ha.steps.succs_eq hout]
  succs_end e he := by
    obtain ⟨added, heq, -⟩ := ha.ends_eq
    exact h.succs_end e (by rw [heq]; exact List.mem_append_left _ he)

/-- A branch follows the last test. -/
theorem succs_take_test {body : List Stmt} (hlow : LowersStmts names body) (kind : BlockKind)
    (h : br.WellFormed) :
    (br.take names kind body).builder.graph.succs br.test
      = br.builder.graph.succs br.test ++ [br.builder.size] := by
  have hstart : Builder.Steps names br.inner br.builder [] (br.builder.startAfter br.test kind) :=
    (Steps.refl _).startAfter kind (.inl rfl) h.test_lt h.test_ne_exit
  have hbody := hlow _ (hstart.wellFormed h.builder) (open_startAfter br.builder kind h.test_lt)
  have hout : ¬ (br.builder.startAfter br.test kind).inner br.test := by
    have := h.test_lt
    simp only [Builder.inner, current_startAfter, size_startAfter]
    omega
  have hsuccs := hbody.steps.succs_eq hout
  rw [succs_startAfter _ _ _ h.test_lt, if_pos rfl] at hsuccs
  exact hsuccs

/-- A branch simulates the runs of its block, up to where the branches meet. -/
theorem simulates_take {body : List Stmt} (hlow : LowersStmts names body)
    (hsim : SimulatesStmts names body) (kind : BlockKind) (h : br.WellFormed)
    (ht : br.builder.Tells names script) (hscope : ∀ i, br.inner i → scope i)
    (hset : Settled names scope (br.take names kind body) final join) :
    Simulates final.graph (runsOfStmts body script.length) br.builder.size 0 join 0 := by
  have hstage : Stage names (br.builder.startAfter br.test kind) script :=
    .startAfter h.builder ht kind h.test_lt h.test_ne_exit
  have hbody := hlow _ hstage.wellFormed hstage.isOpen
  have hb' := hbody.steps.wellFormed hstage.wellFormed
  have hend : (lowerStmts names body (br.builder.startAfter br.test kind)).current
      ∈ (br.take names kind body).ends :=
    List.mem_append_right _ (List.mem_singleton.mpr rfl)
  have hfits : Fits names (br.builder.startAfter br.test kind)
      (lowerStmts names body (br.builder.startAfter br.test kind)) final := by
    refine ⟨hset.becomes, fun i hi hlt hne => ?_⟩
    have hlt' := h.test_lt
    simp only [Builder.inner, current_startAfter, size_startAfter] at hi
    refine hset.succs_eq i (hscope i (.inr (by omega))) hlt (show i ≠ br.test by omega) fun hmem => ?_
    rcases List.mem_append.mp hmem with hmem | hmem
    · exact absurd (h.lt_of_mem i hmem) (by omega)
    · exact hne (List.mem_singleton.mp hmem)
  have hpart := hsim _ final script hstage hfits
  have hlast := Simulates.edge hb'.current_ne_exit (hset.succs_end _ hend)
  have hclosed : final.graph.events
      (lowerStmts names body (br.builder.startAfter br.test kind)).current = _ :=
    hset.events_eq _ hb'.current_lt
  rw [hclosed] at hlast
  unfold SimulatesFrom at hpart
  rw [current_startAfter, position_startAfter] at hpart
  exact hpart.trans_nil hlast

/-- A test whose block comes next: it is taken, or something else is done. -/
theorem simulates_test {body : List Stmt} (hlow : LowersStmts names body)
    (hsim : SimulatesStmts names body) (kind : BlockKind) (h : br.WellFormed)
    (ht : br.builder.Tells names script) (hscope : ∀ i, br.inner i → scope i)
    (hopen : br.builder.graph.succs br.test = [])
    (hset : Settled names scope (br.take names kind body) final join)
    (hleads : Leads (br.take names kind body) final join q) :
    Simulates final.graph ((runsOfStmts body script.length).either q) br.test
      (final.graph.events br.test).length join 0 := by
  obtain ⟨x, hx, hq⟩ := hleads
  have hsuccs : final.graph.succs br.test = [br.builder.size, x] := by
    have htake := succs_take_test hlow kind h
    rw [hopen] at htake
    exact hx.trans (congrArg (· ++ [x]) htake)
  exact .fork h.test_ne_exit hsuccs (simulates_take hlow hsim kind h ht hscope hset) hq

/-- The second edge of the last test leads to the next test. -/
theorem leads_nextTest (condition : Expr) (h : br.WellFormed)
    (ht : br.builder.Tells names script) (hscope : ∀ i, br.inner i → scope i)
    (hset : Settled names scope (br.nextTest names condition) final join)
    (hq : Simulates final.graph q br.builder.size
      (final.graph.events br.builder.size).length join 0) :
    Leads br final join
      ((Runs.pass (placesFrom script.length condition.effects)).andThen q) := by
  have htest := h.test_lt
  have hstage : Stage names (br.builder.startAfter br.test .elseIfTest) script :=
    .startAfter h.builder ht .elseIfTest h.test_lt h.test_ne_exit
  refine ⟨br.builder.size, ?_, ?_⟩
  · rw [hset.succs_eq br.test (hscope _ (.inl rfl)) (by simp [nextTest]; omega)
      (show br.test ≠ br.builder.size by omega) h.test_not_mem]
    simp only [nextTest, succs_performAll]
    rw [succs_startAfter _ _ _ h.test_lt, if_pos rfl]
  · have hread := simulates_performAll hstage condition.effects hset.becomes
    have hevents : (final.graph.events br.builder.size).length
        = (br.nextTest names condition).builder.position := by
      unfold position
      rw [hset.events_eq _ (by simp [nextTest])]
      simp [nextTest]
    rw [hevents] at hq
    unfold SimulatesFrom at hread
    rw [position_startAfter, current_startAfter, current_performAll, current_startAfter] at hread
    exact hread.trans hq

/-- A further condition is tested, and its block is taken or something else is done. -/
theorem leads_alternative {body : List Stmt} (hlow : LowersStmts names body)
    (hsim : SimulatesStmts names body) (condition : Expr) (h : br.WellFormed)
    (ht : br.builder.Tells names script) (hscope : ∀ i, br.inner i → scope i)
    (hset : Settled names scope (lowerAlternative names (.mk condition body) br) final join)
    (hleads : Leads (lowerAlternative names (.mk condition body) br) final join q) :
    Leads br final join (Alternative.runs (.mk condition body) script.length q) := by
  rw [lowerAlternative_eq] at hset hleads
  have hnext : Advances names br condition.effects (br.nextTest names condition) :=
    advances_nextTest condition h
  have htells := hnext.steps.tells h.builder ht
  have htake := advances_take hlow .elseIfBranch hnext.wellFormed
  have hopen : (br.nextTest names condition).builder.graph.succs br.builder.size = [] := by
    simp only [nextTest, succs_performAll]
    exact open_startAfter br.builder .elseIfTest h.test_lt
  have hfork := simulates_test hlow hsim .elseIfBranch hnext.wellFormed htells
    (fun i hi => hscope i (hnext.inner_of_inner i hi)) hopen hset hleads
  rw [List.length_append] at hfork
  simp only [Alternative.runs]
  exact leads_nextTest condition h ht hscope (hset.of_advances htake) hfork

/-- The branches are complete, and in the finished graph each end has one more edge to `join`. -/
structure Met (names : Names) (scope : Nat → Prop) (br : Branching) (final : Builder)
    (join : Nat) : Prop where
  becomes : Becomes names br.builder final
  events_eq : ∀ i < br.builder.size, final.graph.events i = br.builder.graph.events i
  succs_eq : ∀ i, scope i → i < br.builder.size → i ∉ br.ends →
    final.graph.succs i = br.builder.graph.succs i
  succs_end : ∀ e ∈ br.ends, final.graph.succs e = br.builder.graph.succs e ++ [join]

/-- Without a last block the last test itself leads to where the branches meet. -/
theorem settled_finish_nil (h : br.WellFormed)
    (hmet : Met names scope (br.finish names []) final join) :
    Settled names scope br final join ∧ Leads br final join (.pass []) := by
  refine ⟨⟨hmet.becomes, hmet.events_eq, fun i hi hlt hne hnot => ?_, fun e he => ?_⟩, join, ?_, ?_⟩
  · refine hmet.succs_eq i hi hlt fun hmem => ?_
    rcases List.mem_append.mp hmem with hmem | hmem
    · exact hnot hmem
    · exact hne (List.mem_singleton.mp hmem)
  · rw [hmet.succs_end e (List.mem_append_left _ he)]
    show br.builder.graph.succs e ++ [join] = [join]
    rw [h.succs_of_mem e he, List.nil_append]
  · exact hmet.succs_end br.test (List.mem_append_right _ (List.mem_singleton.mpr rfl))
  · exact Simulates.refl _ _ _

/-- The last block of a branching statement is one more branch of the last test. -/
theorem settled_finish_cons {otherwise : List Stmt} (hlow : LowersStmts names otherwise)
    (hsim : SimulatesStmts names otherwise) (h : br.WellFormed)
    (ht : br.builder.Tells names script) (hscope : ∀ i, br.inner i → scope i)
    (hmet : Met names scope (br.take names .elseBranch otherwise) final join) :
    Settled names scope br final join
      ∧ Leads br final join (runsOfStmts otherwise script.length) := by
  have htake := advances_take hlow .elseBranch h
  have hset : Settled names scope (br.take names .elseBranch otherwise) final join := by
    refine ⟨hmet.becomes, hmet.events_eq, fun i hi hlt _ hnot => hmet.succs_eq i hi hlt hnot,
      fun e he => ?_⟩
    rw [hmet.succs_end e he, htake.wellFormed.succs_of_mem e he, List.nil_append]
  refine ⟨hset.of_advances htake, br.builder.size, ?_,
    simulates_take hlow hsim .elseBranch h ht hscope hset⟩
  rw [← succs_take_test hlow .elseBranch h]
  exact hmet.succs_eq _ (hscope _ (.inl rfl))
    (Nat.lt_of_lt_of_le h.test_lt htake.steps.size_le) htake.wellFormed.test_not_mem

/-- With the last branch or without one, a branching statement is settled and its last test leads on. -/
theorem settled_finish {otherwise : List Stmt} (hlow : LowersStmts names otherwise)
    (hsim : SimulatesStmts names otherwise) (h : br.WellFormed)
    (ht : br.builder.Tells names script) (hscope : ∀ i, br.inner i → scope i)
    (hmet : Met names scope (br.finish names otherwise) final join) :
    Settled names scope br final join
      ∧ Leads br final join (runsOfStmts otherwise script.length) := by
  cases otherwise with
  | nil => exact settled_finish_nil h hmet
  | cons s rest => exact settled_finish_cons hlow hsim h ht hscope hmet

/-- The block where the branches meet completes them. -/
theorem met_meet {fs : List Effect}
    (ha : Advances names (opened b) es br)
    (hf : Finished names br fs br')
    (hfits : Fits names b (br'.builder.meet br'.ends) final) :
    Met names b.inner br' final br'.builder.size := by
  have hmeet : Steps names (fun _ => True) br'.builder [] (br'.builder.meet br'.ends) :=
    (Steps.refl _).meet _ (fun _ _ => trivial) hf.lt_of_mem hf.ne_exit_of_mem
  have hsuccs : ∀ i, b.inner i → i < br'.builder.size →
      final.graph.succs i = (br'.builder.meet br'.ends).graph.succs i := by
    intro i hi hlt
    exact hfits.succs_eq i hi (by rw [size_meet]; omega) (by rw [current_meet]; omega)
  refine ⟨hmeet.becomes hfits.becomes, fun i hi => ?_, fun i hi hlt hnot => ?_, fun e he => ?_⟩
  · rw [hfits.becomes.events_eq (by simp) (by rw [size_meet]; omega) (by rw [current_meet]; omega),
      events_meet]
  · rw [hsuccs i hi hlt, succs_meet _ _ _ hf.lt_of_mem hf.nodup, if_neg hnot]
  · rw [hsuccs e (hf.inner_of_mem ha e he) (hf.lt_of_mem e he),
      succs_meet _ _ _ hf.lt_of_mem hf.nodup, if_pos he]

end Branching

/-- What holds of the part of a graph that further conditions are lowered to. -/
def SimulatesAlternatives (names : Names) (alternatives : List Alternative) : Prop :=
  ∀ (scope : Nat → Prop) (br : Branching) (final : Builder) (script : List Effect) (join : Nat)
    (q : Runs), br.WellFormed → br.builder.Tells names script → (∀ i, br.inner i → scope i) →
    Branching.Settled names scope (lowerAlternatives names alternatives br) final join →
    Branching.Leads (lowerAlternatives names alternatives br) final join q →
    Branching.Leads br final join (runsOfAlternatives alternatives script.length q)

/-- A branching statement whose condition has just been read. -/
theorem simulates_branch {body otherwise : List Stmt} {alternatives : List Alternative}
    (hbody : SimulatesStmts names body) (halternatives : SimulatesAlternatives names alternatives)
    (hotherwise : SimulatesStmts names otherwise) (h : Stage names b script)
    (hfits : Fits names b (lowerBranches names body alternatives otherwise b) final) :
    SimulatesFrom final b
      ((runsOfStmts body script.length).either
        (runsOfAlternatives alternatives (script.length + (effectsOfStmts body).length)
          (runsOfStmts otherwise (script.length + (effectsOfStmts body).length
            + (effectsOfAlternatives alternatives).length))))
      (lowerBranches names body alternatives otherwise b) := by
  have hlow := lowerStmts_lowers names body
  have hlow' := lowerStmts_lowers names otherwise
  have hfirst := Branching.wellFormed_opened h.wellFormed
  have htake := Branching.advances_take hlow .thenBranch hfirst
  have halts := lowerAlternatives_advances names alternatives _ htake.wellFormed
  have hall := htake.trans halts
  have hdone := Branching.finished_finish hlow' halts.wellFormed
  have hmet := Branching.met_meet hall hdone hfits
  have htells := htake.steps.tells h.wellFormed h.tells
  have htells' := halts.steps.tells htake.wellFormed.builder htells
  -- what the branches may touch is inside of the statement
  have hscope : ∀ i, (Branching.opened b).inner i → b.inner i := fun i hi => hi
  obtain ⟨hset, hleads⟩ := Branching.settled_finish hlow' hotherwise halts.wellFormed htells'
    (fun i hi => hscope i (hall.inner_of_inner i hi)) hmet
  have hleads' := halternatives b.inner _ final _ _ _ htake.wellFormed htells
    (fun i hi => hscope i (htake.inner_of_inner i hi)) hset hleads
  have hfork := Branching.simulates_test hlow hbody .thenBranch hfirst h.tells hscope h.isOpen
    (hset.of_advances halts) hleads'
  have hevents : final.graph.events b.current = b.graph.events b.current :=
    (hset.of_advances hall).events_eq _ h.wellFormed.current_lt
  unfold SimulatesFrom lowerBranches
  simp only [List.length_append] at hfork
  rw [show (Branching.opened b).test = b.current from rfl, hevents] at hfork
  rw [current_meet, position_meet]
  exact hfork

/-! ## Simulation of statements -/

mutual

/-- The part of the graph that a statement is lowered to simulates the runs of the statement. -/
theorem lowerStmt_simulates (names : Names) (s : Stmt) (b final : Builder) (script : List Effect)
    (h : Stage names b script) (hfits : Fits names b (lowerStmt names s b) final) :
    SimulatesFrom final b (s.runs script.length) (lowerStmt names s b) := by
  match s with
  | .hole _ => exact Simulates.refl _ _ _
  | .generic _ => exact Simulates.refl _ _ _
  | .declare d =>
    rw [lowerStmt_declare] at hfits ⊢
    exact simulates_performAll h _ hfits.becomes
  | .assign a =>
    rw [lowerStmt_assign] at hfits ⊢
    exact simulates_performAll h _ hfits.becomes
  | .call c =>
    rw [lowerStmt_call] at hfits ⊢
    exact simulates_performAll h _ hfits.becomes
  | .leave span value =>
    rw [lowerStmt_leave] at hfits ⊢
    have hread : Lowers names b value.effects _ := .performAll h.isOpen _
    have hstage := h.lowers hread
    have hend : Lowers names _ [] _ := .endRoutine hstage.wellFormed
    have hpass := simulates_performAll h value.effects (hfits.left hend).becomes
    exact hpass.trans (simulates_endRoutine hstage.wellFormed hstage.isOpen (hfits.right hread))
  | .loopWhile span condition body =>
    rw [lowerStmt_loopWhile] at hfits ⊢
    exact simulates_loop (lowerStmts_lowers names body) (lowerStmts_simulates names body)
      condition.effects h hfits
  | .loopFor span counter first last collection body =>
    rw [lowerStmt_loopFor] at hfits ⊢
    have hread : Lowers names b (first.effects ++ last.effects ++ collection.effects) _ :=
      .performAll h.isOpen _
    have hstage := h.lowers hread
    have hloop := lowers_loop (lowerStmts_lowers names body)
      (effectsOfTarget .loopCounter counter) hstage.wellFormed
    have hpass := simulates_performAll h _ (hfits.left hloop).becomes
    have hrounds := simulates_loop (lowerStmts_lowers names body)
      (lowerStmts_simulates names body) _ hstage (hfits.right hread)
    rw [List.length_append] at hrounds
    exact hpass.trans hrounds
  | .branch span condition body alternatives otherwise =>
    rw [lowerStmt_branch] at hfits ⊢
    have hread : Lowers names b condition.effects _ := .performAll h.isOpen _
    have hstage := h.lowers hread
    have hbranches := lowers_branches (lowerStmts_lowers names body)
      (lowerAlternatives_advances names alternatives) (lowerStmts_lowers names otherwise)
      hstage.wellFormed
    have hpass := simulates_performAll h _ (hfits.left hbranches).becomes
    have hparts := simulates_branch (lowerStmts_simulates names body)
      (lowerAlternatives_simulates names alternatives) (lowerStmts_simulates names otherwise)
      hstage (hfits.right hread)
    rw [List.length_append] at hparts
    exact hpass.trans hparts

/-- The part of the graph that a block is lowered to simulates the runs of the block. -/
theorem lowerStmts_simulates (names : Names) (body : List Stmt) (b final : Builder)
    (script : List Effect) (h : Stage names b script)
    (hfits : Fits names b (lowerStmts names body b) final) :
    SimulatesFrom final b (runsOfStmts body script.length) (lowerStmts names body b) := by
  match body with
  | [] => exact Simulates.refl _ _ _
  | s :: rest =>
    have hs := lowerStmt_lowers names s b h.wellFormed h.isOpen
    have hstage := h.lowers hs
    have hrest := lowerStmts_lowers names rest _ hstage.wellFormed hstage.isOpen
    have hone := lowerStmt_simulates names s b final script h (hfits.left hrest)
    have hmore := lowerStmts_simulates names rest _ final _ hstage (hfits.right hs)
    rw [List.length_append] at hmore
    exact hone.trans hmore

/-- The part of the graph that further conditions are lowered to simulates their runs. -/
theorem lowerAlternatives_simulates (names : Names) (alternatives : List Alternative) :
    SimulatesAlternatives names alternatives := by
  intro scope br final script join q h ht hscope hset hleads
  match alternatives with
  | [] => exact hleads
  | .mk condition body :: rest =>
    have hlow := lowerStmts_lowers names body
    have hone := Branching.advances_alternative hlow condition h
    have hmore := lowerAlternatives_advances names rest _ hone.wellFormed
    have hrest := lowerAlternatives_simulates names rest scope _ final _ join q hone.wellFormed
      (hone.steps.tells h.builder ht) (fun i hi => hscope i (hone.inner_of_inner i hi)) hset hleads
    rw [List.length_append] at hrest
    exact Branching.leads_alternative hlow (lowerStmts_simulates names body) condition h ht hscope
      (hset.of_advances hmore) hrest

end

end ModuleLint.Flow
