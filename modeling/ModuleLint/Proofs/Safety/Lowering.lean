import ModuleLint.Proofs.Flow.RoutineGraph
import ModuleLint.Proofs.Safety.Careful

/-!
# Careful lowering

A routine is lowered carefully: every block that takes an event or an edge is looked up by its number, and a slot for a
node is only used if there is a node in it. No step of lowering faults (`ofRoutine_eq_ok`), whatever is missing in the
routine and in its module, and whatever kind of node the holes tell is missing.

What lowering needs is that the current block is there. Blocks are never given up, so the numbers that branching
statements and loops keep for later stay good (`Leads`).
-/

set_option autoImplicit false

namespace ModuleLint.Careful

open ModuleLint.Flow

/-! ## Steps of a builder -/

def modifyBlock (b : Builder) (i : Nat) (f : Block → Block) : Careful Builder := do
  let block ← fetch b.graph.blocks i
  let blocks ← store b.graph.blocks i (f block)
  return { b with graph := { b.graph with blocks := blocks } }

def addEdge (b : Builder) (source target : Nat) : Careful Builder := do
  let b ← modifyBlock b source fun blk => { blk with succs := blk.succs ++ [target] }
  modifyBlock b target fun blk => { blk with preds := blk.preds ++ [source] }

def startAfter (b : Builder) (source : Nat) (kind : BlockKind) : Careful Builder :=
  addEdge (b.startBlock kind) source b.graph.blocks.length

def addEvent (b : Builder) (e : Event) : Careful Builder :=
  modifyBlock b b.current fun blk => { blk with events := blk.events ++ [e] }

def define (names : Names) (origin : Origin) (name : String) (span : Span) (b : Builder) : Careful Builder := do
  let l ← line span
  let c ← column span
  let definition : Definition :=
    { variableName := name, line := l, column := c, origin := origin, block := b.current
      escapes := origin == .assignment && names.escapes name }
  let graph : Graph := { b.graph with definitions := b.graph.definitions ++ [definition] }
  addEvent { b with graph := graph }
    { variableName := name, line := l, column := c, definition := some b.graph.definitions.length }

def use (b : Builder) (r : Reference) : Careful Builder := do
  let l ← line r.span
  let c ← column r.span
  addEvent b { variableName := r.name, line := l, column := c, definition := none }

def defineTarget (names : Names) (origin : Origin) (target : Option Reference) (b : Builder) : Careful Builder :=
  ifPresent target b fun r => define names origin r.name r.span b

def endRoutine (b : Builder) : Careful Builder := do
  let b ← addEdge b b.current Graph.exit
  return b.startBlock .unreachable

def meet (b : Builder) (ends : List Nat) : Careful Builder :=
  ends.foldlM (fun c source => addEdge c source b.graph.blocks.length) (b.startBlock .join)

def endLoop (header : Nat) (b : Builder) : Careful Builder := do
  let b ← addEdge b b.current header
  startAfter b header .join

/-! ## Expressions and statements -/

mutual

/-- Uses what an expression reads. An empty slot is told from an expression before its shape is asked for. -/
def read (e : Expr) (b : Builder) : Careful Builder :=
  if !e.isPresent then .ok b
  else match e with
    | .hole missing => do
      visit missing [.reference, .binaryOperation, .call]
      return b
    | .reference r => use b r
    | .binary _ _ left right => do
      let b ← read left b
      read right b
    | .literal _ => .ok b
    | .call _ _ arguments => readAll arguments b
    | .generic _ => .ok b

def readAll : List Expr → Builder → Careful Builder
  | [], b => .ok b
  | e :: rest, b => do
    let b ← read e b
    readAll rest b

end

/-- Lowers one branch, which follows the last test. -/
def branch (kind : BlockKind) (body : Builder → Careful Builder) (br : Branching) : Careful Branching := do
  let b ← startAfter br.builder br.test kind
  let b ← body b
  return br.close b

/-- Lowers the last branch. Without one the last test is an end itself. -/
def finish (otherwise : List Stmt) (body : Builder → Careful Builder) (br : Branching) : Careful Branching :=
  if otherwise.isEmpty then .ok { br with ends := br.ends ++ [br.test] } else branch .elseBranch body br

/-- Lowers the body of a loop after its header. -/
def loop (body : Builder → Careful Builder) (b : Builder) : Careful Builder := do
  let header := b.current
  let b ← startAfter b header .loopBody
  let b ← body b
  endLoop header b

/-- Whether a slot for a statement is filled. -/
def isPresent : Stmt → Bool
  | .hole _ => false
  | _ => true

mutual

def lowerStmt (names : Names) (s : Stmt) (b : Builder) : Careful Builder :=
  if !isPresent s then .ok b
  else match s with
    | .hole missing => do
      visit missing [.declaration, .assignment, .call, .returnStatement, .ifStatement, .whileLoop, .forLoop]
      return b
    | .declare d => define names .declaration d.name d.span b
    | .assign a => do
      let b ← read a.value b
      defineTarget names .assignment a.target b
    | .branch _ condition body alternatives otherwise => do
      let b ← read condition b
      let opened ← branch .thenBranch (lowerStmts names body) { builder := b, test := b.current, ends := [] }
      let tested ← lowerAlternatives names alternatives opened
      let closed ← finish otherwise (lowerStmts names otherwise) tested
      meet closed.builder closed.ends
    | .loopWhile _ condition body => do
      let b ← startAfter b b.current .loopHeader
      let b ← read condition b
      loop (lowerStmts names body) b
    | .loopFor _ counter first last collection body => do
      let b ← read first b
      let b ← read last b
      let b ← read collection b
      let b ← startAfter b b.current .loopHeader
      let b ← defineTarget names .loopCounter counter b
      loop (lowerStmts names body) b
    | .leave _ value => do
      let b ← read value b
      endRoutine b
    | .call c => readAll c.arguments b
    | .generic _ => .ok b

def lowerStmts (names : Names) : List Stmt → Builder → Careful Builder
  | [], b => .ok b
  | s :: rest, b => do
    let b ← lowerStmt names s b
    lowerStmts names rest b

def lowerAlternative (names : Names) : Alternative → Branching → Careful Branching
  | .mk condition body, br => do
    let b ← startAfter br.builder br.test .elseIfTest
    let b ← read condition b
    branch .elseIfBranch (lowerStmts names body) { br with builder := b, test := b.current }

def lowerAlternatives (names : Names) : List Alternative → Branching → Careful Branching
  | [], br => .ok br
  | a :: rest, br => do
    let br ← lowerAlternative names a br
    lowerAlternatives names rest br

end

mutual

def locals (s : Stmt) : Careful (List String) :=
  if !isPresent s then .ok []
  else match s with
    | .hole missing => do
      visit missing [.declaration, .ifStatement, .whileLoop, .forLoop]
      return []
    | .declare d => .ok [d.name]
    | .branch _ _ body alternatives otherwise => do
      let inBody ← localsOfStmts body
      let inAlternatives ← localsOfAlternatives alternatives
      let inOtherwise ← localsOfStmts otherwise
      return inBody ++ inAlternatives ++ inOtherwise
    | .loopWhile _ _ body => localsOfStmts body
    | .loopFor _ _ _ _ _ body => localsOfStmts body
    | _ => .ok []

def localsOfStmts : List Stmt → Careful (List String)
  | [] => .ok []
  | s :: rest => do
    let first ← locals s
    let others ← localsOfStmts rest
    return first ++ others

def localsOfAlternatives : List Alternative → Careful (List String)
  | [] => .ok []
  | .mk _ body :: rest => do
    let first ← localsOfStmts body
    let others ← localsOfAlternatives rest
    return first ++ others

end

/-! ## Routines -/

/-- The names that a routine knows. -/
def namesOf (m? : Option Module) (r : Routine) : Careful Names := do
  let globals ← ifPresent m? [] fun m => present m.declarations
  let parameters ← present r.parameters
  let declared ← localsOfStmts r.body
  return { locals := declared
           parameters := parameters.map (·.name)
           references := (parameters.filter (!·.byValue)).map (·.name)
           moduleVariables := globals.map (·.name) }

def defineModuleVariables (names : Names) (m? : Option Module) (b : Builder) : Careful Builder :=
  ifPresent m? b fun m => do
    let globals ← present m.declarations
    globals.foldlM (fun b v =>
      if names.isLocal v.name then .ok b else define names .moduleVariable v.name v.span b) b

def defineParameters (names : Names) (r : Routine) (b : Builder) : Careful Builder := do
  let parameters ← present r.parameters
  parameters.foldlM (fun b p => define names .parameter p.name p.span b) b

/-- The flow graph of a routine. -/
def ofRoutine (m? : Option Module) (r : Routine) : Careful Graph := do
  let names ← namesOf m? r
  let b ← defineModuleVariables names m? Builder.start
  let b ← defineParameters names r b
  let b ← lowerStmts names r.body b
  let b ← addEdge b b.current Graph.exit
  return b.graph

/-! ## No step faults -/

/-- To change an entry is to put back its changed value. -/
theorem modify_eq_set {α : Type} (xs : List α) {i : Nat} (h : i < xs.length) (f : α → α) :
    xs.modify i f = xs.set i (f xs[i]) := by
  apply List.ext_getElem?
  intro k
  rw [List.getElem?_modify, List.getElem?_set]
  by_cases hk : i = k
  · subst hk
    simp [h]
  · simp [hk]

/-- A block of the graph can be changed. -/
theorem modifyBlock_eq_ok (b : Builder) {i : Nat} (h : i < b.size) (f : Block → Block) :
    modifyBlock b i f = .ok (b.modifyBlock i f) := by
  have hlt : i < b.graph.blocks.length := h
  unfold modifyBlock Builder.modifyBlock
  rw [fetch_eq_ok_iff.mpr (List.getElem?_eq_getElem hlt), ok_bind, store_eq_ok hlt, ok_bind,
    modify_eq_set _ hlt]
  rfl

/-- An edge between blocks of the graph can be drawn. -/
theorem addEdge_eq_ok (b : Builder) {source target : Nat} (hs : source < b.size) (ht : target < b.size) :
    addEdge b source target = .ok (b.addEdge source target) := by
  unfold addEdge
  rw [modifyBlock_eq_ok b hs, ok_bind, modifyBlock_eq_ok]
  · rfl
  · unfold Builder.size Builder.modifyBlock
    rw [List.length_modify]
    exact ht

/-- A careful execution on a builder ends without a fault, has all blocks that were there before, and leaves a current
block. -/
structure Leads (b : Builder) (x : Careful Builder) (b' : Builder) : Prop where
  eq_ok : x = .ok b'
  size_le : b.size ≤ b'.size
  current_lt : b'.current < b'.size

namespace Leads

variable {b b' b'' : Builder}

/-- Doing nothing leads to the same builder. -/
theorem refl (h : b.current < b.size) : Leads b (.ok b) b := ⟨rfl, Nat.le_refl _, h⟩

/-- Steps without a fault are taken one after another. -/
theorem bind {x : Careful Builder} {f : Builder → Careful Builder} (h : Leads b x b') (h' : Leads b' (f b') b'') :
    Leads b (x >>= f) b'' := by
  refine ⟨?_, Nat.le_trans h.size_le h'.size_le, h'.current_lt⟩
  rw [h.eq_ok, ok_bind, h'.eq_ok]

/-- A step that keeps the number of blocks and the current one. -/
theorem of_same {x : Careful Builder} (h : b.current < b.size) (hx : x = .ok b') (hsize : b'.size = b.size)
    (hcurrent : b'.current = b.current) : Leads b x b' :=
  ⟨hx, Nat.le_of_eq hsize.symm, by rw [hsize, hcurrent]; exact h⟩

variable {names : Names} {source target : Nat}

/-- An edge between blocks leads on. -/
theorem addEdge (h : b.current < b.size) (hs : source < b.size) (ht : target < b.size) :
    Leads b (Careful.addEdge b source target) (b.addEdge source target) :=
  of_same h (addEdge_eq_ok b hs ht) (Builder.size_addEdge b source target) rfl

/-- A new block leads on. -/
theorem startBlock (b : Builder) (kind : BlockKind) : Leads b (.ok (b.startBlock kind)) (b.startBlock kind) := by
  refine ⟨rfl, ?_, ?_⟩
  · rw [Builder.size_startBlock]
    exact Nat.le_succ _
  · rw [Builder.size_startBlock, Builder.current_startBlock]
    exact Nat.lt_succ_self _

/-- A block that follows another one of the graph leads on. -/
theorem startAfter (hs : source < b.size) (kind : BlockKind) :
    Leads b (Careful.startAfter b source kind) (b.startAfter source kind) := by
  have hopened := startBlock b kind
  exact hopened.bind (f := fun c => Careful.addEdge c source b.size)
    (addEdge hopened.current_lt (Nat.lt_of_lt_of_le hs hopened.size_le) hopened.current_lt)

/-- A use goes into the current block. -/
theorem use (h : b.current < b.size) (r : Reference) : Leads b (Careful.use b r) (b.use r) := by
  refine of_same h ?_ (Builder.size_addEvent ..) rfl
  unfold Careful.use
  rw [line_eq_ok, ok_bind, column_eq_ok, ok_bind]
  exact modifyBlock_eq_ok b h _

/-- A definition goes into the current block. -/
theorem define (h : b.current < b.size) (origin : Origin) (name : String) (span : Span) :
    Leads b (Careful.define names origin name span b) (b.define names origin name span) := by
  refine of_same h ?_ (Builder.size_perform b (.define origin name span)) rfl
  unfold Careful.define
  rw [line_eq_ok, ok_bind, column_eq_ok, ok_bind]
  exact modifyBlock_eq_ok { b with graph := { b.graph with definitions := b.graph.definitions ++ [_] } } h _

/-- The definition of a target goes into the current block, and a missing target is passed over. -/
theorem defineTarget (h : b.current < b.size) (origin : Origin) (t : Option Reference) :
    Leads b (Careful.defineTarget names origin t b) (b.defineTarget names origin t) := by
  cases t with
  | none => exact refl h
  | some r => exact define h origin r.name r.span

/-- A return draws an edge to the exit, which is there. -/
theorem endRoutine (h : b.current < b.size) (hexit : Graph.exit < b.size) :
    Leads b (Careful.endRoutine b) b.endRoutine := by
  exact (addEdge h h hexit).bind (startBlock _ .unreachable)

/-- The end of a loop draws an edge to its header, which is there. -/
theorem endLoop {header : Nat} (h : b.current < b.size) (hheader : header < b.size) :
    Leads b (Careful.endLoop header b) (b.endLoop header) := by
  refine (addEdge h h hheader).bind (startAfter ?_ .join)
  rw [Builder.size_addEdge]
  exact hheader

/-- Branches can meet when their ends are blocks. -/
theorem meet {ends : List Nat} (hends : ∀ e ∈ ends, e < b.size) : Leads b (Careful.meet b ends) (b.meet ends) := by
  have hmeet : Careful.meet b ends = .ok (b.meet ends) ∧ (b.meet ends).size = b.size + 1 := by
    apply foldlM_eq_ok (fun c : Builder => c.size = b.size + 1) (Builder.size_startBlock b .join)
    intro c e he hc
    have hlt := hends e he
    have hjoin : b.graph.blocks.length < c.size := by
      rw [hc]
      exact Nat.lt_succ_self _
    exact ⟨addEdge_eq_ok c (by omega) hjoin, (Builder.size_addEdge ..).trans hc⟩
  refine ⟨hmeet.1, ?_, ?_⟩
  · rw [Builder.size_meet]
    exact Nat.le_succ _
  · rw [Builder.size_meet, Builder.current_meet]
    exact Nat.lt_succ_self _

end Leads

/-! ## Expressions -/

mutual

/-- Reading an expression has no fault, by the recursion over its parts. -/
theorem leads_read : ∀ (e : Expr) {b : Builder}, b.current < b.size → Leads b (read e b) (b.read e)
  | .hole _, b, h => .refl h
  | .reference r, b, h => .use h r
  | .binary _ _ left right, b, h => by
    have hleft := leads_read left h
    have hboth := hleft.bind (leads_read right hleft.current_lt)
    unfold Builder.read at hboth ⊢
    rw [Expr.reads, List.foldl_append]
    exact hboth
  | .literal _, b, h => .refl h
  | .call _ _ arguments, b, h => by
    have hall := leads_readAll arguments h
    unfold Builder.read
    rw [Expr.reads]
    exact hall
  | .generic _, b, h => .refl h

/-- Reading expressions one after another has no fault. -/
theorem leads_readAll : ∀ (es : List Expr) {b : Builder}, b.current < b.size →
    Leads b (readAll es b) (b.readAll es)
  | [], b, h => .refl h
  | e :: rest, b, h => by
    have hfirst := leads_read e h
    have hall := hfirst.bind (leads_readAll rest hfirst.current_lt)
    unfold Builder.read Builder.readAll at hall
    unfold Builder.readAll
    rw [readsOfExprs, List.foldl_append]
    exact hall

end

/-! ## Statements -/

/-- Statements can be lowered: the exit and the current block are there. -/
structure Ready (b : Builder) : Prop where
  exit_lt : Graph.exit < b.size
  current_lt : b.current < b.size

/-- What is ready stays ready. -/
theorem Leads.ready {b b' : Builder} {x : Careful Builder} (h : Leads b x b') (hb : Ready b) : Ready b' :=
  ⟨Nat.lt_of_lt_of_le hb.exit_lt h.size_le, h.current_lt⟩

/-- Between the branches of a branching statement: the exit, the last test and the ends of the branches so far are
there. -/
structure Between (br : Branching) : Prop where
  exit_lt : Graph.exit < br.builder.size
  test_lt : br.test < br.builder.size
  ends_lt : ∀ e ∈ br.ends, e < br.builder.size

/-- A careful execution ends without a fault between the branches of a branching statement. -/
structure Advances (b : Builder) (x : Careful Branching) (br : Branching) : Prop where
  eq_ok : x = .ok br
  size_le : b.size ≤ br.builder.size
  between : Between br

section

variable {b b' : Builder} {br br' : Branching}

/-- Branches without a fault are lowered one after another. -/
theorem Advances.bind {x : Careful Branching} {f : Branching → Careful Branching} (h : Advances b x br)
    (h' : Advances br.builder (f br) br') : Advances b (x >>= f) br' := by
  refine ⟨?_, Nat.le_trans h.size_le h'.size_le, h'.between⟩
  rw [h.eq_ok, ok_bind, h'.eq_ok]

/-- A branching statement may end after some branches. -/
theorem Advances.leads {x : Careful Branching} {f : Branching → Careful Builder} (h : Advances b x br)
    (h' : Leads br.builder (f br) b') : Leads b (x >>= f) b' := by
  refine ⟨?_, Nat.le_trans h.size_le h'.size_le, h'.current_lt⟩
  rw [h.eq_ok, ok_bind, h'.eq_ok]

/-- A branching statement may begin after some steps. -/
theorem Leads.advances {x : Careful Builder} {f : Builder → Careful Branching} (h : Leads b x b')
    (h' : Advances b' (f b') br) : Advances b (x >>= f) br := by
  refine ⟨?_, Nat.le_trans h.size_le h'.size_le, h'.between⟩
  rw [h.eq_ok, ok_bind, h'.eq_ok]

end

/-- A branch is lowered without a fault when its block is. -/
theorem advances_branch {br : Branching} (h : Between br) (kind : BlockKind) {body : Builder → Careful Builder}
    {lowered : Builder → Builder} (hbody : ∀ b, Ready b → Leads b (body b) (lowered b)) :
    Advances br.builder (branch kind body br) (br.close (lowered (br.builder.startAfter br.test kind))) := by
  have hopened := Leads.startAfter h.test_lt kind
  have hready : Ready (br.builder.startAfter br.test kind) :=
    ⟨Nat.lt_of_lt_of_le h.exit_lt hopened.size_le, hopened.current_lt⟩
  have hlowered := hopened.bind (hbody _ hready)
  have hsize := hlowered.size_le
  refine ⟨?_, hsize, Nat.lt_of_lt_of_le h.exit_lt hsize, Nat.lt_of_lt_of_le h.test_lt hsize, ?_⟩
  · unfold branch
    rw [hopened.eq_ok, ok_bind, (hbody _ hready).eq_ok, ok_bind]
    rfl
  · intro e he
    rcases List.mem_append.mp he with he | he
    · exact Nat.lt_of_lt_of_le (h.ends_lt e he) hsize
    · rw [List.mem_singleton.mp he]
      exact hlowered.current_lt

/-- The last branch is lowered without a fault when its block is, and so is a statement that has none. -/
theorem advances_finish {names : Names} {br : Branching} (h : Between br) {otherwise : List Stmt}
    {body : Builder → Careful Builder} (hbody : ∀ b, Ready b → Leads b (body b) (Flow.lowerStmts names otherwise b)) :
    Advances br.builder (finish otherwise body br) (br.finish names otherwise) := by
  cases otherwise with
  | nil =>
    refine ⟨rfl, Nat.le_refl _, h.exit_lt, h.test_lt, ?_⟩
    intro e he
    rcases List.mem_append.mp he with he | he
    · exact h.ends_lt e he
    · rw [List.mem_singleton.mp he]
      exact h.test_lt
  | cons s rest => exact advances_branch h .elseBranch hbody

/-- A loop is lowered without a fault when its body is. -/
theorem leads_loop {b : Builder} (h : Ready b) {body : Builder → Careful Builder} {lowered : Builder → Builder}
    (hbody : ∀ b, Ready b → Leads b (body b) (lowered b)) :
    Leads b (loop body b) ((lowered (b.startAfter b.current .loopBody)).endLoop b.current) := by
  have hopened := Leads.startAfter h.current_lt .loopBody
  have hlowered := hbody _ (hopened.ready h)
  refine hopened.bind (hlowered.bind (Leads.endLoop hlowered.current_lt ?_))
  exact Nat.lt_of_lt_of_le h.current_lt (Nat.le_trans hopened.size_le hlowered.size_le)

section

variable (names : Names)

mutual

/-- Lowering a statement has no fault, by the recursion over its parts. -/
theorem leads_lowerStmt : ∀ (s : Stmt) (b : Builder), Ready b →
    Leads b (lowerStmt names s b) (Flow.lowerStmt names s b)
  | .hole _, b, h => by
    rw [Flow.lowerStmt]
    exact .refl h.current_lt
  | .declare d, b, h => by
    rw [Flow.lowerStmt]
    exact .define h.current_lt .declaration d.name d.span
  | .assign a, b, h => by
    have hvalue := leads_read a.value h.current_lt
    rw [Flow.lowerStmt]
    exact hvalue.bind (.defineTarget hvalue.current_lt .assignment a.target)
  | .branch _ condition body alternatives otherwise, b, h => by
    have hread := leads_read condition h.current_lt
    have hready := hread.ready h
    have hfirst : Between { builder := b.read condition, test := (b.read condition).current, ends := [] } :=
      ⟨hready.exit_lt, hready.current_lt, fun e he => nomatch he⟩
    have hopened := advances_branch hfirst .thenBranch (leads_lowerStmts body)
    have htested := advances_lowerAlternatives alternatives _ hopened.between
    have hclosed := advances_finish htested.between (leads_lowerStmts otherwise)
    rw [lowerStmt_branch, ← Builder.read_eq_performAll]
    exact hread.bind (hopened.leads (htested.leads (hclosed.leads (Leads.meet hclosed.between.ends_lt))))
  | .loopWhile _ condition body, b, h => by
    have hheader := Leads.startAfter h.current_lt .loopHeader
    have hread := leads_read condition hheader.current_lt
    rw [Flow.lowerStmt]
    exact hheader.bind (hread.bind (leads_loop (hread.ready (hheader.ready h)) (leads_lowerStmts body)))
  | .loopFor _ counter first last collection body, b, h => by
    have hfirst := leads_read first h.current_lt
    have hlast := leads_read last hfirst.current_lt
    have hcollection := leads_read collection hlast.current_lt
    have hheader := Leads.startAfter hcollection.current_lt .loopHeader
    have hcounter : Leads _ (defineTarget names .loopCounter counter _) _ :=
      .defineTarget hheader.current_lt .loopCounter counter
    have hready := hcounter.ready (hheader.ready (hcollection.ready (hlast.ready (hfirst.ready h))))
    rw [Flow.lowerStmt]
    exact hfirst.bind (hlast.bind (hcollection.bind (hheader.bind (hcounter.bind
      (leads_loop hready (leads_lowerStmts body))))))
  | .leave _ value, b, h => by
    have hread := leads_read value h.current_lt
    rw [Flow.lowerStmt]
    exact hread.bind (.endRoutine hread.current_lt (hread.ready h).exit_lt)
  | .call c, b, h => by
    rw [Flow.lowerStmt]
    exact leads_readAll c.arguments h.current_lt
  | .generic _, b, h => by
    rw [Flow.lowerStmt]
    exact .refl h.current_lt

/-- Lowering statements one after another has no fault. -/
theorem leads_lowerStmts : ∀ (ss : List Stmt) (b : Builder), Ready b →
    Leads b (lowerStmts names ss b) (Flow.lowerStmts names ss b)
  | [], b, h => by
    rw [Flow.lowerStmts]
    exact .refl h.current_lt
  | s :: rest, b, h => by
    have hfirst := leads_lowerStmt s b h
    rw [Flow.lowerStmts]
    exact hfirst.bind (leads_lowerStmts rest _ (hfirst.ready h))

/-- Lowering a further condition with its block has no fault. -/
theorem advances_lowerAlternative : ∀ (a : Alternative) (br : Branching), Between br →
    Advances br.builder (lowerAlternative names a br) (Flow.lowerAlternative names a br)
  | .mk condition body, br, h => by
    have htest := Leads.startAfter h.test_lt .elseIfTest
    have hread := leads_read condition htest.current_lt
    have hsize := Nat.le_trans htest.size_le hread.size_le
    have hbetween : Between { br with
        builder := (br.builder.startAfter br.test .elseIfTest).read condition
        test := ((br.builder.startAfter br.test .elseIfTest).read condition).current } :=
      ⟨Nat.lt_of_lt_of_le h.exit_lt hsize, hread.current_lt,
        fun e he => Nat.lt_of_lt_of_le (h.ends_lt e he) hsize⟩
    have hbranch := advances_branch hbetween .elseIfBranch (leads_lowerStmts body)
    rw [Flow.lowerAlternative]
    exact htest.advances (hread.advances hbranch)

/-- Lowering further conditions one after another has no fault. -/
theorem advances_lowerAlternatives : ∀ (as : List Alternative) (br : Branching), Between br →
    Advances br.builder (lowerAlternatives names as br) (Flow.lowerAlternatives names as br)
  | [], br, h => by
    rw [Flow.lowerAlternatives]
    exact ⟨rfl, Nat.le_refl _, h⟩
  | a :: rest, br, h => by
    have hfirst := advances_lowerAlternative a br h
    rw [Flow.lowerAlternatives]
    exact hfirst.bind (advances_lowerAlternatives rest _ hfirst.between)

end

end

/-! ## Routines -/

mutual

/-- Collecting the names that a statement declares has no fault, by the recursion over its parts. -/
theorem locals_eq_ok : ∀ s : Stmt, locals s = .ok s.locals
  | .hole _ => rfl
  | .declare _ => rfl
  | .assign _ => rfl
  | .branch _ _ body alternatives otherwise => by
    rw [Stmt.locals]
    show (localsOfStmts body >>= _) = _
    rw [localsOfStmts_eq_ok body, ok_bind, localsOfAlternatives_eq_ok alternatives, ok_bind,
      localsOfStmts_eq_ok otherwise]
    rfl
  | .loopWhile _ _ body => localsOfStmts_eq_ok body
  | .loopFor _ _ _ _ _ body => localsOfStmts_eq_ok body
  | .leave _ _ => rfl
  | .call _ => rfl
  | .generic _ => rfl

/-- Collecting the names that statements declare has no fault. -/
theorem localsOfStmts_eq_ok : ∀ ss : List Stmt, localsOfStmts ss = .ok (ModuleLint.localsOfStmts ss)
  | [] => rfl
  | s :: rest => by
    rw [localsOfStmts, locals_eq_ok s, ok_bind, localsOfStmts_eq_ok rest]
    rfl

/-- Collecting the names that further conditions declare has no fault. -/
theorem localsOfAlternatives_eq_ok :
    ∀ as : List Alternative, localsOfAlternatives as = .ok (ModuleLint.localsOfAlternatives as)
  | [] => rfl
  | .mk _ body :: rest => by
    rw [localsOfAlternatives, localsOfStmts_eq_ok body, ok_bind, localsOfAlternatives_eq_ok rest]
    rfl

end

/-- The names of a routine are collected without a fault, with or without a module. -/
theorem namesOf_eq_ok (m? : Option Module) (r : Routine) : namesOf m? r = .ok (Names.ofRoutine m? r) := by
  unfold namesOf
  rw [localsOfStmts_eq_ok, present_eq_ok]
  cases m? with
  | none => rfl
  | some m =>
    rw [ifPresent_some, present_eq_ok]
    rfl

/-- Defining variables one after another. -/
theorem leads_foldlM {α : Type} {f : Builder → α → Careful Builder} {g : Builder → α → Builder} (xs : List α)
    (h : ∀ b x, b.current < b.size → Leads b (f b x) (g b x)) {b : Builder} (hb : b.current < b.size) :
    Leads b (xs.foldlM f b) (xs.foldl g b) := by
  induction xs generalizing b with
  | nil => exact .refl hb
  | cons x rest ih =>
    have hfirst := h b x hb
    rw [List.foldlM_cons]
    exact hfirst.bind (ih hfirst.current_lt)

/-- The variables of the module are defined on entry, those that are missing passed over. -/
theorem leads_defineModuleVariables (names : Names) (m? : Option Module) {b : Builder} (hb : b.current < b.size) :
    Leads b (defineModuleVariables names m? b) (Flow.defineModuleVariables names m? b) := by
  cases m? with
  | none => exact .refl hb
  | some m =>
    unfold defineModuleVariables
    rw [ifPresent_some, present_eq_ok, ok_bind]
    apply leads_foldlM _ _ hb
    intro c v hc
    cases names.isLocal v.name with
    | true => exact .refl hc
    | false => exact .define hc .moduleVariable v.name v.span

/-- The parameters are defined on entry, those that are missing passed over. -/
theorem leads_defineParameters (names : Names) (r : Routine) {b : Builder} (hb : b.current < b.size) :
    Leads b (defineParameters names r b) (Flow.defineParameters names r b) := by
  unfold defineParameters
  rw [present_eq_ok, ok_bind]
  exact leads_foldlM _ (fun c p hc => .define hc .parameter p.name p.span) hb

/-- The flow graph of a routine is built without a fault. -/
theorem ofRoutine_eq_ok (m? : Option Module) (r : Routine) : ofRoutine m? r = .ok (Graph.ofRoutine m? r) := by
  have hstart : Ready Builder.start := ⟨by decide, by decide⟩
  have hvariables := leads_defineModuleVariables (Names.ofRoutine m? r) m? hstart.current_lt
  have hparameters := leads_defineParameters (Names.ofRoutine m? r) r hvariables.current_lt
  have hready := hparameters.ready (hvariables.ready hstart)
  have hbody := leads_lowerStmts (Names.ofRoutine m? r) r.body _ hready
  have hlast := Leads.addEdge hbody.current_lt hbody.current_lt (hbody.ready hready).exit_lt
  unfold ofRoutine
  rw [namesOf_eq_ok, ok_bind, hvariables.eq_ok, ok_bind, hparameters.eq_ok, ok_bind, hbody.eq_ok, ok_bind,
    hlast.eq_ok, ok_bind]
  rfl

end ModuleLint.Careful
