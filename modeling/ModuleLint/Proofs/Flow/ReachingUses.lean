import Mathlib.Data.List.Forall2
import ModuleLint.Flow.Analysis
import ModuleLint.Proofs.Flow.Solution

/-!
# Reaching definitions are exact

The definitions that are recorded for a use are exactly those that are in force on some path from the
entry up to it (`reaching_exact_of_analyze`). In a block that no path leads to, nothing comes in, and
what is recorded is the nearest definition before the use in the block itself.
-/

set_option autoImplicit false

namespace ModuleLint.Flow

/-- The events passed on some path from the entry up to a use. -/
def Graph.Arrives (g : Graph) (p : UsePoint) (passed : List Event) : Prop :=
  ∃ path, g.Path Graph.entry path p.block ∧ passed = path.dropLast.flatMap g.events ++ g.before p

/-- The last definition of a variable among some events. -/
def nearestDefinition (name : String) (es : List Event) : Option Nat :=
  es.reverse.findSome? fun e => if e.variableName == name then e.definition else none

/-- What is recorded for a use is exact: where it stands, and the definitions that reach it. -/
structure ReachingExact (g : Graph) (p : UsePoint) (u : Use) : Prop where
  stands_at : u.variableName = p.event.variableName ∧ u.line = p.event.line
    ∧ u.column = p.event.column ∧ u.block = p.block
  mem_iff_of_reaches : g.Reaches Graph.entry p.block → ∀ d, d ∈ u.reaching ↔
    g.Defines d u.variableName ∧ ∃ passed, g.Arrives p passed ∧ InForce u.variableName d passed
  eq_of_not_reaches : ¬ g.Reaches Graph.entry p.block →
    u.reaching = (nearestDefinition u.variableName (g.before p)).toList
  increasing : u.reaching.Pairwise (· < ·)
  lt_length : ∀ d ∈ u.reaching, d < g.definitions.length

variable {g : Graph} {name : String} {d : Nat}

/-! ## The nearest definition -/

/-- Where events agree with the list of definitions, the nearest definition is the one in force. -/
theorem nearestDefinition_eq_some_iff {es : List Event}
    (hes : ∀ e ∈ es, ∀ d, e.definition = some d → g.Defines d e.variableName) :
    nearestDefinition name es = some d ↔ g.Defines d name ∧ InForce name d es := by
  unfold nearestDefinition
  rw [List.findSome?_eq_some_iff]
  constructor
  · rintro ⟨later, e, earlier, hsplit, he, hlater⟩
    have hes' : es = earlier.reverse ++ e :: later.reverse := by
      rw [← List.reverse_reverse es, hsplit]
      simp
    split at he
    · rename_i hname
      have hdef := hes e (by rw [hes']; simp) d he
      rw [beq_iff_eq.mp hname] at hdef
      refine ⟨hdef, earlier.reverse, e, later.reverse, hes', he, fun x hx => ?_⟩
      have hnone := hlater x (List.mem_reverse.mp hx)
      unfold Event.defines
      split at hnone
      · rw [hnone]; rfl
      · rename_i hx; simp [hx]
    · cases he
  · rintro ⟨hdef, before, e, after, rfl, he, hafter⟩
    have hname : e.variableName = name := by
      have hdef' := hes e (by simp) d he
      unfold Graph.Defines at hdef hdef'
      rw [hdef'] at hdef
      exact Option.some.inj hdef
    refine ⟨after.reverse, e, before.reverse, by simp, by simp [hname, he], fun x hx => ?_⟩
    have hleft := hafter x (List.mem_reverse.mp hx)
    unfold Event.defines at hleft
    cases hxd : x.definition with
    | none => simp
    | some d' =>
      rw [hxd] at hleft
      simpa using hleft

/-- The nearest definition is that of one of the events. -/
theorem exists_mem_of_nearestDefinition {es : List Event} (h : nearestDefinition name es = some d) :
    ∃ e ∈ es, e.definition = some d := by
  obtain ⟨e, he, hd⟩ := List.exists_of_findSome?_eq_some h
  split at hd
  · exact ⟨e, List.mem_reverse.mp he, hd⟩
  · cases hd

/-- An increasing list with at most one member. -/
theorem eq_toList_of_mem_iff {xs : List Nat} {o : Option Nat} (hincreasing : xs.Pairwise (· < ·))
    (h : ∀ d, d ∈ xs ↔ o = some d) : xs = o.toList := by
  cases xs with
  | nil =>
    cases o with
    | none => rfl
    | some d => exact absurd ((h d).mpr rfl) List.not_mem_nil
  | cons x rest =>
    have hx : o = some x := (h x).mp List.mem_cons_self
    have hrest : rest = [] := by
      apply List.eq_nil_iff_forall_not_mem.mpr
      intro y hy
      have hlt := (List.pairwise_cons.mp hincreasing).1 y hy
      have hy' : o = some y := (h y).mp (List.mem_cons_of_mem _ hy)
      rw [hx, Option.some.injEq] at hy'
      omega
    rw [hx, hrest]
    rfl

/-! ## The definitions that reach a use -/

/-- The definitions recorded for a use are those of its variable that are in force before it. -/
theorem mem_reaching_useAt (b : Nat) (live : IdSet) (e : Event) :
    d ∈ (useAt g b live e).reaching ↔ g.Defines d e.variableName ∧ live.contains d = true := by
  unfold useAt
  simp only [IdSet.mem_below, IdSet.contains_inter, Bool.and_eq_true,
    Graph.contains_definitionsOf]
  constructor
  · exact fun h => ⟨h.2.2, h.2.1⟩
  · exact fun h => ⟨h.1.lt, h.2, h.1⟩

/-- What is in force before a use is in force at the end of some path up to it. -/
theorem contains_liveAfter_iff_arrives {budget : Nat} {s : Solver} (hg : g.WellFormed)
    (hsolve : solve g budget = .ok s) {p : UsePoint} (hp : g.Reaches Graph.entry p.block)
    (hd : g.Defines d name) :
    (liveAfter g (s.startOf p.block) (g.before p)).contains d = true
      ↔ ∃ passed, g.Arrives p passed ∧ InForce name d passed := by
  rw [contains_liveAfter hd, Solver.contains_start_iff hg hsolve hd]
  constructor
  · rintro (hforce | ⟨⟨path, hpath, hforce⟩, hleft⟩)
    · obtain ⟨path, hpath⟩ := hp
      exact ⟨_, ⟨path, hpath, rfl⟩, inForce_append.mpr (.inl hforce)⟩
    · exact ⟨_, ⟨path, hpath, rfl⟩, inForce_append.mpr (.inr ⟨hforce, hleft⟩)⟩
  · rintro ⟨passed, ⟨path, hpath, rfl⟩, hforce⟩
    rcases inForce_append.mp hforce with hforce | ⟨hforce, hleft⟩
    · exact .inl hforce
    · exact .inr ⟨⟨path, hpath, hforce⟩, hleft⟩

/-- What is recorded for a use point are the definitions that reach it. -/
theorem reachingExact_useAt {budget : Nat} {s : Solver} (hg : g.WellFormed)
    (hsolve : solve g budget = .ok s) (p : UsePoint) :
    ReachingExact g p (useAt g p.block (liveAfter g (s.startOf p.block) (g.before p)) p.event) where
  stands_at := ⟨rfl, rfl, rfl, rfl⟩
  mem_iff_of_reaches hp d := by
    rw [mem_reaching_useAt]
    refine and_congr_right fun hd => ?_
    exact contains_liveAfter_iff_arrives hg hsolve hp hd
  eq_of_not_reaches hp := by
    refine eq_toList_of_mem_iff (List.pairwise_lt_range.filter _) fun d => ?_
    have hevents : ∀ e ∈ g.before p, ∀ d, e.definition = some d → g.Defines d e.variableName :=
      fun e he d => hg.defines_of_event (List.mem_of_mem_take he)
    rw [mem_reaching_useAt]
    refine Iff.trans ?_ (nearestDefinition_eq_some_iff hevents).symm
    refine and_congr_right fun hd => ?_
    -- nothing comes in, since no path leads here
    have hnothing : ¬ (s.startOf p.block).contains d = true := by
      rw [Solver.contains_start_iff hg hsolve hd]
      rintro ⟨path, hpath, -⟩
      exact hp ⟨path, hpath⟩
    rw [contains_liveAfter hd]
    simp [hnothing, useAt]
  increasing := List.pairwise_lt_range.filter _
  lt_length d hd := (mem_reaching_useAt p.block _ p.event).mp hd |>.1.lt

/-! ## A routine with a loop and code behind a return -/

/-- A routine that prints `last` before it is assigned, adds up in a loop, assigns to `last` for
nothing, returns, and goes on where nothing leads to. -/
def adding : Routine :=
  let mention (name : String) : Reference := { span := none, name := name }
  let read (name : String) : Expr := .reference (mention name)
  let print (name : String) : Stmt :=
    .call { span := none, name := "Print", arguments := [read name] }
  let set (name : String) (value : Expr) : Stmt :=
    .assign { span := none, target := some (mention name), value := value }
  { span := none, name := "Adding", exported := false
    parameters := [some { span := none, name := "more", byValue := true, hasDefault := false }]
    body := [print "last", set "total" .hole,
      .loopWhile none (read "more") [set "last" .hole, set "total" (read "last")],
      set "last" .hole, .leave none (read "total"), set "total" (read "last"), print "total"] }

/-- A computation whose result is known in part has a result. -/
theorem exists_ok_of_toOption_map {ε α β : Type} {x : Except ε α} {f : α → β} {y : β}
    (h : x.toOption.map f = some y) : ∃ a, x = .ok a ∧ f a = y := by
  cases x with
  | error e => cases h
  | ok a => exact ⟨a, rfl, Option.some.inj h⟩

/-! ## The analysis of a routine -/

section Analysis

variable {budget : Nat} {m : Option Module} {kind : RoutineKind} {r : Routine} {result : Result}

/-- What an analysis that ends consists of. -/
theorem analyzeRoutine_eq_ok (h : analyzeRoutine budget m kind r = .ok result) :
    result.routine = r ∧ result.graph = Graph.ofRoutine m r
      ∧ result.reachable = (Graph.ofRoutine m r).reachable
      ∧ ∃ s, solve (Graph.ofRoutine m r) budget = .ok s
        ∧ result.uses = usesOf (Graph.ofRoutine m r) s := by
  unfold analyzeRoutine at h
  cases hsolve : solve (Graph.ofRoutine m r) budget with
  | error n =>
    simp only [hsolve] at h
    cases h
  | ok s =>
    simp only [hsolve, Except.ok.injEq] at h
    subst h
    exact ⟨rfl, rfl, rfl, s, rfl, rfl⟩

/-- The uses of an analysis are found at the use points of the graph, one for each. -/
theorem exists_uses_eq_map (h : analyzeRoutine budget m kind r = .ok result) :
    ∃ f : UsePoint → Use, result.uses = (Graph.ofRoutine m r).usePoints.map f
      ∧ ∀ p, ReachingExact (Graph.ofRoutine m r) p (f p) := by
  obtain ⟨-, -, -, s, hsolve, huses⟩ := analyzeRoutine_eq_ok h
  refine ⟨_, huses.trans (usesOf_eq_map _ s), fun p => ?_⟩
  exact reachingExact_useAt (Graph.wellFormed_ofRoutine m r) hsolve p

/-- A block is marked as reachable when there is a path from the entry to it. -/
theorem isReachable_iff (h : analyzeRoutine budget m kind r = .ok result) (b : Nat) :
    result.isReachable b = true ↔ (Graph.ofRoutine m r).Reaches Graph.entry b := by
  obtain ⟨-, -, hreachable, -⟩ := analyzeRoutine_eq_ok h
  unfold Result.isReachable
  rw [hreachable]
  exact Graph.reachable_iff (Graph.wellFormed_ofRoutine m r) b

/-- The uses that an analysis lists are those of the graph, block by block, and for each of them the
definitions listed are exactly those that can reach it. -/
theorem reaching_exact_of_analyze (h : analyzeRoutine budget m kind r = .ok result) :
    result.graph = Graph.ofRoutine m r
      ∧ List.Forall₂ (ReachingExact result.graph) result.graph.usePoints result.uses := by
  obtain ⟨-, hgraph, -⟩ := analyzeRoutine_eq_ok h
  obtain ⟨f, huses, hexact⟩ := exists_uses_eq_map h
  refine ⟨hgraph, ?_⟩
  rw [huses, hgraph, List.forall₂_map_right_iff, List.forall₂_same]
  exact fun p _ => hexact p

end Analysis

/-- Both assignments to `total` reach its use after the loop, nothing reaches the use of `last` that
comes first, and the code behind the return sees only itself. -/
theorem reaching_exact_adding :
    ∃ result, analyzeRoutine 20 none .function adding = .ok result
      ∧ result.uses.map (fun u => (u.variableName, u.reaching))
        = [("last", []), ("more", [0]), ("last", [2]), ("total", [1, 3]), ("last", []),
            ("total", [5])]
      ∧ result.graph = Graph.ofRoutine none adding
      ∧ List.Forall₂ (ReachingExact result.graph) result.graph.usePoints result.uses := by
  have hrun : (analyzeRoutine 20 none .function adding).toOption.map
      (fun result => result.uses.map fun u => (u.variableName, u.reaching))
        = some [("last", []), ("more", [0]), ("last", [2]), ("total", [1, 3]), ("last", []),
            ("total", [5])] := by decide
  obtain ⟨result, hok, huses⟩ := exists_ok_of_toOption_map hrun
  exact ⟨result, hok, huses, reaching_exact_of_analyze hok⟩

end ModuleLint.Flow
