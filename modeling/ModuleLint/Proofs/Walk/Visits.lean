import ModuleLint.Proofs.Walk.Observing

/-!
# The visits of a walk

A hook can keep a log while it is walked (`logging`); this does not change the walk
(`walkOutline_logging`). Two logs matter. `visits` holds what the hook is shown and how it reacts, up to
the panic that stops the walk. `freeVisits` holds the same for a walk on which panics are noted but stop
nothing, so it covers the whole outline (`map_node_freeVisits`). The first log is the second one, cut
after the first panic (`cut_walkOutline`).

A hook that neither panics nor enters scopes has no influence on what it is shown. Its walk is a fold over
the sightings of the outline (`walkOutline_quiet`).
-/

set_option autoImplicit false

namespace ModuleLint

/-- What a hook was shown, the scopes it entered and the panic it ended with. -/
structure Visit (γ : Type) where
  node : Node
  surroundings : γ
  entered : List String
  panic : Option Panic

section Definitions

variable {γ σ ε : Type}

def visitOf (hook : Hook γ σ) (n : Node) (g : γ) (s : σ) : Visit γ :=
  { node := n, surroundings := g, entered := (hook n g s).entered, panic := (hook n g s).panic }

/-- The hook with a log in which it makes a record of each visit. -/
def logging (record : Node → γ → σ → ε) (hook : Hook γ σ) : Hook γ (σ × List ε) := fun n g s =>
  { state := ((hook n g s.1).state, s.2 ++ [record n g s.1])
    entered := (hook n g s.1).entered
    panic := (hook n g s.1).panic }

/-- The hook without its panics. What it does before it would panic stays done. -/
def calm (hook : Hook γ σ) : Hook γ σ := fun n g s => { hook n g s with panic := none }

/-- The hook that does nothing. -/
def idleHook : Hook γ Unit := fun _ _ _ => { state := () }

def logOf (sur : Surroundings γ) (record : Node → γ → σ → ε) (hook : Hook γ σ) (o : Outline) (g : γ)
    (s : σ) : List ε :=
  (walkOutline sur (logging record hook) o g (s, [])).state.2

def logOfAll (sur : Surroundings γ) (record : Node → γ → σ → ε) (hook : Hook γ σ)
    (os : List Outline) (g : γ) (s : σ) : List ε :=
  (walkOutlines sur (logging record hook) os g (s, [])).state.2

/-- The visits that a hook receives on a walk. -/
def visits (sur : Surroundings γ) (hook : Hook γ σ) : Outline → γ → σ → List (Visit γ) :=
  logOf sur (visitOf hook) hook

/-- The visits that a hook receives on a walk that is not stopped when the hook panics. -/
def freeVisits (sur : Surroundings γ) (hook : Hook γ σ) : Outline → γ → σ → List (Visit γ) :=
  logOf sur (visitOf hook) (calm hook)

/-- The nodes of an outline, each with the surroundings in which an idle hook sees it. -/
def sightings (sur : Surroundings γ) (o : Outline) (g : γ) : List (Node × γ) :=
  logOf sur (fun n g _ => (n, g)) idleHook o g ()

def sightingsOfAll (sur : Surroundings γ) (os : List Outline) (g : γ) : List (Node × γ) :=
  logOfAll sur (fun n g _ => (n, g)) idleHook os g ()

end Definitions

/-! ## Logs -/

/-- Appending one by one is appending all. -/
theorem foldl_append_singleton {α : Type} (xs before : List α) :
    xs.foldl (fun log x => log ++ [x]) before = before ++ xs := by
  induction xs generalizing before with
  | nil => rw [List.foldl_nil, List.append_nil]
  | cons x rest ih => rw [List.foldl_cons, ih, List.append_assoc, List.singleton_append]

section Logs

variable {γ σ ε : Type} (sur : Surroundings γ) (record : Node → γ → σ → ε) (hook : Hook γ σ)

mutual

/-- What a walk adds to a log does not depend on the log, and the log does not change the walk. -/
theorem exists_log : ∀ (o : Outline) (g : γ) (s : σ), ∃ new : List ε, ∀ log : List ε,
    walkOutline sur (logging record hook) o g (s, log)
      = { surroundings := (walkOutline sur hook o g s).surroundings
          state := ((walkOutline sur hook o g s).state, log ++ new)
          panic := (walkOutline sur hook o g s).panic }
  | .node n children, g, s => by
    obtain ⟨below, hbelow⟩ := exists_log_all children
      (visit sur hook n (sur.enter n g) s).surroundings (visit sur hook n (sur.enter n g) s).state
    have hvisit : ∀ log, visit sur (logging record hook) n (sur.enter n g) (s, log)
        = { surroundings := (visit sur hook n (sur.enter n g) s).surroundings
            state := ((visit sur hook n (sur.enter n g) s).state,
              log ++ [record n (sur.enter n g) s])
            panic := (visit sur hook n (sur.enter n g) s).panic } := fun _ => rfl
    cases hpanic : (visit sur hook n (sur.enter n g) s).panic with
    | some cause =>
      refine ⟨[record n (sur.enter n g) s], fun log => ?_⟩
      simp only [walkOutline, within, Progress.andThen, hvisit, hpanic]
    | none =>
      refine ⟨record n (sur.enter n g) s :: below, fun log => ?_⟩
      simp only [walkOutline, within, Progress.andThen, hvisit, hpanic, hbelow, List.append_assoc,
        List.singleton_append]

/-- What a walk of trees side by side adds to a log does not depend on the log. -/
theorem exists_log_all : ∀ (os : List Outline) (g : γ) (s : σ), ∃ new : List ε, ∀ log : List ε,
    walkOutlines sur (logging record hook) os g (s, log)
      = { surroundings := (walkOutlines sur hook os g s).surroundings
          state := ((walkOutlines sur hook os g s).state, log ++ new)
          panic := (walkOutlines sur hook os g s).panic }
  | [], g, s => ⟨[], fun log => by simp only [walkOutlines, Progress.idle, List.append_nil]⟩
  | o :: rest, g, s => by
    obtain ⟨first, hfirst⟩ := exists_log o g s
    obtain ⟨later, hlater⟩ := exists_log_all rest (walkOutline sur hook o g s).surroundings
      (walkOutline sur hook o g s).state
    cases hpanic : (walkOutline sur hook o g s).panic with
    | some cause =>
      refine ⟨first, fun log => ?_⟩
      simp only [walkOutlines, Progress.andThen, hfirst, hpanic]
    | none =>
      refine ⟨first ++ later, fun log => ?_⟩
      simp only [walkOutlines, Progress.andThen, hfirst, hpanic, hlater, List.append_assoc]

end

/-- A log does not change the walk, and it grows by the same entries whatever it holds. -/
theorem walkOutline_logging (o : Outline) (g : γ) (s : σ) (log : List ε) :
    walkOutline sur (logging record hook) o g (s, log)
      = { surroundings := (walkOutline sur hook o g s).surroundings
          state := ((walkOutline sur hook o g s).state, log ++ logOf sur record hook o g s)
          panic := (walkOutline sur hook o g s).panic } := by
  obtain ⟨new, hnew⟩ := exists_log sur record hook o g s
  have hlog : logOf sur record hook o g s = new := by
    unfold logOf
    rw [hnew, List.nil_append]
  rw [hnew, hlog]

/-- A walk with a log is the walk, with its records at the end of the log. -/
theorem walkOutlines_logging (os : List Outline) (g : γ) (s : σ) (log : List ε) :
    walkOutlines sur (logging record hook) os g (s, log)
      = { surroundings := (walkOutlines sur hook os g s).surroundings
          state := ((walkOutlines sur hook os g s).state, log ++ logOfAll sur record hook os g s)
          panic := (walkOutlines sur hook os g s).panic } := by
  obtain ⟨new, hnew⟩ := exists_log_all sur record hook os g s
  have hlog : logOfAll sur record hook os g s = new := by
    unfold logOfAll
    rw [hnew, List.nil_append]
  rw [hnew, hlog]

/-- A node is recorded before those below it, which are recorded unless it panics. -/
theorem logOf_node (n : Node) (children : List Outline) (g : γ) (s : σ) :
    logOf sur record hook (.node n children) g s
      = record n (sur.enter n g) s
        :: match (hook n (sur.enter n g) s).panic with
          | some _ => []
          | none => logOfAll sur record hook children
              (visit sur hook n (sur.enter n g) s).surroundings
              (visit sur hook n (sur.enter n g) s).state := by
  have hvisit : visit sur (logging record hook) n (sur.enter n g) (s, [])
      = { surroundings := (visit sur hook n (sur.enter n g) s).surroundings
          state := ((visit sur hook n (sur.enter n g) s).state, [record n (sur.enter n g) s])
          panic := (hook n (sur.enter n g) s).panic } := rfl
  unfold logOf
  cases hpanic : (hook n (sur.enter n g) s).panic with
  | some cause => simp only [walkOutline, within, Progress.andThen, hvisit, hpanic]
  | none =>
    simp only [walkOutline, within, Progress.andThen, hvisit, hpanic, walkOutlines_logging,
      List.singleton_append]

/-- Where there are no trees nothing is recorded. -/
theorem logOfAll_nil (g : γ) (s : σ) : logOfAll sur record hook [] g s = [] := rfl

/-- The trees after the first are recorded unless the first panics. -/
theorem logOfAll_cons (o : Outline) (rest : List Outline) (g : γ) (s : σ) :
    logOfAll sur record hook (o :: rest) g s
      = logOf sur record hook o g s
        ++ match (walkOutline sur hook o g s).panic with
          | some _ => []
          | none => logOfAll sur record hook rest (walkOutline sur hook o g s).surroundings
              (walkOutline sur hook o g s).state := by
  unfold logOfAll
  simp only [walkOutlines, walkOutline_logging, List.nil_append, Progress.andThen]
  cases (walkOutline sur hook o g s).panic with
  | some cause => simp only [List.append_nil]
  | none => simp only [walkOutlines_logging, List.nil_append]

/-- A hook that never panics is shown the whole outline: if its records tell the nodes, then the log has
them all, in order. -/
theorem map_logOf_nodes {record : Node → γ → σ → ε} {hook : Hook γ σ} {nodeOf : ε → Node}
    (hpanic : ∀ n g s, (hook n g s).panic = none) (hrecord : ∀ n g s, nodeOf (record n g s) = n)
    (o : Outline) (g : γ) (s : σ) : (logOf sur record hook o g s).map nodeOf = o.nodes := by
  have hobserves : Observes (logging record hook) (fun s => s.2.map nodeOf)
      (fun n ns => ns ++ [n]) :=
    { panic_eq_none := fun n g s => hpanic n g s.1
      view_state := fun n g s => by
        simp only [logging, List.map_append, List.map_cons, List.map_nil, hrecord] }
  have hwalk := (walkOutline_observes sur hobserves o g (s, [])).2
  rw [List.map_nil, foldl_append_singleton, List.nil_append] at hwalk
  exact hwalk

end Logs

/-! ## Walks that are not stopped -/

section Free

variable {γ σ : Type} (sur : Surroundings γ) (hook : Hook γ σ)

/-- Without panics all nodes are visited in order. -/
theorem map_node_freeVisits (o : Outline) (g : γ) (s : σ) :
    (freeVisits sur hook o g s).map Visit.node = o.nodes := by
  unfold freeVisits
  exact map_logOf_nodes sur (fun _ _ _ => rfl) (fun _ _ _ => rfl) o g s

/-- A calm hook does not panic. -/
theorem panic_walkOutline_calm (o : Outline) (g : γ) (s : σ) :
    (walkOutline sur (calm hook) o g s).panic = none := by
  have hobserves : Observes (calm hook) (fun _ => ()) (fun _ _ => ()) :=
    { panic_eq_none := fun _ _ _ => rfl, view_state := fun _ _ _ => rfl }
  exact (walkOutline_observes sur hobserves o g s).1

/-- How a walk compares with the walk that is not stopped: it is the same if no visit ends in a panic,
and otherwise it ends with the first visit that does. -/
inductive Cut (stopping free : Progress γ σ) (received all : List (Visit γ)) : Prop
  | whole (hpanic : stopping.panic = none) (hfree : free = stopping) (hall : all = received)
      (hcalm : ∀ v ∈ received, v.panic = none)
  | stopped (cause : Panic) (before : List (Visit γ)) (last : Visit γ) (more : List (Visit γ))
      (hpanic : stopping.panic = some cause) (hlast : last.panic = some cause)
      (hbefore : ∀ v ∈ before, v.panic = none) (hreceived : received = before ++ [last])
      (hall : all = received ++ more)

mutual

/-- A panic cuts off what would have been visited after it. -/
theorem cut_walkOutline : ∀ (o : Outline) (g : γ) (s : σ),
    Cut (walkOutline sur hook o g s) (walkOutline sur (calm hook) o g s)
      (visits sur hook o g s) (freeVisits sur hook o g s)
  | .node n children, g, s => by
    have hbelow := cut_walkOutlines children (visit sur hook n (sur.enter n g) s).surroundings
      (visit sur hook n (sur.enter n g) s).state
    -- up to its panic, a visit is the same with and without it
    have hvisit : visit sur (calm hook) n (sur.enter n g) s
        = { visit sur hook n (sur.enter n g) s with panic := none } := rfl
    have hcalm : (calm hook n (sur.enter n g) s).panic = none := rfl
    have hsame : (visit sur hook n (sur.enter n g) s).panic
        = (hook n (sur.enter n g) s).panic := rfl
    unfold visits freeVisits
    rw [logOf_node, logOf_node, hcalm]
    cases hpanic : (hook n (sur.enter n g) s).panic with
    | some cause =>
      refine .stopped cause [] (visitOf hook n (sur.enter n g) s) _ ?_ hpanic (by simp) rfl rfl
      simp only [walkOutline, within, Progress.andThen, hsame, hpanic]
    | none =>
      have hstop : walkOutline sur hook (.node n children) g s
          = { walkOutlines sur hook children (visit sur hook n (sur.enter n g) s).surroundings
                (visit sur hook n (sur.enter n g) s).state with
              surroundings := sur.leave n g (walkOutlines sur hook children
                (visit sur hook n (sur.enter n g) s).surroundings
                (visit sur hook n (sur.enter n g) s).state).surroundings } := by
        simp only [walkOutline, within, Progress.andThen, hsame, hpanic]
      have hfree : walkOutline sur (calm hook) (.node n children) g s
          = { walkOutlines sur (calm hook) children
                (visit sur hook n (sur.enter n g) s).surroundings
                (visit sur hook n (sur.enter n g) s).state with
              surroundings := sur.leave n g (walkOutlines sur (calm hook) children
                (visit sur hook n (sur.enter n g) s).surroundings
                (visit sur hook n (sur.enter n g) s).state).surroundings } := by
        simp only [walkOutline, within, Progress.andThen, hvisit]
      rw [hstop, hfree]
      cases hbelow with
      | whole hnone heq hall hquiet =>
        refine .whole hnone (by rw [heq]) (congrArg _ hall) ?_
        intro v hv
        rcases List.mem_cons.mp hv with rfl | hv
        · exact hpanic
        · exact hquiet v hv
      | stopped cause before last more hsome hlast hbefore hreceived hall =>
        refine .stopped cause (visitOf hook n (sur.enter n g) s :: before) last more hsome hlast ?_
          (congrArg _ hreceived) (congrArg _ hall)
        intro v hv
        rcases List.mem_cons.mp hv with rfl | hv
        · exact hpanic
        · exact hbefore v hv

/-- A panic on a walk of trees side by side cuts off what would have been visited after it. -/
theorem cut_walkOutlines : ∀ (os : List Outline) (g : γ) (s : σ),
    Cut (walkOutlines sur hook os g s) (walkOutlines sur (calm hook) os g s)
      (logOfAll sur (visitOf hook) hook os g s) (logOfAll sur (visitOf hook) (calm hook) os g s)
  | [], g, s => .whole rfl rfl rfl (by simp [logOfAll_nil])
  | o :: rest, g, s => by
    have hquiet := panic_walkOutline_calm sur hook o g s
    rw [logOfAll_cons, logOfAll_cons, hquiet]
    simp only [walkOutlines, Progress.andThen, hquiet]
    cases cut_walkOutline o g s with
    | stopped cause before last more hsome hlast hbefore hreceived hall =>
      have hreceived' : logOf sur (visitOf hook) hook o g s = before ++ [last] := hreceived
      have hall' : logOf sur (visitOf hook) (calm hook) o g s = before ++ [last] ++ more :=
        hreceived' ▸ hall
      simp only [hsome, List.append_nil, hreceived', hall']
      exact .stopped cause before last _ hsome hlast hbefore rfl (List.append_assoc ..)
    | whole hnone heq hall hcalm =>
      have hrest := cut_walkOutlines rest (walkOutline sur hook o g s).surroundings
        (walkOutline sur hook o g s).state
      unfold visits freeVisits at hall
      unfold visits at hcalm
      simp only [hnone, heq, hall]
      cases hrest with
      | whole hpanic hfree hlater hquieter =>
        refine .whole hpanic hfree (congrArg _ hlater) ?_
        intro v hv
        rcases List.mem_append.mp hv with hv | hv
        · exact hcalm v hv
        · exact hquieter v hv
      | stopped cause before last more hsome hlast hbefore hreceived hlater =>
        refine .stopped cause (logOf sur (visitOf hook) hook o g s ++ before) last more hsome hlast ?_
          ?_ ?_
        · intro v hv
          rcases List.mem_append.mp hv with hv | hv
          · exact hcalm v hv
          · exact hbefore v hv
        · rw [hreceived, List.append_assoc]
        · rw [hlater, List.append_assoc]

end

end Free

/-! ## Hooks without influence -/

/-- The hook neither panics nor enters scopes. -/
structure Quiet {γ σ : Type} (hook : Hook γ σ) : Prop where
  panic_eq_none : ∀ n g s, (hook n g s).panic = none
  entered_eq_nil : ∀ n g s, (hook n g s).entered = []

section Quiet

variable {γ σ ε : Type} (sur : Surroundings γ) {hook : Hook γ σ}

/-- A visit of a quiet hook changes its state only. -/
theorem Quiet.visit_eq (h : Quiet hook) (n : Node) (g : γ) (s : σ) :
    visit sur hook n g s = { surroundings := g, state := (hook n g s).state, panic := none } := by
  unfold visit
  simp only [h.panic_eq_none, h.entered_eq_nil, List.foldl_nil]

/-- The hook that does nothing is quiet. -/
theorem quiet_idleHook : Quiet (idleHook : Hook γ Unit) :=
  { panic_eq_none := fun _ _ _ => rfl, entered_eq_nil := fun _ _ _ => rfl }

/-- A log keeps a hook quiet. -/
theorem Quiet.logging (h : Quiet hook) (record : Node → γ → σ → ε) :
    Quiet (ModuleLint.logging record hook) :=
  { panic_eq_none := fun n g s => h.panic_eq_none n g s.1
    entered_eq_nil := fun n g s => h.entered_eq_nil n g s.1 }

/-- A hook that enters no scopes is quiet once it is calm. -/
theorem quiet_calm (h : ∀ n g s, (hook n g s).entered = []) : Quiet (calm hook) :=
  { panic_eq_none := fun _ _ _ => rfl, entered_eq_nil := h }

/-- A node is seen before those below it. -/
theorem sightings_node (n : Node) (children : List Outline) (g : γ) :
    sightings sur (.node n children) g
      = (n, sur.enter n g) :: sightingsOfAll sur children (sur.enter n g) := by
  unfold sightings
  rw [logOf_node]
  rfl

/-- The first tree is seen before the others. -/
theorem sightingsOfAll_cons (o : Outline) (rest : List Outline) (g : γ) :
    sightingsOfAll sur (o :: rest) g
      = sightings sur o g
        ++ sightingsOfAll sur rest (walkOutline sur idleHook o g ()).surroundings := by
  have hquiet : (walkOutline sur idleHook o g ()).panic = none :=
    panic_walkOutline_calm sur idleHook o g ()
  unfold sightingsOfAll
  rw [logOfAll_cons, hquiet]
  rfl

mutual

/-- The walk of a quiet hook goes through the sightings one by one. -/
theorem walkOutline_quiet (h : Quiet hook) : ∀ (o : Outline) (g : γ) (s : σ),
    walkOutline sur hook o g s
      = { surroundings := (walkOutline sur idleHook o g ()).surroundings
          state := (sightings sur o g).foldl (fun s x => (hook x.1 x.2 s).state) s
          panic := none }
  | .node n children, g, s => by
    have hbelow := walkOutlines_quiet h children (sur.enter n g)
      (hook n (sur.enter n g) s).state
    rw [sightings_node, List.foldl_cons]
    simp only [walkOutline, within, Progress.andThen, h.visit_eq, quiet_idleHook.visit_eq, hbelow]

/-- A quiet hook goes through the sightings of trees side by side. -/
theorem walkOutlines_quiet (h : Quiet hook) : ∀ (os : List Outline) (g : γ) (s : σ),
    walkOutlines sur hook os g s
      = { surroundings := (walkOutlines sur idleHook os g ()).surroundings
          state := (sightingsOfAll sur os g).foldl (fun s x => (hook x.1 x.2 s).state) s
          panic := none }
  | [], g, s => rfl
  | o :: rest, g, s => by
    have hfirst := walkOutline_quiet h o g s
    have hrest := walkOutlines_quiet h rest (walkOutline sur idleHook o g ()).surroundings
      ((sightings sur o g).foldl (fun s x => (hook x.1 x.2 s).state) s)
    have hidle : (walkOutline sur idleHook o g ()).panic = none :=
      panic_walkOutline_calm sur idleHook o g ()
    rw [sightingsOfAll_cons, List.foldl_append]
    simp only [walkOutlines, Progress.andThen, hfirst, hrest, hidle]

end

/-- Whatever a quiet hook notes, it notes sighting by sighting. -/
theorem logOf_quiet (h : Quiet hook) (record : Node → γ → σ → ε) (o : Outline) (g : γ) (s : σ) :
    logOf sur record hook o g s
      = ((sightings sur o g).foldl (fun s x => (ModuleLint.logging record hook x.1 x.2 s).state)
          (s, [])).2 := by
  unfold logOf
  rw [walkOutline_quiet sur (h.logging record)]

/-- The nodes that are sighted are the nodes of the outline. -/
theorem map_fst_sightings (o : Outline) (g : γ) : (sightings sur o g).map Prod.fst = o.nodes :=
  map_logOf_nodes sur quiet_idleHook.panic_eq_none (fun _ _ _ => rfl) o g ()

end Quiet

end ModuleLint
