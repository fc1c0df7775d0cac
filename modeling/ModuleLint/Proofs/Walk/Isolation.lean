import ModuleLint.Proofs.Walk.Visits
import ModuleLint.Walk.Context
import ModuleLint.Walk.FanOut

/-!
# Constituents that do not disturb each other

A fan-out shows each node to its constituents one by one. Since it never panics itself, all that happens on
its walk is one long sequence of calls, in which the sightings of the outline are the outer and the
constituents the inner loop (`turns_eq_trail`). If each constituent has a part of the state to itself, the calls
of other constituents can be left out of the sequence without a change to its own calls
(`filter_trail`), and what is left is the walk of the constituent alone.
-/

set_option autoImplicit false

namespace ModuleLint

/-! ## Trails -/

section Trail

variable {α β σ τ ε κ : Type}

/-- The records of a sequence of steps, each made of the state before its step. -/
def trail (step : σ → α → σ) (record : σ → α → ε) : List α → σ → List ε
  | [], _ => []
  | a :: rest, s => record s a :: trail step record rest (step s a)

/-- Steps that write a log do what they do without it, and the log gets their trail. -/
theorem foldl_logged (step : σ → α → σ) (record : σ → α → ε) (as : List α) (s : σ) (log : List ε) :
    as.foldl (fun (t : σ × List ε) a => (step t.1 a, t.2 ++ [record t.1 a])) (s, log)
      = (as.foldl step s, log ++ trail step record as s) := by
  induction as generalizing s log with
  | nil => rw [List.foldl_nil, List.foldl_nil, trail, List.append_nil]
  | cons a rest ih =>
    rw [List.foldl_cons, List.foldl_cons, ih, trail, List.append_assoc, List.singleton_append]

/-- What is read off the records of a trail could have been recorded. -/
theorem map_trail (step : σ → α → σ) (record : σ → α → ε) (f : ε → κ) (as : List α) (s : σ) :
    (trail step record as s).map f = trail step (fun s a => f (record s a)) as s := by
  induction as generalizing s with
  | nil => rfl
  | cons a rest ih => rw [trail, trail, List.map_cons, ih]

/-- Steps may be described in other terms. -/
theorem trail_map (step : σ → α → σ) (record : σ → α → ε) (f : β → α) (bs : List β) (s : σ) :
    trail step record (bs.map f) s = trail (fun s b => step s (f b)) (fun s b => record s (f b)) bs s := by
  induction bs generalizing s with
  | nil => rfl
  | cons b rest ih => rw [List.map_cons, trail, trail, ih]

/-- Records that do not depend on the state are those of the steps. -/
theorem trail_of_stateless (step : σ → α → σ) (f : α → κ) (as : List α) (s : σ) :
    trail step (fun _ a => f a) as s = as.map f := by
  induction as generalizing s with
  | nil => rfl
  | cons a rest ih => rw [trail, List.map_cons, ih]

/-- Steps that do not change a part of the state can be left out, as far as this part and the records of the
other steps are concerned. -/
theorem filter_trail {step : σ → α → σ} {record : σ → α → ε} {mine : α → Bool} {kept : ε → Bool}
    {part : σ → τ} {step' : τ → α → τ} {record' : τ → α → ε} {as : List α}
    (hkept : ∀ s a, kept (record s a) = mine a)
    (hmine : ∀ a ∈ as, mine a = true → ∀ s,
      part (step s a) = step' (part s) a ∧ record s a = record' (part s) a)
    (hother : ∀ a ∈ as, mine a = false → ∀ s, part (step s a) = part s) (s : σ) :
    (trail step record as s).filter kept = trail step' record' (as.filter mine) (part s)
      ∧ part (as.foldl step s) = (as.filter mine).foldl step' (part s) := by
  induction as generalizing s with
  | nil => exact ⟨rfl, rfl⟩
  | cons a rest ih =>
    obtain ⟨htrail, hfold⟩ := ih (fun b hb => hmine b (List.mem_cons_of_mem a hb))
      (fun b hb => hother b (List.mem_cons_of_mem a hb)) (step s a)
    rw [trail, List.filter_cons, List.filter_cons, hkept, htrail, List.foldl_cons, hfold]
    cases ha : mine a with
    | true =>
      obtain ⟨hpart, hrecord⟩ := hmine a (List.mem_cons_self ..) ha s
      simp only [if_true, trail, List.foldl_cons, hpart, hrecord, and_self]
    | false =>
      have hpart := hother a (List.mem_cons_self ..) ha s
      simp only [Bool.false_eq_true, if_false, hpart, and_self]

end Trail

/-! ## The turns of constituents -/

/-- The turn of a constituent at a node, with its number and the name of its type. -/
structure Turn (γ : Type) where
  index : Nat
  typeName : String
  visit : Visit γ

/-- The failure that a turn leads to, if it ends in a panic. -/
def Turn.error? {γ : Type} (t : Turn γ) : Option ConstituentError :=
  t.visit.panic.map fun cause =>
    { index := t.index, typeName := t.typeName, kind := t.visit.node.kind, line := t.visit.node.line
      cause := cause }

namespace FanOut

section Turns

variable {γ σ : Type}

def turnOf (k : Nat × Constituent γ σ) (n : Node) (g : γ) (s : σ) : Turn γ :=
  { index := k.1, typeName := k.2.typeName, visit := visitOf k.2.hook n g s }

/-- The constituents with a common log in which each notes its turns. -/
def noting (cs : List (Constituent γ σ)) : List (Constituent γ (σ × List (Turn γ))) :=
  (numbered cs).map fun k => { typeName := k.2.typeName, hook := logging (turnOf k) k.2.hook }

/-- The turns of all constituents on the walk of an outline, in the order in which they happen. -/
def turns (sur : Surroundings γ) (cs : List (Constituent γ σ)) (o : Outline) (g : γ) (s : σ) :
    List (Turn γ) :=
  (walkOutline sur (hook (noting cs)) o g { state := (s, []), errors := [] }).state.state.2

/-- Sightings and constituents, the constituents taking turns at each sighting. -/
def schedule (xs : List (Node × γ)) (cs : List (Constituent γ σ)) :
    List ((Node × γ) × (Nat × Constituent γ σ)) :=
  xs.flatMap fun x => (numbered cs).map fun k => (x, k)

def turnStep (s : σ) (a : (Node × γ) × (Nat × Constituent γ σ)) : σ :=
  (a.2.2.hook a.1.1 a.1.2 s).state

def turnRecord (s : σ) (a : (Node × γ) × (Nat × Constituent γ σ)) : Turn γ :=
  turnOf a.2 a.1.1 a.1.2 s

/-! ## One long sequence of turns -/

/-- Constituents are numbered by their positions. -/
theorem numbered_eq (cs : List (Constituent γ σ)) : numbered cs = cs.zipIdx.map Prod.swap := by
  apply List.ext_getElem
  · simp [numbered]
  · intro i h₁ h₂
    simp [numbered]

/-- The number of a constituent is its position. -/
theorem mem_numbered {cs : List (Constituent γ σ)} {k : Nat × Constituent γ σ} :
    k ∈ numbered cs ↔ cs[k.1]? = some k.2 := by
  rw [numbered_eq, List.mem_map]
  constructor
  · rintro ⟨x, hx, rfl⟩
    exact List.mem_zipIdx_iff_getElem?.mp hx
  · intro hk
    exact ⟨k.swap, List.mem_zipIdx_iff_getElem?.mpr hk, rfl⟩

/-- The numbers are those below the length. -/
theorem map_fst_numbered (cs : List (Constituent γ σ)) :
    (numbered cs).map Prod.fst = List.range cs.length := by
  unfold numbered
  exact List.map_fst_zip (Nat.le_of_eq List.length_range)

/-- Each number belongs to one constituent. -/
theorem filter_zipIdx {α : Type} {xs : List α} {i : Nat} {x : α} (h : xs[i]? = some x) (start : Nat) :
    (xs.zipIdx start).filter (fun p => p.2 == start + i) = [(x, start + i)] := by
  induction xs generalizing i start with
  | nil => cases h
  | cons a rest ih =>
    rw [List.zipIdx_cons, List.filter_cons]
    cases i with
    | zero =>
      obtain rfl : a = x := Option.some.inj h
      have hrest : (rest.zipIdx (start + 1)).filter (fun p => p.2 == start + 0) = [] := by
        rw [List.filter_eq_nil_iff]
        intro p hp
        have hle := List.le_snd_of_mem_zipIdx hp
        simp only [beq_iff_eq]
        omega
      rw [hrest]
      simp
    | succ i =>
      have hne : ¬ (start == start + (i + 1)) = true := by
        simp only [beq_iff_eq]
        omega
      have hrest := ih h (start + 1)
      rw [Nat.add_right_comm, Nat.add_assoc] at hrest
      rw [if_neg hne, hrest]

/-- The turns of one constituent are at all sightings in order. -/
theorem filter_schedule {cs : List (Constituent γ σ)} {i : Nat} {k : Constituent γ σ}
    (h : cs[i]? = some k) (xs : List (Node × γ)) :
    (schedule xs cs).filter (fun a => a.2.1 == i) = xs.map fun x => (x, (i, k)) := by
  have hone : (numbered cs).filter (fun k => k.1 == i) = [(i, k)] := by
    have hzip := filter_zipIdx h 0
    rw [Nat.zero_add] at hzip
    rw [numbered_eq, List.filter_map]
    exact congrArg (List.map Prod.swap) hzip
  have hturns : ∀ x : Node × γ,
      (((numbered cs).map fun k => (x, k)).filter fun a => a.2.1 == i) = [(x, (i, k))] := by
    intro x
    rw [List.filter_map]
    exact congrArg (List.map fun k => (x, k)) hone
  unfold schedule
  rw [List.filter_flatMap]
  simp only [hturns]
  exact (List.map_eq_flatMap ..).symm

/-- What one turn makes of the state of a fan-out. -/
def fanStep (s : FanState σ) (a : (Node × γ) × (Nat × Constituent γ σ)) : FanState σ :=
  { state := turnStep s.state a, errors := s.errors ++ (turnRecord s.state a).error?.toList }

/-- A constituent takes its turn, and a panic is written down under its name. -/
theorem dispatch_eq (n : Node) (g : γ) (r : Reaction (FanState σ)) (k : Nat × Constituent γ σ) :
    dispatch n g r k
      = { state := fanStep r.state ((n, g), k)
          entered := r.entered ++ (k.2.hook n g r.state.state).entered } := by
  cases hpanic : (k.2.hook n g r.state.state).panic with
  | none => simp [dispatch, fanStep, turnStep, turnRecord, turnOf, visitOf, Turn.error?, hpanic]
  | some cause => simp [dispatch, fanStep, turnStep, turnRecord, turnOf, visitOf, Turn.error?, hpanic]

/-- All constituents take their turns at a node, whatever the others do. -/
theorem foldl_dispatch {ks : List (Nat × Constituent γ σ)}
    (h : ∀ k ∈ ks, ∀ n g s, (k.2.hook n g s).entered = []) (n : Node) (g : γ) (s : FanState σ) :
    ks.foldl (dispatch n g) { state := s }
      = { state := (ks.map fun k => ((n, g), k)).foldl fanStep s } := by
  induction ks generalizing s with
  | nil => rfl
  | cons k rest ih =>
    have hentered := h k (List.mem_cons_self ..) n g s.state
    rw [List.foldl_cons, List.map_cons, List.foldl_cons, dispatch_eq, hentered]
    exact ih (fun k hk => h k (List.mem_cons_of_mem _ hk)) _

variable {cs : List (Constituent γ σ)}

/-- The common hook of the constituents neither panics nor enters scopes. -/
theorem hook_eq (h : ∀ c ∈ cs, ∀ n g s, (c.hook n g s).entered = []) (n : Node) (g : γ)
    (s : FanState σ) :
    hook cs n g s = { state := ((numbered cs).map fun k => ((n, g), k)).foldl fanStep s } := by
  have hks : ∀ k ∈ numbered cs, ∀ n g s, (k.2.hook n g s).entered = [] := fun k hk =>
    h k.2 (List.mem_of_getElem? (mem_numbered.mp hk))
  unfold hook
  exact foldl_dispatch hks n g s

/-- The fan-out itself never panics. -/
theorem quiet_hook (h : ∀ c ∈ cs, ∀ n g s, (c.hook n g s).entered = []) : Quiet (hook cs) :=
  { panic_eq_none := fun n g s => by rw [hook_eq h]
    entered_eq_nil := fun n g s => by rw [hook_eq h] }

/-- The failures that are written down are those of the turns. -/
theorem foldl_fanStep (as : List ((Node × γ) × (Nat × Constituent γ σ))) (s : FanState σ) :
    as.foldl fanStep s
      = { state := as.foldl turnStep s.state
          errors := s.errors ++ (trail turnStep turnRecord as s.state).filterMap Turn.error? } := by
  induction as generalizing s with
  | nil => simp [trail]
  | cons a rest ih =>
    rw [List.foldl_cons, List.foldl_cons, ih, trail, List.filterMap_cons]
    cases herror : (turnRecord s.state a).error? with
    | none => simp [fanStep, herror]
    | some e => simp [fanStep, herror]

/-- A walk with the common hook comes to its end, after all turns of the schedule. -/
theorem walkOutline_hook (sur : Surroundings γ)
    (h : ∀ c ∈ cs, ∀ n g s, (c.hook n g s).entered = []) (o : Outline) (g : γ) (s : FanState σ) :
    (walkOutline sur (hook cs) o g s).panic = none
      ∧ (walkOutline sur (hook cs) o g s).state
        = { state := (schedule (sightings sur o g) cs).foldl turnStep s.state
            errors := s.errors ++ (trail turnStep turnRecord (schedule (sightings sur o g) cs)
              s.state).filterMap Turn.error? } := by
  rw [walkOutline_quiet sur (quiet_hook h), ← foldl_fanStep]
  refine ⟨rfl, ?_⟩
  unfold schedule
  rw [List.foldl_flatMap]
  simp only [hook_eq h]

/-- The turns on a walk are those of the schedule. -/
theorem turns_eq_trail (sur : Surroundings γ)
    (h : ∀ c ∈ cs, ∀ n g s, (c.hook n g s).entered = []) (o : Outline) (g : γ) (s : σ) :
    turns sur cs o g s = trail turnStep turnRecord (schedule (sightings sur o g) cs) s := by
  have hnoting : ∀ c ∈ noting cs, ∀ n g s, (c.hook n g s).entered = [] := by
    intro c hc
    obtain ⟨k, hk, rfl⟩ := List.mem_map.mp hc
    exact fun n g s => h k.2 (List.mem_of_getElem? (mem_numbered.mp hk)) n g s.1
  have hnumbered : numbered (noting cs) = (numbered cs).map fun k =>
      (k.1, { typeName := k.2.typeName, hook := logging (turnOf k) k.2.hook }) := by
    apply List.ext_getElem
    · simp [numbered, noting]
    · intro i h₁ h₂
      simp [numbered, noting]
  have hschedule : schedule (sightings sur o g) (noting cs)
      = (schedule (sightings sur o g) cs).map fun a =>
          (a.1, (a.2.1, { typeName := a.2.2.typeName
                          hook := logging (turnOf a.2) a.2.2.hook })) := by
    unfold schedule
    rw [List.map_flatMap, hnumbered]
    simp only [List.map_map]
    rfl
  unfold turns
  rw [(walkOutline_hook sur hnoting o g _).2, hschedule, List.foldl_map]
  exact congrArg Prod.snd (foldl_logged turnStep turnRecord _ s [])

end Turns

end FanOut

/-! ## Constituents that do not share state -/

/-- The constituents do not share state. Each has a part of the state that it alone reads and changes, and on
which it is the hook `own i`. None enters scopes, since the surroundings are common to all. -/
structure Separate {γ σ : Type} {τ : Nat → Type} (cs : List (Constituent γ σ)) (part : ∀ i, σ → τ i)
    (own : ∀ i, Hook γ (τ i)) : Prop where
  state_own : ∀ i k, cs[i]? = some k → ∀ n g s,
    part i (k.hook n g s).state = (own i n g (part i s)).state
  panic_own : ∀ i k, cs[i]? = some k → ∀ n g s, (k.hook n g s).panic = (own i n g (part i s)).panic
  state_other : ∀ i k, cs[i]? = some k → ∀ j < cs.length, j ≠ i → ∀ n g s,
    part j (k.hook n g s).state = part j s
  entered : ∀ k ∈ cs, ∀ n g s, (k.hook n g s).entered = []
  entered_own : ∀ i < cs.length, ∀ n g t, (own i n g t).entered = []

section Separate

variable {γ σ : Type} {τ : Nat → Type} {cs : List (Constituent γ σ)} {part : ∀ i, σ → τ i}
  {own : ∀ i, Hook γ (τ i)} (sur : Surroundings γ)

/-- Where constituents have parts of their own, a turn depends on the part of its constituent only. -/
theorem visitOf_own (h : Separate cs part own) {i : Nat} {k : Constituent γ σ} (hk : cs[i]? = some k)
    (n : Node) (g : γ) (s : σ) : visitOf k.hook n g s = visitOf (own i) n g (part i s) := by
  have hentered : (k.hook n g s).entered = (own i n g (part i s)).entered := by
    rw [h.entered k (List.mem_of_getElem? hk),
      h.entered_own i (List.getElem?_eq_some_iff.mp hk).1]
  unfold visitOf
  rw [hentered, h.panic_own i k hk]

/-- A hook that enters no scopes, alone on a walk that is not stopped. -/
theorem freeVisits_eq_trail {hook : Hook γ σ} (h : ∀ n g s, (hook n g s).entered = []) (o : Outline)
    (g : γ) (s : σ) :
    freeVisits sur hook o g s
      = trail (fun s x => (hook x.1 x.2 s).state) (fun s x => visitOf hook x.1 x.2 s)
          (sightings sur o g) s := by
  unfold freeVisits
  rw [logOf_quiet sur (quiet_calm h)]
  exact congrArg Prod.snd (foldl_logged (fun s (x : Node × γ) => (hook x.1 x.2 s).state)
    (fun s x => visitOf hook x.1 x.2 s) (sightings sur o g) s [])

/-- Among the turns of all, those of one constituent are the visits that it would receive alone, and it leaves its
part of the state as it would alone. -/
theorem turns_of_separate (h : Separate cs part own) {i : Nat} {k : Constituent γ σ}
    (hk : cs[i]? = some k) (o : Outline) (g : γ) (s : σ) :
    ((FanOut.turns sur cs o g s).filter (·.index == i)).map Turn.visit
        = freeVisits sur (own i) o g (part i s)
      ∧ part i ((FanOut.schedule (sightings sur o g) cs).foldl FanOut.turnStep s)
        = (walkOutline sur (calm (own i)) o g (part i s)).state := by
  have hi : i < cs.length := (List.getElem?_eq_some_iff.mp hk).1
  have hmine : ∀ a ∈ FanOut.schedule (sightings sur o g) cs, ∀ j, a.2.1 = j →
      cs[j]? = some a.2.2 := by
    rintro a ha j rfl
    obtain ⟨x, -, hx⟩ := List.mem_flatMap.mp ha
    obtain ⟨k, hk, rfl⟩ := List.mem_map.mp hx
    exact FanOut.mem_numbered.mp hk
  -- the turns of the others can be left out
  have halone : (trail FanOut.turnStep FanOut.turnRecord (FanOut.schedule (sightings sur o g) cs)
        s).filter (·.index == i)
      = trail (fun t a => (own i a.1.1 a.1.2 t).state)
          (fun t a => { index := i, typeName := k.typeName, visit := visitOf (own i) a.1.1 a.1.2 t })
          ((FanOut.schedule (sightings sur o g) cs).filter fun a => a.2.1 == i) (part i s)
      ∧ part i ((FanOut.schedule (sightings sur o g) cs).foldl FanOut.turnStep s)
        = ((FanOut.schedule (sightings sur o g) cs).filter fun a => a.2.1 == i).foldl
            (fun t a => (own i a.1.1 a.1.2 t).state) (part i s) := by
    refine filter_trail ?_ ?_ ?_ s
    · intro s a
      rfl
    · intro a ha hindex s
      have hnumber : a.2.1 = i := beq_iff_eq.mp hindex
      obtain rfl : k = a.2.2 := Option.some.inj (hk.symm.trans (hmine a ha i hnumber))
      refine ⟨h.state_own i a.2.2 hk a.1.1 a.1.2 s, ?_⟩
      unfold FanOut.turnRecord FanOut.turnOf
      rw [visitOf_own h hk, hnumber]
    · intro a ha hindex s
      have hne : i ≠ a.2.1 := fun heq => by simp [heq] at hindex
      exact h.state_other a.2.1 a.2.2 (hmine a ha _ rfl) i hi hne a.1.1 a.1.2 s
  obtain ⟨htrail, hfold⟩ := halone
  rw [FanOut.filter_schedule hk] at htrail hfold
  constructor
  · rw [FanOut.turns_eq_trail sur h.entered, htrail, trail_map, map_trail,
      freeVisits_eq_trail sur (h.entered_own i hi)]
  · rw [hfold, List.foldl_map, walkOutline_quiet sur (quiet_calm (h.entered_own i hi))]
    rfl

/-- Each node is shown to all constituents in turn before the next one. -/
theorem map_turns (h : ∀ k ∈ cs, ∀ n g s, (k.hook n g s).entered = []) (o : Outline) (g : γ) (s : σ) :
    (FanOut.turns sur cs o g s).map (fun t => (t.visit.node, t.index))
      = o.nodes.flatMap fun n => (List.range cs.length).map fun i => (n, i) := by
  have hkey : ∀ x : Node × γ, ((FanOut.numbered cs).map fun k => (x, k)).map
      (fun a => (a.1.1, a.2.1)) = (List.range cs.length).map fun i => (x.1, i) := by
    intro x
    rw [← FanOut.map_fst_numbered cs, List.map_map, List.map_map]
    rfl
  rw [FanOut.turns_eq_trail sur h, map_trail, ← map_fst_sightings sur o g, List.flatMap_map]
  refine (trail_of_stateless FanOut.turnStep (fun a : (Node × γ) × (Nat × Constituent γ σ) =>
    (a.1.1, a.2.1)) _ s).trans ?_
  unfold FanOut.schedule
  rw [List.map_flatMap]
  simp only [hkey]

end Separate

/-- There is no joint failure when there are no failures. -/
theorem joinFailures_eq_none_iff (texts : List String) : joinFailures texts = none ↔ texts = [] := by
  cases texts with
  | nil => simp [joinFailures]
  | cons text rest => simp [joinFailures]

/-- A turn leads to a failure when it ends in a panic. -/
theorem Turn.error?_eq_none_iff {γ : Type} (t : Turn γ) : t.error? = none ↔ t.visit.panic = none := by
  unfold Turn.error?
  rw [Option.map_eq_none_iff]

/-- A walk of a fan-out never fails. Each constituent receives all visits that it would receive alone on a walk
without panics. The failures of the fan-out are one for each turn that ends in a panic, in the order of the
turns, and then what the constituents report. -/
theorem fanOut_isolates_constituents {σ : Type} {τ : Nat → Type} {cs : List (Constituent Context σ)}
    {part : ∀ i, σ → τ i} {own : ∀ i, Hook Context (τ i)} (h : Separate cs part own) (o : Outline)
    (c : Context) (s : σ) :
    let p := walk Context.surroundings (FanOut.hook cs) (some o) c { state := s, errors := [] }
    let turns := FanOut.turns Context.surroundings cs o c s
    p.failure o.root = none
      ∧ (∀ i < cs.length,
          (turns.filter (·.index == i)).map Turn.visit
              = freeVisits Context.surroundings (own i) o c (part i s)
            ∧ part i p.state.state
              = (walkOutline Context.surroundings (calm (own i)) o c (part i s)).state)
      ∧ turns.map (fun t => (t.visit.node, t.index))
          = o.nodes.flatMap (fun n => (List.range cs.length).map fun i => (n, i))
      ∧ p.state.errors = turns.filterMap Turn.error?
      ∧ ∀ report : Constituent Context σ → σ → Option String,
          FanOut.failures p.state (cs.map fun k => report k p.state.state)
              = (turns.filterMap Turn.error?).map ConstituentError.message
                ++ cs.filterMap (fun k => report k p.state.state)
            ∧ (joinFailures (FanOut.failures p.state (cs.map fun k => report k p.state.state)) = none
              ↔ (∀ t ∈ turns, t.visit.panic = none) ∧ ∀ k ∈ cs, report k p.state.state = none) := by
  intro p turns
  obtain ⟨hpanic, hstate⟩ := FanOut.walkOutline_hook Context.surroundings h.entered o c
    { state := s, errors := [] }
  have hp : p.state
      = { state := (FanOut.schedule (sightings Context.surroundings o c) cs).foldl FanOut.turnStep s
          errors := turns.filterMap Turn.error? } := by
    have hturns := FanOut.turns_eq_trail Context.surroundings h.entered o c s
    show (walkOutline _ _ _ _ _).state = _
    rw [hstate, List.nil_append, ← hturns]
  have hfailures : ∀ report : Constituent Context σ → σ → Option String,
      FanOut.failures p.state (cs.map fun k => report k p.state.state)
        = (turns.filterMap Turn.error?).map ConstituentError.message
          ++ cs.filterMap fun k => report k p.state.state := by
    intro report
    unfold FanOut.failures
    rw [List.filterMap_map]
    exact congrArg (fun s => s.errors.map ConstituentError.message ++ _) hp
  refine ⟨?_, ?_, map_turns Context.surroundings h.entered o c s, by rw [hp], fun report =>
    ⟨hfailures report, ?_⟩⟩
  · show (walkOutline _ _ _ _ _).panic.map _ = none
    rw [hpanic]
    rfl
  · intro i hi
    obtain ⟨hvisits, hpart⟩ := turns_of_separate Context.surroundings h (List.getElem?_eq_getElem hi)
      o c s
    exact ⟨hvisits, by rw [hp]; exact hpart⟩
  · rw [joinFailures_eq_none_iff, hfailures, List.append_eq_nil_iff, List.map_eq_nil_iff,
      List.filterMap_eq_nil_iff, List.filterMap_eq_nil_iff]
    simp only [Turn.error?_eq_none_iff]

/-- Two hooks that count their visits. The first panics at its second visit, the second at every
declaration. -/
def hesitant : Nat → Hook Context Nat
  | 0, _, _, visited =>
    { state := visited + 1, panic := if visited = 1 then some (.error "tired") else none }
  | _ + 1, n, _, visited =>
    { state := visited + 1
      panic := if n.kind = .declaration then some (.value "no declarations") else none }

/-- The two hooks side by side, each with a count of its own. -/
def hesitantPair : List (Constituent Context (Nat × Nat)) :=
  [ { typeName := "tired"
      hook := fun n c s =>
        { state := ((hesitant 0 n c s.1).state, s.2), panic := (hesitant 0 n c s.1).panic } },
    { typeName := "choosy"
      hook := fun n c s =>
        { state := (s.1, (hesitant 1 n c s.2).state), panic := (hesitant 1 n c s.2).panic } } ]

def hesitantPart : Nat → Nat × Nat → Nat
  | 0, counts => counts.1
  | _ + 1, counts => counts.2

def twoDeclarations : Module :=
  { Module.empty "Sums" with
    declarations := [some { span := none, name := "total", exported := false }, none,
      some { span := none, name := "rest", exported := false }] }

/-- The two constituents of the example have parts of their own. -/
theorem separate_hesitantPair : Separate hesitantPair hesitantPart hesitant :=
  { state_own := fun i k hk n c s => by
      match i, hk with
      | 0, rfl => rfl
      | 1, rfl => rfl
    panic_own := fun i k hk n c s => by
      match i, hk with
      | 0, rfl => rfl
      | 1, rfl => rfl
    state_other := fun i k hk j hj hne n c s => by
      match i, j, hk, hj with
      | 0, 0, rfl, _ => exact absurd rfl hne
      | 0, 1, rfl, _ => rfl
      | 1, 0, rfl, _ => rfl
      | 1, 1, rfl, _ => exact absurd rfl hne
    entered := fun k hk n c s => by
      rcases List.mem_cons.mp hk with rfl | hk
      · rfl
      · obtain rfl := List.mem_singleton.mp hk
        rfl
    entered_own := fun i _ n c t => by cases i <;> rfl }

/-- Both hooks see all three nodes in spite of three panics. -/
theorem fanOut_isolates_hesitantPair :
    Separate hesitantPair hesitantPart hesitant
    ∧ (walk Context.surroundings (FanOut.hook hesitantPair) (some twoDeclarations.outline)
          (.ofModule "") { state := (0, 0), errors := [] }).state.errors.map
        (fun e => (e.index, e.kind, e.cause))
      = [(0, .declaration, .error "tired"), (1, .declaration, .value "no declarations"),
          (1, .declaration, .value "no declarations")]
    ∧ ∀ i < 2, ((FanOut.turns Context.surroundings hesitantPair twoDeclarations.outline
          (.ofModule "") (0, 0)).filter (·.index == i)).map Turn.visit
        = freeVisits Context.surroundings (hesitant i) twoDeclarations.outline (.ofModule "") 0 := by
  refine ⟨separate_hesitantPair, by decide, fun i hi => ?_⟩
  have hvisits := ((fanOut_isolates_constituents separate_hesitantPair twoDeclarations.outline
    (.ofModule "") (0, 0)).2.1 i hi).1
  match i, hvisits with
  | 0, hvisits => exact hvisits
  | _ + 1, hvisits => exact hvisits

end ModuleLint
