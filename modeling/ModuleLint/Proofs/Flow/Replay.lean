import ModuleLint.Flow.Reaching

/-!
# Definitions in force

A definition is in force after a sequence of events when it is the last definition of its variable
there (`InForce`). Going through the events of a block one by one keeps track of exactly these
(`contains_liveAfter`), and the summary of the block by what it generates and what it kills does the
same to every set (`apply_ofBlock`). So the uses that are recorded in a block can be written down at
once, each with the definitions in force before it (`usesOf_eq_map`).
-/

set_option autoImplicit false

namespace ModuleLint.Flow

/-- Whether an event defines the variable of the given name. -/
def Event.defines (name : String) (e : Event) : Bool :=
  e.definition.isSome && e.variableName == name

/-- A sequence of events leaves the variable alone. -/
def Untouched (name : String) (es : List Event) : Prop := ∀ e ∈ es, e.defines name = false

/-- A definition has been executed and no definition of the variable after it. -/
def InForce (name : String) (d : Nat) (es : List Event) : Prop :=
  ∃ before e after, es = before ++ e :: after ∧ e.definition = some d ∧ Untouched name after

/-- Whether a number is that of a definition of the variable. -/
def Graph.Defines (g : Graph) (d : Nat) (name : String) : Prop :=
  g.definitions[d]?.map (·.variableName) = some name

section Sequences

variable {name : String} {d : Nat} {es fs : List Event} {e : Event}

/-- A variable is left alone by two parts when each leaves it alone. -/
theorem untouched_append : Untouched name (es ++ fs) ↔ Untouched name es ∧ Untouched name fs := by
  unfold Untouched
  constructor
  · exact fun h => ⟨fun e he => h e (List.mem_append_left _ he),
      fun e he => h e (List.mem_append_right _ he)⟩
  · rintro ⟨h, h'⟩ e he
    rcases List.mem_append.mp he with he | he
    · exact h e he
    · exact h' e he

/-- A single event leaves alone what it does not define. -/
theorem untouched_singleton : Untouched name [e] ↔ e.defines name = false := by
  simp [Untouched]

/-- After a single event its own definition is in force. -/
theorem inForce_singleton : InForce name d [e] ↔ e.definition = some d := by
  constructor
  · rintro ⟨before, e', after, heq, hd, -⟩
    cases before with
    | nil =>
      obtain ⟨rfl, -⟩ := List.cons.inj heq
      exact hd
    | cons x rest => simp at heq
  · intro hd
    exact ⟨[], e, [], rfl, hd, fun _ h => absurd h List.not_mem_nil⟩

/-- Without events nothing has been defined. -/
theorem not_inForce_nil : ¬ InForce name d [] := by
  rintro ⟨before, e, after, heq, -⟩
  simp at heq

/-- The last definition stands in the second part, or in the first part and the second part leaves
the variable alone. -/
theorem inForce_append :
    InForce name d (es ++ fs) ↔ InForce name d fs ∨ (InForce name d es ∧ Untouched name fs) := by
  constructor
  · rintro ⟨before, e, after, heq, hd, hafter⟩
    rcases List.append_eq_append_iff.mp heq with ⟨l, rfl, rfl⟩ | ⟨l, rfl, hl⟩
    · exact .inl ⟨l, e, after, rfl, hd, hafter⟩
    · cases l with
      | nil => exact .inl ⟨[], e, after, hl.symm, hd, hafter⟩
      | cons x rest =>
        obtain ⟨rfl, rfl⟩ := List.cons.inj hl
        obtain ⟨hrest, hfs⟩ := untouched_append.mp hafter
        exact .inr ⟨⟨before, e, rest, rfl, hd, hrest⟩, hfs⟩
  · rintro (⟨before, e, after, rfl, hd, hafter⟩ | ⟨⟨before, e, after, rfl, hd, hafter⟩, hfs⟩)
    · exact ⟨es ++ before, e, after, by simp, hd, hafter⟩
    · exact ⟨before, e, after ++ fs, by simp, hd, untouched_append.mpr ⟨hafter, hfs⟩⟩

end Sequences

/-! ## Sets of definitions -/

/-- A set made of a list contains what the list does. -/
theorem IdSet.contains_ofList (is : List Nat) (i : Nat) :
    (IdSet.ofList is).contains i = true ↔ i ∈ is := by
  have hfold : ∀ (is : List Nat) (s : IdSet),
      (is.foldl IdSet.insert s).contains i = true ↔ s.contains i = true ∨ i ∈ is := by
    intro is
    induction is with
    | nil => simp
    | cons x rest ih =>
      intro s
      rw [List.foldl_cons, ih, IdSet.contains_insert, List.mem_cons, Bool.or_eq_true,
        decide_eq_true_iff, or_assoc, @eq_comm _ x i]
  unfold IdSet.ofList
  rw [hfold, IdSet.contains_empty]
  simp

/-- Listing a set up to a bound lists its members below it. -/
theorem IdSet.mem_below (s : IdSet) (bound i : Nat) :
    i ∈ s.below bound ↔ i < bound ∧ s.contains i = true := by
  unfold IdSet.below
  rw [List.mem_filter, List.mem_range]

/-- The numbers of definitions are below their count. -/
theorem Graph.Defines.lt {g : Graph} {d : Nat} {name : String} (h : g.Defines d name) :
    d < g.definitions.length := by
  unfold Graph.Defines at h
  rcases Nat.lt_or_ge d g.definitions.length with hlt | hge
  · exact hlt
  · rw [List.getElem?_eq_none hge] at h
    cases h

/-- The definitions of a variable are collected by its name. -/
theorem Graph.contains_definitionsOf (g : Graph) (name : String) (d : Nat) :
    (g.definitionsOf name).contains d = true ↔ g.Defines d name := by
  unfold Graph.definitionsOf
  rw [IdSet.contains_ofList, List.mem_filter, List.mem_range, beq_iff_eq]
  constructor
  · exact fun h => h.2
  · exact fun h => ⟨h.lt, h⟩

/-- A definition belongs to one variable only. -/
theorem Graph.Defines.contains_definitionsOf {g : Graph} {d : Nat} {name : String}
    (h : g.Defines d name) (other : String) :
    (g.definitionsOf other).contains d = decide (other = name) := by
  rw [Bool.eq_iff_iff, decide_eq_true_iff, Graph.contains_definitionsOf]
  unfold Graph.Defines at h ⊢
  rw [h, Option.some.injEq, eq_comm]

/-! ## Going through events one by one -/

/-- The definitions in force after one more event. -/
def liveStep (g : Graph) (live : IdSet) (e : Event) : IdSet :=
  match e.definition with
  | some d => (live.diff (g.definitionsOf e.variableName)).insert d
  | none => live

/-- The definitions in force after some events, given those in force before. -/
def liveAfter (g : Graph) (live : IdSet) (es : List Event) : IdSet := es.foldl (liveStep g) live

section Live

variable {g : Graph} {name : String} {d : Nat}

/-- After one more event its definition is in force, and so is what was before and has not been replaced. -/
theorem contains_liveStep (hd : g.Defines d name) (live : IdSet) (e : Event) :
    (liveStep g live e).contains d = true
      ↔ InForce name d [e] ∨ (live.contains d = true ∧ Untouched name [e]) := by
  rw [inForce_singleton, untouched_singleton]
  unfold liveStep Event.defines
  cases hdef : e.definition with
  | none => simp
  | some d' =>
    simp only [IdSet.contains_insert, IdSet.contains_diff, hd.contains_definitionsOf,
      Option.isSome_some, Bool.true_and, Option.some.injEq]
    by_cases hname : e.variableName = name
    · simp [hname]
    · simp [hname, or_comm]

/-- What is in force after some events has been defined by them, or was in force before and they
left the variable alone. -/
theorem contains_liveAfter (hd : g.Defines d name) (live : IdSet) (es : List Event) :
    (liveAfter g live es).contains d = true
      ↔ InForce name d es ∨ (live.contains d = true ∧ Untouched name es) := by
  induction es generalizing live with
  | nil => simp [liveAfter, not_inForce_nil, Untouched]
  | cons e rest ih =>
    have hsplit : e :: rest = [e] ++ rest := rfl
    rw [hsplit, inForce_append, untouched_append]
    refine (ih (liveStep g live e)).trans ?_
    rw [contains_liveStep hd]
    constructor
    · rintro (h | ⟨h | ⟨hl, h⟩, hrest⟩)
      · exact .inl (.inl h)
      · exact .inl (.inr ⟨h, hrest⟩)
      · exact .inr ⟨hl, h, hrest⟩
    · rintro ((h | ⟨h, hrest⟩) | ⟨hl, h, hrest⟩)
      · exact .inl h
      · exact .inr ⟨.inl h, hrest⟩
      · exact .inr ⟨.inr ⟨hl, h⟩, hrest⟩

/-! ## The summary of a block -/

/-- What a summary generates is what going through the events leaves in force. -/
theorem gen_foldl_extend (es : List Event) (t : Transfer) :
    (es.foldl (Transfer.extend g) t).gen = liveAfter g t.gen es := by
  induction es generalizing t with
  | nil => rfl
  | cons e rest ih =>
    have hone : (t.extend g e).gen = liveStep g t.gen e := by
      unfold Transfer.extend liveStep
      cases e.definition <;> rfl
    rw [List.foldl_cons, ih, hone]
    rfl

/-- One more event does to the outcome of a summary what it does to any set. -/
theorem apply_extend (t : Transfer) (e : Event) (start : IdSet) :
    (t.extend g e).apply start = liveStep g (t.apply start) e := by
  unfold Transfer.extend liveStep
  cases e.definition with
  | none => rfl
  | some d =>
    apply IdSet.ext_contains
    intro i
    simp only [Transfer.apply, IdSet.contains_union, IdSet.contains_diff, IdSet.contains_insert]
    -- a definition of the variable passes neither, and any other passes both alike
    cases (g.definitionsOf e.variableName).contains i with
    | true => simp
    | false => simp [Bool.or_assoc]

/-- Extending a summary by events does to its outcome what the events do. -/
theorem apply_foldl_extend (es : List Event) (t : Transfer) (start : IdSet) :
    (es.foldl (Transfer.extend g) t).apply start = liveAfter g (t.apply start) es := by
  induction es generalizing t with
  | nil => rfl
  | cons e rest ih =>
    rw [List.foldl_cons, ih, apply_extend]
    rfl

/-- What is generated comes out whether it is killed or not. -/
theorem apply_diff_gen (t : Transfer) (start : IdSet) :
    ({ t with kill := t.kill.diff t.gen } : Transfer).apply start = t.apply start := by
  apply IdSet.ext_contains
  intro i
  simp only [Transfer.apply, IdSet.contains_union, IdSet.contains_diff]
  cases t.gen.contains i with
  | true => simp
  | false => simp

/-- The summary of a block does what going through its events does. -/
theorem apply_ofBlock (g : Graph) (b : Nat) (start : IdSet) :
    (Transfer.ofBlock g b).apply start = liveAfter g start (g.events b) := by
  have hidentity : Transfer.identity.apply start = start := by
    apply IdSet.ext_contains
    intro i
    simp [Transfer.apply, Transfer.identity]
  unfold Transfer.ofBlock
  rw [apply_diff_gen, apply_foldl_extend, hidentity]

/-- What comes out of a block was defined in it last, or came in and was left alone. -/
theorem contains_apply_ofBlock (hd : g.Defines d name) (b : Nat) (start : IdSet) :
    ((Transfer.ofBlock g b).apply start).contains d = true
      ↔ InForce name d (g.events b) ∨ (start.contains d = true ∧ Untouched name (g.events b)) := by
  rw [apply_ofBlock, contains_liveAfter hd]

/-! ## The uses in a block -/

/-- The use at an event, given the definitions in force before it. -/
def useAt (g : Graph) (b : Nat) (live : IdSet) (e : Event) : Use :=
  { variableName := e.variableName, line := e.line, column := e.column, block := b,
    reaching := (live.inter (g.definitionsOf e.variableName)).below g.definitions.length }

/-- A point of a graph at which a variable is used. -/
structure UsePoint where
  block : Nat
  position : Nat
  event : Event
deriving Repr, DecidableEq

/-- The points of a block at which variables are used, in order. -/
def Graph.usePointsOf (g : Graph) (b : Nat) : List UsePoint :=
  ((g.events b).zipIdx.filter fun p => p.1.definition.isNone).map fun p => ⟨b, p.2, p.1⟩

/-- All points at which variables are used, block by block. -/
def Graph.usePoints (g : Graph) : List UsePoint :=
  (List.range g.blocks.length).flatMap g.usePointsOf

/-- The events that are passed in the block before a point. -/
def Graph.before (g : Graph) (p : UsePoint) : List Event := (g.events p.block).take p.position

/-- A use point is an event of a block that defines nothing. -/
theorem Graph.mem_usePoints {g : Graph} {p : UsePoint} :
    p ∈ g.usePoints ↔ p.block < g.blocks.length
      ∧ (g.events p.block)[p.position]? = some p.event ∧ p.event.definition = none := by
  unfold Graph.usePoints Graph.usePointsOf
  simp only [List.mem_flatMap, List.mem_range, List.mem_map, List.mem_filter, Prod.exists,
    List.mem_zipIdx_iff_getElem?, Option.isNone_iff_eq_none]
  constructor
  · rintro ⟨b, hb, e, j, ⟨hj, he⟩, rfl⟩
    exact ⟨hb, hj, he⟩
  · rintro ⟨hb, hj, he⟩
    exact ⟨p.block, hb, p.event, p.position, ⟨hj, he⟩, rfl⟩

/-- Going on through a block from some point on. -/
theorem uses_foldl_step (b : Nat) (start : IdSet) (before rest : List Event) (found : List Use) :
    (rest.foldl (Replay.step g b) { live := liveAfter g start before, uses := found }).uses
      = found ++ ((rest.zipIdx before.length).filter fun p => p.1.definition.isNone).map
          fun p => useAt g b (liveAfter g start ((before ++ rest).take p.2)) p.1 := by
  induction rest generalizing before found with
  | nil => simp
  | cons e rest ih =>
    have hnext : liveAfter g start (before ++ [e]) = liveStep g (liveAfter g start before) e := by
      simp [liveAfter]
    have hlen : (before ++ [e]).length = before.length + 1 := by simp
    rw [List.foldl_cons, List.zipIdx_cons]
    cases hdef : e.definition with
    | some d =>
      have hstep : Replay.step g b { live := liveAfter g start before, uses := found } e
          = { live := liveAfter g start (before ++ [e]), uses := found } := by
        rw [hnext]
        simp only [Replay.step, liveStep, hdef]
      rw [hstep, ih, hlen, List.filter_cons_of_neg (by simp [hdef])]
      simp only [List.append_assoc, List.singleton_append]
    | none =>
      have hstep : Replay.step g b { live := liveAfter g start before, uses := found } e
          = { live := liveAfter g start (before ++ [e]),
              uses := found ++ [useAt g b (liveAfter g start before) e] } := by
        rw [hnext]
        simp only [Replay.step, liveStep, hdef]
        rfl
      rw [hstep, ih, hlen, List.filter_cons_of_pos (by simp [hdef]), List.map_cons]
      simp only [List.append_assoc, List.singleton_append, List.take_left]

/-- The uses of a graph are those at its use points, in order. -/
theorem usesOf_eq_map (g : Graph) (s : Solver) :
    usesOf g s = g.usePoints.map fun p =>
      useAt g p.block (liveAfter g (s.starts.getD p.block IdSet.empty) (g.before p)) p.event := by
  unfold usesOf Graph.usePoints
  rw [List.map_flatMap]
  congr 1
  funext b
  have hblock := uses_foldl_step (g := g) b (s.starts.getD b IdSet.empty) [] (g.events b) []
  unfold usesInBlock Graph.usePointsOf
  rw [List.map_map]
  exact hblock

end Live

end ModuleLint.Flow
