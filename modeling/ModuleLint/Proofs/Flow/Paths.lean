import ModuleLint.Proofs.Flow.RoutineGraph

/-!
# Paths through a flow graph

A path is a sequence of blocks along edges. From a point inside of a block it may go on to the exit
in many ways, and `Graph.Completes` collects the places that are passed on the way, together with a
bound on the number of blocks.

A part of a graph simulates a set of runs (`Simulates`) when going on from its first point is the
same as first taking one of the runs and then going on from its last point. The lemmas below build
such simulations: along a block, one after another, across a single edge, into two branches, around
a loop, and into the exit. The bound on the number of blocks is there for loops, where the
simulation of the body has to lead to a shorter rest.
-/

set_option autoImplicit false

namespace ModuleLint.Flow

namespace Runs

variable {p q r : Runs} {t : List Nat} {e : Ending}

/-- Parts are put one after another in any grouping. -/
theorem andThen_assoc (p q r : Runs) : (p.andThen q).andThen r = p.andThen (q.andThen r) := by
  funext t e
  apply propext
  constructor
  · rintro (⟨⟨hp, -⟩ | ⟨u, v, rfl, hp, hq⟩, he⟩ | ⟨w, x, rfl, ⟨-, hne⟩ | ⟨u, v, rfl, hp, hq⟩, hr⟩)
    · exact .inl ⟨hp, he⟩
    · exact .inr ⟨u, v, rfl, hp, .inl ⟨hq, he⟩⟩
    · cases hne
    · exact .inr ⟨u, v ++ x, List.append_assoc .., hp, .inr ⟨v, x, rfl, hq, hr⟩⟩
  · rintro (⟨hp, he⟩ | ⟨u, w, rfl, hp, ⟨hq, he⟩ | ⟨v, x, rfl, hq, hr⟩⟩)
    · exact .inl ⟨.inl ⟨hp, rfl⟩, he⟩
    · exact .inl ⟨.inr ⟨u, w, rfl, hp, hq⟩, he⟩
    · exact .inr ⟨u ++ v, x, (List.append_assoc ..).symm, .inr ⟨u, v, rfl, hp, hq⟩, hr⟩

/-- Passing nothing before a part changes nothing. -/
theorem pass_nil_andThen (p : Runs) : (pass []).andThen p = p := by
  funext t e
  apply propext
  constructor
  · rintro (⟨⟨-, hne⟩, -⟩ | ⟨u, v, rfl, ⟨rfl, -⟩, hp⟩)
    · cases hne
    · exact hp
  · exact fun hp => .inr ⟨[], t, rfl, ⟨rfl, rfl⟩, hp⟩

/-- Passing nothing after a part changes nothing. -/
theorem andThen_pass_nil (p : Runs) : p.andThen (pass []) = p := by
  funext t e
  apply propext
  constructor
  · rintro (⟨hp, rfl⟩ | ⟨u, v, rfl, hp, ⟨rfl, rfl⟩⟩)
    · exact hp
    · simpa using hp
  · intro hp
    cases e with
    | goesOn => exact .inr ⟨t, [], by simp, hp, ⟨rfl, rfl⟩⟩
    | returned => exact .inl ⟨hp, rfl⟩

/-- What follows two alternatives follows each of them. -/
theorem either_andThen (p q r : Runs) :
    (p.either q).andThen r = (p.andThen r).either (q.andThen r) := by
  funext t e
  apply propext
  constructor
  · rintro (⟨hp | hq, he⟩ | ⟨u, v, rfl, hp | hq, hr⟩)
    · exact .inl (.inl ⟨hp, he⟩)
    · exact .inr (.inl ⟨hq, he⟩)
    · exact .inl (.inr ⟨u, v, rfl, hp, hr⟩)
    · exact .inr (.inr ⟨u, v, rfl, hq, hr⟩)
  · rintro ((⟨hp, he⟩ | ⟨u, v, rfl, hp, hr⟩) | (⟨hq, he⟩ | ⟨u, v, rfl, hq, hr⟩))
    · exact .inl ⟨.inl hp, he⟩
    · exact .inr ⟨u, v, rfl, .inl hp, hr⟩
    · exact .inl ⟨.inr hq, he⟩
    · exact .inr ⟨u, v, rfl, .inr hq, hr⟩

/-- What follows a part may be replaced by more. -/
theorem andThen_mono (h : ∀ t e, q t e → r t e) (hp : p.andThen q t e) : p.andThen r t e := by
  rcases hp with hp | ⟨u, v, ht, hp, hq⟩
  · exact .inl hp
  · exact .inr ⟨u, v, ht, hp, h v e hq⟩

end Runs

namespace Graph

/-- The blocks on a path from one block to another, both included. -/
inductive Path (g : Graph) : Nat → List Nat → Nat → Prop
  | single (a : Nat) : Path g a [a] a
  | cons {a b c : Nat} {path : List Nat} (edge : b ∈ g.succs a) (rest : Path g b path c) :
      Path g a (a :: path) c

/-- Whether there is a path from one block to another. -/
def Reaches (g : Graph) (a b : Nat) : Prop := ∃ path, g.Path a path b

/-- Going on from position `j` of block `a` to the exit, over at most `k` blocks. -/
def Completes (g : Graph) (k a j : Nat) : Runs := fun t e =>
  e = .returned ∧ ∃ path, g.Path a path Graph.exit ∧ path.length ≤ k
    ∧ t = (path.flatMap g.stretch).drop j

variable {g : Graph} {k a j : Nat} {t : List Nat} {e : Ending}

/-- More blocks may be allowed. -/
theorem Completes.mono {k' : Nat} (h : g.Completes k a j t e) (hk : k ≤ k') :
    g.Completes k' a j t e := by
  obtain ⟨he, path, hpath, hlen, ht⟩ := h
  exact ⟨he, path, hpath, Nat.le_trans hlen hk, ht⟩

/-- What a path passes begins with its first block. -/
theorem Path.flatMap_eq_stretch_append {b : Nat} {path : List Nat} (h : g.Path a path b)
    {α : Type} (f : Nat → List α) : path.flatMap f = f a ++ path.tail.flatMap f := by
  cases h with
  | single => rfl
  | cons edge rest => rfl

/-- Passing some events of a block. -/
theorem completes_advance {m : Nat} (h : j + m ≤ (g.events a).length) :
    g.Completes k a j t e ↔
      ∃ v, t = List.range' (g.offset a + j) m ++ v ∧ g.Completes k a (j + m) v e := by
  have hdrop : ∀ w : List Nat, (g.stretch a ++ w).drop j
      = List.range' (g.offset a + j) m ++ (g.stretch a ++ w).drop (j + m) := by
    intro w
    have hlen : (g.stretch a).length = (g.events a).length := by simp [stretch]
    have hsplit : (g.stretch a).drop j
        = List.range' (g.offset a + j) m ++ (g.stretch a).drop (j + m) := by
      have hm : (g.events a).length - j = m + ((g.events a).length - (j + m)) := by omega
      unfold stretch
      rw [List.drop_range', List.drop_range', hm, Nat.mul_one, Nat.mul_one,
        ← List.range'_append_1, Nat.add_assoc]
    rw [List.drop_append_of_le_length (by omega), List.drop_append_of_le_length (by omega), hsplit,
      List.append_assoc]
  constructor
  · rintro ⟨he, path, hpath, hlen, rfl⟩
    refine ⟨(path.flatMap g.stretch).drop (j + m), ?_, he, path, hpath, hlen, rfl⟩
    rw [hpath.flatMap_eq_stretch_append, hdrop]
  · rintro ⟨v, rfl, he, path, hpath, hlen, rfl⟩
    refine ⟨he, path, hpath, hlen, ?_⟩
    rw [hpath.flatMap_eq_stretch_append, hdrop]

/-- Leaving a block along one of its edges. -/
theorem completes_edge (ha : a ≠ Graph.exit) :
    g.Completes k a (g.events a).length t e ↔
      ∃ k' < k, ∃ c ∈ g.succs a, g.Completes k' c 0 t e := by
  have hlen : (g.stretch a).length = (g.events a).length := by simp [stretch]
  constructor
  · rintro ⟨he, path, hpath, hk, rfl⟩
    cases hpath with
    | single => exact absurd rfl ha
    | @cons _ c _ rest edge hrest =>
      refine ⟨rest.length, hk, c, edge, he, rest, hrest, Nat.le_refl _, ?_⟩
      rw [List.flatMap_cons, ← hlen, List.drop_left, List.drop_zero]
  · rintro ⟨k', hk, c, edge, he, rest, hrest, hlen', rfl⟩
    refine ⟨he, a :: rest, .cons edge hrest, by rw [List.length_cons]; omega, ?_⟩
    rw [List.flatMap_cons, ← hlen, List.drop_left, List.drop_zero]

end Graph

/-! ## Simulations -/

/-- Going on to the exit from position `j` of block `a` is taking one of the given runs and then
going on from position `i` of block `z`. A run that returns has reached the exit by itself. -/
structure Simulates (g : Graph) (p : Runs) (a j z i : Nat) : Prop where
  sound : ∀ k t e, g.Completes k a j t e → p.andThen (g.Completes k z i) t e
  complete : ∀ k t e, p.andThen (g.Completes k z i) t e → ∃ k', g.Completes k' a j t e

namespace Simulates

variable {g : Graph} {p q : Runs} {a b c j i z : Nat}

/-- Staying at a point passes nothing. -/
theorem refl (g : Graph) (a j : Nat) : Simulates g (.pass []) a j a j where
  sound k t e hc := by rwa [Runs.pass_nil_andThen]
  complete k t e hr := by
    rw [Runs.pass_nil_andThen] at hr
    exact ⟨k, hr⟩

/-- Simulations are put one after another. -/
theorem trans {y l : Nat} (h : Simulates g p a j y l) (h' : Simulates g q y l z i) :
    Simulates g (p.andThen q) a j z i where
  sound k t e hc := by
    rw [Runs.andThen_assoc]
    exact Runs.andThen_mono (h'.sound k) (h.sound k t e hc)
  complete k t e hr := by
    rw [Runs.andThen_assoc] at hr
    rcases hr with hret | ⟨u, v, rfl, hp, hq⟩
    · exact h.complete 0 t e (.inl hret)
    · obtain ⟨k', hk'⟩ := h'.complete k v e hq
      exact h.complete k' _ e (.inr ⟨u, v, rfl, hp, hk'⟩)

/-- Something that passes nothing may come first. -/
theorem nil_trans {y l : Nat} (h : Simulates g (.pass []) a j y l) (h' : Simulates g q y l z i) :
    Simulates g q a j z i := by
  have hboth := h.trans h'
  rwa [Runs.pass_nil_andThen] at hboth

/-- Something that passes nothing may come last. -/
theorem trans_nil {y l : Nat} (h : Simulates g p a j y l) (h' : Simulates g (.pass []) y l z i) :
    Simulates g p a j z i := by
  have hboth := h.trans h'
  rwa [Runs.andThen_pass_nil] at hboth

/-- The events of a block are passed one after another. -/
theorem pass {m : Nat} (h : j + m ≤ (g.events a).length) :
    Simulates g (.pass (List.range' (g.offset a + j) m)) a j a (j + m) where
  sound k t e hc := by
    obtain ⟨v, rfl, hv⟩ := (Graph.completes_advance h).mp hc
    exact .inr ⟨_, v, rfl, ⟨rfl, rfl⟩, hv⟩
  complete k t e hr := by
    rcases hr with ⟨⟨-, hne⟩, -⟩ | ⟨u, v, rfl, ⟨rfl, -⟩, hv⟩
    · cases hne
    · exact ⟨k, (Graph.completes_advance h).mpr ⟨v, rfl, hv⟩⟩

/-- A single edge passes nothing. -/
theorem edge (ha : a ≠ Graph.exit) (hs : g.succs a = [b]) :
    Simulates g (.pass []) a (g.events a).length b 0 where
  sound k t e hc := by
    rw [Runs.pass_nil_andThen]
    obtain ⟨k', hk, c, hmem, hc⟩ := (Graph.completes_edge ha).mp hc
    rw [hs, List.mem_singleton] at hmem
    subst hmem
    exact hc.mono (Nat.le_of_lt hk)
  complete k t e hr := by
    rw [Runs.pass_nil_andThen] at hr
    exact ⟨k + 1, (Graph.completes_edge ha).mpr ⟨k, Nat.lt_succ_self k, b, by simp [hs], hr⟩⟩

/-- Two edges lead into two branches. -/
theorem fork (ha : a ≠ Graph.exit) (hs : g.succs a = [b, c]) (hp : Simulates g p b 0 z i)
    (hq : Simulates g q c 0 z i) : Simulates g (p.either q) a (g.events a).length z i where
  sound k t e hc := by
    rw [Runs.either_andThen]
    obtain ⟨k', hk, x, hmem, hx⟩ := (Graph.completes_edge ha).mp hc
    have hx' := hx.mono (Nat.le_of_lt hk)
    rw [hs] at hmem
    rcases List.mem_cons.mp hmem with rfl | hmem
    · exact .inl (hp.sound k t e hx')
    · rw [List.mem_singleton] at hmem
      subst hmem
      exact .inr (hq.sound k t e hx')
  complete k t e hr := by
    rw [Runs.either_andThen] at hr
    have hstep : ∀ x ∈ g.succs a, ∀ k', g.Completes k' x 0 t e →
        ∃ k'', g.Completes k'' a (g.events a).length t e :=
      fun x hx k' hk' => ⟨k' + 1, (Graph.completes_edge ha).mpr ⟨k', Nat.lt_succ_self k', x, hx, hk'⟩⟩
    rcases hr with hr | hr
    · obtain ⟨k', hk'⟩ := hp.complete k t e hr
      exact hstep b (by simp [hs]) k' hk'
    · obtain ⟨k', hk'⟩ := hq.complete k t e hr
      exact hstep c (by simp [hs]) k' hk'

/-- An edge into the exit ends the routine, whatever comes after it in the text. -/
theorem stop (ha : a ≠ Graph.exit) (hs : g.succs a = [Graph.exit])
    (hevents : g.events Graph.exit = []) (hsuccs : g.succs Graph.exit = []) :
    Simulates g .stop a (g.events a).length z i where
  sound k t e hc := by
    obtain ⟨k', hk, x, hmem, he, path, hpath, -, rfl⟩ := (Graph.completes_edge ha).mp hc
    rw [hs, List.mem_singleton] at hmem
    subst hmem
    refine .inl ⟨⟨?_, rfl⟩, he⟩
    cases hpath with
    | single => simp [Graph.stretch, hevents]
    | cons edge rest => simp [hsuccs] at edge
  complete k t e hr := by
    rcases hr with ⟨⟨rfl, -⟩, rfl⟩ | ⟨u, v, rfl, ⟨-, hne⟩, -⟩
    · refine ⟨2, rfl, [a, Graph.exit], .cons (by simp [hs]) (.single _), by simp, ?_⟩
      have hlen : (g.stretch a).length = (g.events a).length := by simp [Graph.stretch]
      have hexit : g.stretch Graph.exit = [] := by simp [Graph.stretch, hevents]
      simp [hexit, ← hlen]
    · cases hne

/-- All events of a block are passed from its start to its end. -/
theorem completes_stretch {k : Nat} {t : List Nat} {e : Ending} :
    g.Completes k a 0 t e ↔
      ∃ v, t = g.stretch a ++ v ∧ g.Completes k a (g.events a).length v e := by
  have h := Graph.completes_advance (g := g) (k := k) (a := a) (j := 0) (t := t) (e := e)
    (m := (g.events a).length) (by simp)
  simpa [Graph.stretch] using h

/-- A run of a loop leads on from its header: to the end of the routine if the run ends it, and
otherwise as far as the block after the loop leads on. -/
theorem completes_of_loop {header body last after : Nat} (hh : header ≠ Graph.exit)
    (hs : g.succs header = [body, after]) (hp : Simulates g p body 0 last (g.events last).length)
    (hl : last ≠ Graph.exit) (hback : g.succs last = [header]) {u : List Nat} {f e : Ending}
    (hloop : Runs.loop (g.stretch header) p u f) (v : List Nat)
    (hret : f = .returned → v = [] ∧ e = .returned)
    (hgo : f = .goesOn → ∃ k, g.Completes k after 0 v e) :
    ∃ k, g.Completes k header 0 (u ++ v) e := by
  have henter : ∀ x ∈ g.succs header, ∀ k v, g.Completes k x 0 v e →
      ∃ k', g.Completes k' header 0 (g.stretch header ++ v) e := by
    intro x hx k v hv
    exact ⟨k + 1, completes_stretch.mpr ⟨v, rfl, (Graph.completes_edge hh).mpr
      ⟨k, Nat.lt_succ_self k, x, hx, hv⟩⟩⟩
  induction hloop generalizing v with
  | leave =>
    obtain ⟨k, hk⟩ := hgo rfl
    exact henter after (by simp [hs]) k v hk
  | @again t u f round rest ih =>
    obtain ⟨k₁, hk₁⟩ := ih v hret hgo
    have hlast : g.Completes (k₁ + 1) last (g.events last).length (u ++ v) e :=
      (Graph.completes_edge hl).mpr ⟨k₁, Nat.lt_succ_self k₁, header, by simp [hback], hk₁⟩
    obtain ⟨k₂, hk₂⟩ := hp.complete _ _ e (.inr ⟨t, u ++ v, rfl, round, hlast⟩)
    simpa only [List.append_assoc] using henter body (by simp [hs]) k₂ _ hk₂
  | @quit t round =>
    obtain ⟨rfl, rfl⟩ := hret rfl
    obtain ⟨k₂, hk₂⟩ := hp.complete 0 t _ (.inl ⟨round, rfl⟩)
    simpa only [List.append_nil] using henter body (by simp [hs]) k₂ t hk₂

/-- Two edges from the header of a loop lead into its body, which leads back, and to what follows
the loop. -/
theorem loop {header body last after : Nat} (hh : header ≠ Graph.exit)
    (hs : g.succs header = [body, after]) (hp : Simulates g p body 0 last (g.events last).length)
    (hl : last ≠ Graph.exit) (hback : g.succs last = [header]) :
    Simulates g (Runs.loop (g.stretch header) p) header 0 after 0 where
  sound k := by
    -- a round of the loop crosses an edge, so the rest of the way is shorter
    induction k using Nat.strongRecOn with
    | ind k ih =>
      intro t e hc
      obtain ⟨v, rfl, hv⟩ := completes_stretch.mp hc
      obtain ⟨k', hk, x, hmem, hx⟩ := (Graph.completes_edge hh).mp hv
      rw [hs] at hmem
      rcases List.mem_cons.mp hmem with rfl | hmem
      · rcases hp.sound k' v e hx with ⟨hret, rfl⟩ | ⟨u, w, rfl, hround, hw⟩
        · exact .inl ⟨.quit hret, rfl⟩
        · obtain ⟨k'', hk'', x, hmem, hx⟩ := (Graph.completes_edge hl).mp hw
          rw [hback, List.mem_singleton] at hmem
          subst hmem
          rcases ih k'' (by omega) w e hx with ⟨hret, rfl⟩ | ⟨w₁, w₂, rfl, hgo, hrest⟩
          · exact .inl ⟨.again hround hret, rfl⟩
          · refine .inr ⟨_, w₂, ?_, .again hround hgo, hrest.mono (by omega)⟩
            simp only [List.append_assoc]
      · rw [List.mem_singleton] at hmem
        subst hmem
        exact .inr ⟨_, v, rfl, .leave, hx.mono (Nat.le_of_lt hk)⟩
  complete k t e hr := by
    rcases hr with ⟨hret, rfl⟩ | ⟨u, v, rfl, hgo, hv⟩
    · simpa using completes_of_loop hh hs hp hl hback hret [] (fun _ => ⟨rfl, rfl⟩)
        (fun h => by cases h)
    · exact completes_of_loop hh hs hp hl hback hgo v (fun h => by cases h) fun _ => ⟨k, hv⟩

end Simulates

end ModuleLint.Flow
