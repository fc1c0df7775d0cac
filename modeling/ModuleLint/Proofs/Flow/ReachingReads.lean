import ModuleLint.Proofs.Flow.Occurrences

/-!
# Definitions that reach the reads of a routine

The uses that an analysis records belong to the reads of the text one by one, and what is recorded can
be told from the executions of the routine alone (`forall₂_readPlaces_uses`). A definition is recorded
for a read when some execution passes it and comes to the read without another definition of the
variable in between. For a read that no execution comes to, only definitions are recorded that no
execution comes to either.
-/

set_option autoImplicit false

namespace ModuleLint

open ModuleLint.Flow

namespace Routine

/-- Some execution passes a definition of the variable and then comes to a place, and does not define
the variable in between. -/
def Carries (m : Option Module) (r : Routine) (name : String) (definition place : Nat) : Prop :=
  r.DefinesAt m name definition ∧ ∃ before between,
    r.ComesTo m (before ++ definition :: between) place ∧ ∀ x ∈ between, ¬ r.DefinesAt m name x

open Classical in
/-- The places of the text that have some property, from top to bottom. -/
noncomputable def placesWhere (m : Option Module) (r : Routine) (P : Nat → Prop) : List Nat :=
  (List.range (r.script m).length).filter fun p => decide (P p)

end Routine

namespace Flow

/-- What an analysis records for the read at a place. -/
structure RecordsRead (m : Option Module) (r : Routine) (result : Result) (place : Nat) (u : Use) :
    Prop where
  reads : ∃ ref, (r.script m)[place]? = some (.read ref) ∧ u.variableName = ref.name
    ∧ u.line = ref.span.line ∧ u.column = ref.span.column
  isReachable_iff : result.isReachable u.block = true ↔ ∃ earlier, r.ComesTo m earlier place
  mem_iff : (∃ earlier, r.ComesTo m earlier place) → ∀ d, d ∈ u.reaching ↔
    ∃ q, d = numberAt m r q ∧ r.Carries m u.variableName q place
  not_comesTo : ¬ (∃ earlier, r.ComesTo m earlier place) → ∀ q name, r.DefinesAt m name q →
    numberAt m r q ∈ u.reaching → ¬ ∃ earlier, r.ComesTo m earlier q

section Lists

variable {α β : Type} {R : α → β → Prop} {xs : List α} {ys : List β}

/-- Every member on the left has its partner. -/
theorem exists_right_of_mem (h : List.Forall₂ R xs ys) {x : α} (hx : x ∈ xs) : ∃ y ∈ ys, R x y := by
  induction h with
  | nil => cases hx
  | @cons a b xs ys hab _ ih =>
    rcases List.mem_cons.mp hx with rfl | hx
    · exact ⟨b, List.mem_cons_self .., hab⟩
    · obtain ⟨y, hy, hxy⟩ := ih hx
      exact ⟨y, List.mem_cons_of_mem b hy, hxy⟩

/-- Every member on the right has its partner. -/
theorem exists_left_of_mem (h : List.Forall₂ R xs ys) {y : β} (hy : y ∈ ys) : ∃ x ∈ xs, R x y :=
  exists_right_of_mem (List.Forall₂.flip h) hy

end Lists

variable {budget : Nat} {m : Option Module} {kind : RoutineKind} {r : Routine} {result : Result}

/-- A variable is defined at a place when the script defines it there. -/
theorem definesAt_iff_script {name : String} {q : Nat} :
    r.DefinesAt m name q ↔ ∃ origin span, (r.script m)[q]? = some (.define origin name span) := by
  constructor
  · rintro ⟨e, hq, hdefines⟩
    cases e with
    | read ref => cases hdefines
    | define origin defined span =>
      obtain rfl : defined = name := beq_iff_eq.mp hdefines
      exact ⟨origin, span, hq⟩
  · rintro ⟨origin, span, hq⟩
    exact ⟨_, hq, beq_self_eq_true name⟩

/-- A variable is read at a place when the script reads it there. -/
theorem readsAt_iff_script {name : String} {q : Nat} :
    r.ReadsAt m name q ↔ ∃ ref, (r.script m)[q]? = some (.read ref) ∧ ref.name = name := by
  constructor
  · rintro ⟨e, hq, hreads⟩
    cases e with
    | define origin defined span => cases hreads
    | read ref => exact ⟨ref, hq, beq_iff_eq.mp hreads⟩
  · rintro ⟨ref, hq, rfl⟩
    exact ⟨_, hq, beq_self_eq_true ref.name⟩

/-- A definition and the name of its number are the same thing said twice. -/
theorem eq_of_defines_numberAt {q : Nat} {origin : Origin} {name name' : String} {span : Span}
    (hq : (r.script m)[q]? = some (.define origin name span))
    (hdefines : (Graph.ofRoutine m r).Defines (numberAt m r q) name') : name = name' := by
  have hname := defines_numberAt hq
  unfold Graph.Defines at hname hdefines
  rw [hname] at hdefines
  exact Option.some.inj hdefines

/-- The block of a use is reachable when some execution comes to the use. -/
theorem comesTo_usePoint_iff {p : UsePoint} (hp : p ∈ (Graph.ofRoutine m r).usePoints) :
    (∃ earlier, r.ComesTo m earlier ((Graph.ofRoutine m r).place p))
      ↔ (Graph.ofRoutine m r).Reaches Graph.entry p.block := by
  obtain ⟨-, hevent, -⟩ := Graph.mem_usePoints.mp hp
  exact comesTo_place_iff (List.getElem?_eq_some_iff.mp hevent).1

/-- The definitions that reach a use along paths are those that executions carry to its place. -/
theorem mem_reaching_iff_carries {p : UsePoint} {u : Use} {d : Nat}
    (hu : ReachingExact (Graph.ofRoutine m r) p u) (hp : p ∈ (Graph.ofRoutine m r).usePoints)
    (hreach : (Graph.ofRoutine m r).Reaches Graph.entry p.block) :
    d ∈ u.reaching
      ↔ ∃ q, d = numberAt m r q
        ∧ r.Carries m u.variableName q ((Graph.ofRoutine m r).place p) := by
  rw [hu.mem_iff_of_reaches hreach]
  constructor
  · rintro ⟨hdefines, passed, harrives, hforce⟩
    obtain ⟨earlier, hcomes, hmap⟩ := (arrives_iff hp passed).mp harrives
    obtain ⟨before, q, between, rfl, ⟨e, hevent, hd⟩, hbetween⟩ :=
      (inForce_iff_places hmap).mp hforce
    obtain ⟨rfl, origin, span, hq⟩ := exists_define_of_eventAt hevent hd
    rw [eq_of_defines_numberAt hq hdefines] at hq
    exact ⟨q, rfl, definesAt_iff_script.mpr ⟨origin, span, hq⟩, before, between, hcomes, hbetween⟩
  · rintro ⟨q, rfl, hdef, before, between, hcomes, hbetween⟩
    obtain ⟨origin, span, hq⟩ := definesAt_iff_script.mp hdef
    obtain ⟨passed, hmap⟩ := exists_events_of_comesTo hcomes
    have hevent : r.eventAt m q
        = some (Effect.event (numberAt m r q) (.define origin u.variableName span)) := by
      rw [eventAt_eq, hq]
      rfl
    refine ⟨defines_numberAt hq, passed, (arrives_iff hp passed).mpr ⟨_, hcomes, hmap⟩, ?_⟩
    exact (inForce_iff_places hmap).mpr ⟨before, q, between, rfl, ⟨_, hevent, rfl⟩, hbetween⟩

/-- The definitions that a use in code without a way to it sees stand in such code as well. -/
theorem not_comesTo_of_mem_reaching {p : UsePoint} {u : Use} {q : Nat} {name : String}
    (hu : ReachingExact (Graph.ofRoutine m r) p u)
    (hp : ¬ (Graph.ofRoutine m r).Reaches Graph.entry p.block) (hq : r.DefinesAt m name q)
    (hmem : numberAt m r q ∈ u.reaching) : ¬ ∃ earlier, r.ComesTo m earlier q := by
  -- what is recorded is a definition earlier in the block of the use
  rw [hu.eq_of_not_reaches hp, Option.mem_toList] at hmem
  obtain ⟨e, he, hd⟩ := exists_mem_of_nearestDefinition hmem
  obtain ⟨j, hj, hget⟩ := List.getElem_of_mem (List.mem_of_mem_take he)
  have hevent := eventAt_place m r hj
  rw [List.getElem?_eq_getElem hj, hget] at hevent
  obtain ⟨hnumber, origin', span', hscript⟩ := exists_define_of_eventAt hevent hd
  obtain ⟨origin, span, hq⟩ := definesAt_iff_script.mp hq
  rw [eq_of_numberAt_eq hq rfl hscript rfl hnumber, comesTo_place_iff hj]
  exact hp

/-- The uses of an analysis belong to the reads of the text, from top to bottom. -/
theorem forall₂_readPlaces_uses (h : analyzeRoutine budget m kind r = .ok result) :
    List.Forall₂ (RecordsRead m r result) (r.readPlaces m) result.uses := by
  obtain ⟨f, huses, hexact⟩ := exists_uses_eq_map h
  rw [← map_place_usePoints, huses, List.forall₂_map_left_iff, List.forall₂_map_right_iff,
    List.forall₂_same]
  intro p hp
  have hcomes := comesTo_usePoint_iff hp
  obtain ⟨hname, hline, hcolumn, hblock⟩ := (hexact p).stands_at
  obtain ⟨ref, href, hname', hline', hcolumn'⟩ := script_place hp
  refine ⟨⟨ref, href, hname.trans hname', hline.trans hline', hcolumn.trans hcolumn'⟩, ?_, ?_, ?_⟩
  · rw [hblock, isReachable_iff h, hcomes]
  · intro hreach d
    exact mem_reaching_iff_carries (hexact p) hp (hcomes.mp hreach)
  · intro hreach q name hq hmem
    exact not_comesTo_of_mem_reaching (hexact p) (mt hcomes.mpr hreach) hq hmem

/-! ## Choosing places and what is recorded there -/

open Classical in
/-- The places with a property are places of the script. -/
theorem mem_placesWhere {P : Nat → Prop} {p : Nat} :
    p ∈ r.placesWhere m P ↔ p < (r.script m).length ∧ P p := by
  unfold Routine.placesWhere
  rw [List.mem_filter, List.mem_range, decide_eq_true_iff]

/-- If a test of what is recorded for some places decides a property of these places, and no others
have the property, then what passes the test is what is recorded for the places with the property. -/
theorem forall₂_placesWhere {α : Type} {R S : Nat → α → Prop} {P : Nat → Prop} {kept : Nat → Bool}
    {test : α → Bool} {ys : List α}
    (hall : List.Forall₂ R ((List.range (r.script m).length).filter kept) ys)
    (hkept : ∀ p, P p → kept p = true) (htest : ∀ p y, R p y → (P p ↔ test y = true))
    (hS : ∀ p y, R p y → S p y) :
    List.Forall₂ S (r.placesWhere m P) (ys.filter test) := by
  classical
  have hplaces : r.placesWhere m P
      = ((List.range (r.script m).length).filter kept).filter fun p => decide (P p) := by
    unfold Routine.placesWhere
    rw [List.filter_filter]
    apply List.filter_congr
    intro p _
    rw [Bool.eq_iff_iff, Bool.and_eq_true, decide_eq_true_iff]
    exact ⟨fun hp => ⟨hp, hkept p hp⟩, fun hp => hp.1⟩
  rw [hplaces]
  refine (List.rel_filter ?_ hall).imp hS
  intro p y hpy
  exact decide_eq_true_iff.trans (htest p y hpy)

end Flow

end ModuleLint
