import Mathlib.Data.List.Induction
import ModuleLint.Proofs.Flow.Executions
import ModuleLint.Proofs.Flow.ExitPaths
import ModuleLint.Proofs.Flow.ReachingUses

/-!
# Occurrences in the text and points of the graph

An execution of a routine comes to a place of its text, having passed others before
(`Routine.ComesTo`). This is the same as a path from the entry up to that place in the graph
(`comesTo_iff`): the rest of such a path can be completed, since every block leads to the exit.

The uses that are found in the graph are the reads of the text from top to bottom
(`map_place_usePoints`), and the numbered definitions are its definitions in the same order
(`forall₂_numbered`).
-/

set_option autoImplicit false

namespace ModuleLint

open ModuleLint.Flow

namespace Routine

/-- Some execution comes to a place after it has passed exactly the given places. -/
def ComesTo (m : Option Module) (r : Routine) (earlier : List Nat) (place : Nat) : Prop :=
  ∃ later, r.Executes m (earlier ++ place :: later)

/-- The variable is defined at the place. -/
def DefinesAt (m : Option Module) (r : Routine) (name : String) (place : Nat) : Prop :=
  ∃ e, (r.script m)[place]? = some e ∧ e.defines name = true

/-- The variable is read at the place. -/
def ReadsAt (m : Option Module) (r : Routine) (name : String) (place : Nat) : Prop :=
  ∃ e, (r.script m)[place]? = some e ∧ e.reads name = true

/-- The places at which variables are read, from top to bottom. -/
def readPlaces (m : Option Module) (r : Routine) : List Nat :=
  (List.range (r.script m).length).filter fun p => (r.script m)[p]?.any fun e => !e.isDefinition

/-- The places at which variables are defined, from top to bottom. -/
def definitionPlaces (m : Option Module) (r : Routine) : List Nat :=
  (List.range (r.script m).length).filter fun p => (r.script m)[p]?.any Effect.isDefinition

end Routine

namespace Flow

namespace Graph

variable {g : Graph}

/-! ## Coming to a place -/

/-- A place in the first block of a path. -/
theorem eq_range'_of_stretch_append {a q : Nat} {rest earlier later : List Nat}
    (h : g.stretch a ++ rest = earlier ++ q :: later)
    (hlt : earlier.length < (g.events a).length) :
    q = g.offset a + earlier.length
      ∧ earlier = List.range' (g.offset a) earlier.length := by
  have hlen : (g.stretch a).length = (g.events a).length := by simp [stretch]
  constructor
  · have hget := congrArg (·[earlier.length]?) h
    simp only [List.getElem?_append_right (Nat.le_refl _), Nat.sub_self,
      List.getElem?_cons_zero] at hget
    rw [List.getElem?_append_left (by omega), stretch, List.getElem?_range' hlt,
      Option.some.injEq] at hget
    omega
  · have htake := congrArg (List.take earlier.length) h
    rw [List.take_left, List.take_append_of_le_length (by omega), stretch,
      List.take_range'_of_length_ge (Nat.le_of_lt hlt)] at htake
    exact htake.symm

/-- Where a place occurs on a path, an initial part of the path leads to it. -/
theorem Path.exists_front {a c q : Nat} {path earlier later : List Nat} (h : g.Path a path c)
    (heq : path.flatMap g.stretch = earlier ++ q :: later) :
    ∃ b j front, g.Path a front b ∧ j < (g.events b).length ∧ q = g.offset b + j
      ∧ earlier = front.dropLast.flatMap g.stretch ++ List.range' (g.offset b) j := by
  induction h generalizing earlier with
  | single c =>
    rw [List.flatMap_singleton] at heq
    have hlt : earlier.length < (g.events c).length := by
      have hlen := congrArg List.length heq
      simp only [stretch, List.length_range', List.length_append, List.length_cons] at hlen
      omega
    rw [← List.append_nil (g.stretch c)] at heq
    obtain ⟨hq, hearlier⟩ := eq_range'_of_stretch_append heq hlt
    exact ⟨c, earlier.length, [c], .single c, hlt, hq, by simpa using hearlier⟩
  | @cons a b c path edge tail ih =>
    rw [List.flatMap_cons] at heq
    rcases Nat.lt_or_ge earlier.length (g.events a).length with hlt | hge
    · obtain ⟨hq, hearlier⟩ := eq_range'_of_stretch_append heq hlt
      exact ⟨a, earlier.length, [a], .single a, hlt, hq, by simpa using hearlier⟩
    · -- the whole first block has been passed
      have hsplit : ∃ earlier', earlier = g.stretch a ++ earlier'
          ∧ path.flatMap g.stretch = earlier' ++ q :: later := by
        rcases List.append_eq_append_iff.mp heq with ⟨l, rfl, hl⟩ | ⟨l, hl, hrest⟩
        · exact ⟨l, rfl, hl⟩
        · have hnil : l = [] := by
            have hlen := congrArg List.length hl
            simp only [stretch, List.length_range', List.length_append] at hlen
            exact List.eq_nil_of_length_eq_zero (by omega)
          subst hnil
          exact ⟨[], by simpa using hl.symm, by simpa using hrest.symm⟩
      obtain ⟨earlier', rfl, hrest⟩ := hsplit
      obtain ⟨b', j, front, hfront, hj, hq, rfl⟩ := ih hrest
      refine ⟨b', j, a :: front, .cons edge hfront, hj, hq, ?_⟩
      have hne : front ≠ [] := by cases hfront <;> simp
      rw [List.dropLast_cons_of_ne_nil hne, List.flatMap_cons, List.append_assoc]

/-- A path that starts in a block passes each of its places. -/
theorem Path.flatMap_stretch_of_lt {b c j : Nat} {back : List Nat} (h : g.Path b back c)
    (hj : j < (g.events b).length) :
    ∃ later, back.flatMap g.stretch
      = List.range' (g.offset b) j ++ (g.offset b + j) :: later := by
  have hstretch : g.stretch b = List.range' (g.offset b) j
      ++ (g.offset b + j) :: List.range' (g.offset b + j + 1) ((g.events b).length - (j + 1)) := by
    have hlen : (g.events b).length = j + (1 + ((g.events b).length - (j + 1))) := by omega
    unfold stretch
    conv_lhs => rw [hlen]
    rw [← List.range'_append_1, ← List.range'_append_1]
    rfl
  refine ⟨List.range' (g.offset b + j + 1) ((g.events b).length - (j + 1))
    ++ back.tail.flatMap g.stretch, ?_⟩
  rw [h.flatMap_eq_stretch_append, hstretch]
  simp only [List.append_assoc, List.cons_append]

end Graph

/-- Executions come to a place along the paths from the entry to it. -/
theorem comesTo_iff (m : Option Module) (r : Routine) (earlier : List Nat) (q : Nat) :
    r.ComesTo m earlier q ↔
      ∃ b j front, (Graph.ofRoutine m r).Path Graph.entry front b
        ∧ j < ((Graph.ofRoutine m r).events b).length ∧ q = (Graph.ofRoutine m r).offset b + j
        ∧ earlier = front.dropLast.flatMap (Graph.ofRoutine m r).stretch
          ++ List.range' ((Graph.ofRoutine m r).offset b) j := by
  constructor
  · rintro ⟨later, hruns⟩
    obtain ⟨path, hpath, heq⟩ := (path_iff_executes m r _).mpr hruns
    exact hpath.exists_front heq
  · rintro ⟨b, j, front, hfront, hj, rfl, rfl⟩
    have hb := (Graph.wellFormed_ofRoutine m r).lt_of_reaches ⟨front, hfront⟩
    obtain ⟨back, hback⟩ := reaches_exit m r hb
    obtain ⟨later, hlater⟩ := hback.flatMap_stretch_of_lt hj
    refine ⟨later, (path_iff_executes m r _).mp ⟨_, hfront.append hback, ?_⟩⟩
    rw [List.flatMap_append, hlater, List.append_assoc]

/-! ## Events at places -/

/-- The event of an effect defines the variable that the effect does. -/
theorem Effect.defines_event (number : Nat) (name : String) (e : Effect) :
    (e.event number).defines name = e.defines name := by
  cases e <;> rfl

/-- The event of an effect has a number when the effect is a definition. -/
theorem Effect.definition_event (number : Nat) (e : Effect) :
    (e.event number).definition = if e.isDefinition then some number else none := by
  cases e <;> rfl

section Places

variable {m : Option Module} {r : Routine}

/-- The places of reads are those at which the script reads. -/
theorem mem_readPlaces {p : Nat} :
    p ∈ r.readPlaces m ↔ ∃ ref, (r.script m)[p]? = some (.read ref) := by
  unfold Routine.readPlaces
  rw [List.mem_filter, List.mem_range]
  constructor
  · rintro ⟨-, hread⟩
    match hp : (r.script m)[p]?, hread with
    | some (.read ref), _ => exact ⟨ref, rfl⟩
  · rintro ⟨ref, hp⟩
    exact ⟨(List.getElem?_eq_some_iff.mp hp).1, by rw [hp]; rfl⟩

/-- The places of definitions are those at which the script defines. -/
theorem mem_definitionPlaces {p : Nat} :
    p ∈ r.definitionPlaces m
      ↔ ∃ origin name span, (r.script m)[p]? = some (.define origin name span) := by
  unfold Routine.definitionPlaces
  rw [List.mem_filter, List.mem_range]
  constructor
  · rintro ⟨-, hdefine⟩
    match hp : (r.script m)[p]?, hdefine with
    | some (.define origin name span), _ => exact ⟨origin, name, span, rfl⟩
  · rintro ⟨origin, name, span, hp⟩
    exact ⟨(List.getElem?_eq_some_iff.mp hp).1, by rw [hp]; rfl⟩

/-- The number that a definition at a place gets: that of the definitions before it. -/
def numberAt (m : Option Module) (r : Routine) (place : Nat) : Nat :=
  definitionCount ((r.script m).take place)

/-- The event at a place is that of the effect there, numbered by the definitions before it. -/
theorem eventAt_eq (m : Option Module) (r : Routine) (place : Nat) :
    r.eventAt m place = (r.script m)[place]?.map fun e => e.event (numberAt m r place) := by
  unfold Routine.eventAt numberAt
  rw [getElem?_eventsFrom, Nat.zero_add]

/-- To define a variable at a place is to have an event there which defines it. -/
theorem definesAt_iff {name : String} {place : Nat} :
    r.DefinesAt m name place ↔ ∃ e, r.eventAt m place = some e ∧ e.defines name = true := by
  unfold Routine.DefinesAt
  rw [eventAt_eq]
  constructor
  · rintro ⟨e, he, hdef⟩
    exact ⟨_, by rw [he]; rfl, by rw [Effect.defines_event]; exact hdef⟩
  · rintro ⟨ev, hev, hdef⟩
    obtain ⟨e, he, rfl⟩ := Option.map_eq_some_iff.mp hev
    exact ⟨e, he, by rwa [Effect.defines_event] at hdef⟩

/-- An event with a number is that of a definition at its place. -/
theorem exists_define_of_eventAt {p d : Nat} {e : Event} (he : r.eventAt m p = some e)
    (hd : e.definition = some d) :
    d = numberAt m r p
      ∧ ∃ origin span, (r.script m)[p]? = some (.define origin e.variableName span) := by
  rw [eventAt_eq] at he
  obtain ⟨effect, heffect, rfl⟩ := Option.map_eq_some_iff.mp he
  cases effect with
  | read ref => cases hd
  | define origin name span => exact ⟨(Option.some.inj hd).symm, origin, span, heffect⟩

/-- Different definitions have different numbers. -/
theorem eq_of_numberAt_eq {p q : Nat} {e f : Effect} (hp : (r.script m)[p]? = some e)
    (he : e.isDefinition = true) (hq : (r.script m)[q]? = some f) (hf : f.isDefinition = true)
    (h : numberAt m r p = numberAt m r q) : p = q := by
  have hless : ∀ {p q : Nat} {e : Effect}, (r.script m)[p]? = some e → e.isDefinition = true →
      p < q → numberAt m r p < numberAt m r q := by
    intro p q e hp he hlt
    have hsucc : numberAt m r (p + 1) = numberAt m r p + 1 := by
      unfold numberAt
      rw [List.take_add_one, hp, definitionCount_append]
      simp [definitionCount, he]
    have hmono : numberAt m r (p + 1) ≤ numberAt m r q := by
      unfold numberAt definitionCount
      exact (List.take_sublist_take_left hlt).countP_le
    omega
  rcases Nat.lt_trichotomy p q with hlt | heq | hgt
  · exact absurd h (Nat.ne_of_lt (hless hp he hlt))
  · exact heq
  · exact absurd h (Nat.ne_of_gt (hless hq hf hgt))

/-- A definition is in force along some places when it is passed there and its variable is not
defined again. -/
theorem inForce_iff_places {name : String} {d : Nat} {passed : List Event} {earlier : List Nat}
    (h : earlier.map (r.eventAt m) = passed.map some) :
    InForce name d passed ↔ ∃ before p between, earlier = before ++ p :: between
      ∧ (∃ e, r.eventAt m p = some e ∧ e.definition = some d)
      ∧ ∀ x ∈ between, ¬ r.DefinesAt m name x := by
  constructor
  · rintro ⟨xs, e, ys, rfl, hd, hys⟩
    rw [List.map_append, List.map_cons] at h
    obtain ⟨before, rest, rfl, -, hrest⟩ := List.map_eq_append_iff.mp h
    obtain ⟨p, between, rfl, hp, hbetween⟩ := List.map_eq_cons_iff.mp hrest
    refine ⟨before, p, between, rfl, ⟨e, hp, hd⟩, fun x hx hdef => ?_⟩
    obtain ⟨ev, hev, hdefines⟩ := definesAt_iff.mp hdef
    have hmem : some ev ∈ ys.map some := by
      rw [← hbetween, ← hev]
      exact List.mem_map_of_mem hx
    obtain ⟨ev', hmem', heq⟩ := List.mem_map.mp hmem
    rw [← Option.some.inj heq, hys ev' hmem'] at hdefines
    cases hdefines
  · rintro ⟨before, p, between, rfl, ⟨e, hp, hd⟩, hbetween⟩
    rw [List.map_append, List.map_cons] at h
    obtain ⟨xs, rest, rfl, -, hrest⟩ := List.map_eq_append_iff.mp h.symm
    obtain ⟨e', ys, rfl, he, hys⟩ := List.map_eq_cons_iff.mp hrest
    rw [hp, Option.some.injEq] at he
    subst he
    refine ⟨xs, e', ys, rfl, hd, fun ev hev => ?_⟩
    have hmem : some ev ∈ between.map (r.eventAt m) := by
      rw [← hys]
      exact List.mem_map_of_mem hev
    obtain ⟨x, hx, hxev⟩ := List.mem_map.mp hmem
    rw [Bool.eq_false_iff]
    exact fun hdef => hbetween x hx (definesAt_iff.mpr ⟨ev, hxev, hdef⟩)

/-- The place of a use in the text. -/
def Graph.place (g : Graph) (p : UsePoint) : Nat :=
  g.offset p.block + p.position

/-- The paths up to a use are the executions that come to its place. -/
theorem arrives_iff {p : UsePoint} (hp : p ∈ (Graph.ofRoutine m r).usePoints)
    (passed : List Event) :
    (Graph.ofRoutine m r).Arrives p passed
      ↔ ∃ earlier, r.ComesTo m earlier ((Graph.ofRoutine m r).place p)
        ∧ earlier.map (r.eventAt m) = passed.map some := by
  obtain ⟨-, hevent, -⟩ := Graph.mem_usePoints.mp hp
  have hj : p.position < ((Graph.ofRoutine m r).events p.block).length :=
    (List.getElem?_eq_some_iff.mp hevent).1
  -- the places that lead up to the use, and the events there
  have hmap : ∀ front : List Nat,
      (front.flatMap (Graph.ofRoutine m r).stretch
          ++ List.range' ((Graph.ofRoutine m r).offset p.block) p.position).map (r.eventAt m)
        = (front.flatMap (Graph.ofRoutine m r).events
          ++ (Graph.ofRoutine m r).before p).map some := by
    intro front
    have hpart := congrArg (List.take p.position) (map_stretch m r p.block)
    rw [← List.map_take, ← List.map_take, Graph.stretch,
      List.take_range'_of_length_ge (Nat.le_of_lt hj)] at hpart
    rw [List.map_append, List.map_append, map_flatMap_stretch, hpart]
    rfl
  constructor
  · rintro ⟨path, hpath, rfl⟩
    exact ⟨_, (comesTo_iff m r _ _).mpr ⟨p.block, p.position, path, hpath, hj, rfl, rfl⟩,
      hmap path.dropLast⟩
  · rintro ⟨earlier, hcomes, hpassed⟩
    obtain ⟨b, j, front, hfront, hjb, hplace, rfl⟩ := (comesTo_iff m r _ _).mp hcomes
    obtain ⟨hb, hpos⟩ := Graph.place_injective _ hj hjb hplace
    subst hb hpos
    rw [hmap] at hpassed
    refine ⟨front, hfront, ?_⟩
    exact (List.map_injective_iff.mpr (fun _ _ h => Option.some.inj h) hpassed).symm

/-- All places that an execution passes show events. -/
theorem exists_events_of_comesTo {earlier : List Nat} {q : Nat}
    (h : r.ComesTo m earlier q) :
    ∃ passed : List Event, earlier.map (r.eventAt m) = passed.map some := by
  obtain ⟨later, hruns⟩ := h
  obtain ⟨path, -, hplaces⟩ := (path_iff_executes m r _).mpr hruns
  have hmap := map_flatMap_stretch m r path
  rw [hplaces, List.map_append] at hmap
  obtain ⟨passed, rest, -, hpassed, -⟩ := List.map_eq_append_iff.mp hmap.symm
  exact ⟨passed, hpassed.symm⟩

/-- Executions come to the places of the blocks that can be reached. -/
theorem comesTo_place_iff {b j : Nat} (hj : j < ((Graph.ofRoutine m r).events b).length) :
    (∃ earlier, r.ComesTo m earlier ((Graph.ofRoutine m r).offset b + j))
      ↔ (Graph.ofRoutine m r).Reaches Graph.entry b := by
  constructor
  · rintro ⟨earlier, hcomes⟩
    obtain ⟨b', j', front, hfront, hj', hplace, -⟩ := (comesTo_iff m r _ _).mp hcomes
    obtain ⟨rfl, -⟩ := Graph.place_injective _ hj hj' hplace
    exact ⟨front, hfront⟩
  · rintro ⟨front, hfront⟩
    exact ⟨_, (comesTo_iff m r _ _).mpr ⟨b, j, front, hfront, hj, rfl, rfl⟩⟩

/-! ## The order of uses and definitions -/

/-- The blocks cover all places in order. -/
theorem Graph.flatMap_stretch_range (g : Graph) (n : Nat) :
    (List.range n).flatMap g.stretch = List.range (g.offset n) := by
  induction n with
  | zero => rfl
  | succ n ih =>
    rw [List.range_succ, List.flatMap_append, ih, List.flatMap_singleton, Graph.offset_succ,
      Graph.stretch, List.range_eq_range', List.range_eq_range', ← List.range'_append_1,
      Nat.zero_add]

/-- The events of all blocks are as many as the effects of the script. -/
theorem length_script (m : Option Module) (r : Routine) :
    (Graph.ofRoutine m r).offset (Graph.ofRoutine m r).blocks.length = (r.script m).length := by
  unfold Graph.offset
  rw [ofRoutine_eq, ← length_eventsFrom 0 (r.script m), ← (tells_finalBuilder m r).events]
  rfl

/-- Every place of the text stands in some block. -/
theorem exists_block_of_script {p : Nat} {e : Effect} (h : (r.script m)[p]? = some e) :
    ∃ b j, j < ((Graph.ofRoutine m r).events b).length
      ∧ p = (Graph.ofRoutine m r).offset b + j := by
  have hlt := (List.getElem?_eq_some_iff.mp h).1
  rw [← length_script] at hlt
  obtain ⟨b, j, -, hj, hp⟩ := Graph.exists_place _ hlt
  exact ⟨b, j, hj, hp⟩

/-- In a block the uses stand at the places of its reads. -/
theorem map_place_usePointsOf (m : Option Module) (r : Routine) (b : Nat) :
    ((Graph.ofRoutine m r).usePointsOf b).map (Graph.ofRoutine m r).place
      = ((Graph.ofRoutine m r).stretch b).filter fun p =>
          (r.script m)[p]?.any fun e => !e.isDefinition := by
  have hstretch : (Graph.ofRoutine m r).stretch b
      = ((Graph.ofRoutine m r).events b).zipIdx.map fun p =>
          (Graph.ofRoutine m r).offset b + p.2 := by
    unfold Graph.stretch
    rw [List.range'_eq_map_range, List.range_eq_range', ← List.zipIdx_map_snd 0, List.map_map]
    rfl
  unfold Graph.usePointsOf
  rw [hstretch, List.filter_map, List.map_map]
  congr 1
  apply List.filter_congr
  rintro ⟨e, j⟩ hmem
  have hget : ((Graph.ofRoutine m r).events b)[j]? = some e :=
    List.mem_zipIdx_iff_getElem?.mp hmem
  have hevent := eventAt_place m r (List.getElem?_eq_some_iff.mp hget).1
  rw [hget, eventAt_eq] at hevent
  obtain ⟨effect, heffect, rfl⟩ := Option.map_eq_some_iff.mp hevent
  simp only [Function.comp_apply, heffect, Option.any_some, Effect.definition_event]
  cases effect.isDefinition <;> rfl

/-- The uses of the graph are the reads of the text from top to bottom. -/
theorem map_place_usePoints (m : Option Module) (r : Routine) :
    (Graph.ofRoutine m r).usePoints.map (Graph.ofRoutine m r).place = r.readPlaces m := by
  unfold Graph.usePoints Routine.readPlaces
  rw [List.map_flatMap, ← length_script, ← Graph.flatMap_stretch_range, List.filter_flatMap]
  exact List.flatMap_congr fun b _ => map_place_usePointsOf m r b

/-- A use point stands where the text reads its variable. -/
theorem script_place {p : UsePoint} (hp : p ∈ (Graph.ofRoutine m r).usePoints) :
    ∃ ref, (r.script m)[(Graph.ofRoutine m r).place p]? = some (.read ref)
      ∧ p.event.variableName = ref.name ∧ p.event.line = ref.span.line
      ∧ p.event.column = ref.span.column := by
  obtain ⟨-, hevent, hdef⟩ := Graph.mem_usePoints.mp hp
  have hplace := eventAt_place m r (List.getElem?_eq_some_iff.mp hevent).1
  rw [hevent, eventAt_eq] at hplace
  obtain ⟨effect, heffect, heq⟩ := Option.map_eq_some_iff.mp hplace
  rw [← heq] at hdef ⊢
  cases effect with
  | define origin name span => cases hdef
  | read ref => exact ⟨ref, heffect, rfl, rfl, rfl⟩

/-- From top to bottom the definitions are numbered without gaps. -/
theorem map_numberAt_definitionPlaces (m : Option Module) (r : Routine) :
    (r.definitionPlaces m).map (numberAt m r) = List.range (definitionCount (r.script m)) := by
  unfold Routine.definitionPlaces numberAt
  -- the script grows at its end, which changes neither the places nor the numbers before
  induction r.script m using List.reverseRecOn with
  | nil => rfl
  | append_singleton es e ih =>
    have hold : ((List.range es.length).filter fun p =>
          (es ++ [e])[p]?.any Effect.isDefinition).map
            (fun p => definitionCount ((es ++ [e]).take p))
        = List.range (definitionCount es) := by
      rw [← ih]
      have hplaces : ((List.range es.length).filter fun p =>
            (es ++ [e])[p]?.any Effect.isDefinition)
          = (List.range es.length).filter fun p => es[p]?.any Effect.isDefinition := by
        apply List.filter_congr
        intro p hp
        rw [List.getElem?_append_left (List.mem_range.mp hp)]
      rw [hplaces]
      apply List.map_congr_left
      intro p hp
      have hlt := List.mem_range.mp (List.mem_filter.mp hp).1
      rw [List.take_append_of_le_length (Nat.le_of_lt hlt)]
    rw [List.length_append, List.length_singleton, List.range_succ, List.filter_append,
      List.map_append, hold, definitionCount_append]
    cases he : e.isDefinition with
    | false => simp [he, definitionCount]
    | true => simp [he, definitionCount, List.range_succ]

/-- The definition at a place stands in the list of definitions under its number. -/
theorem definitions_numberAt {p : Nat} {origin : Origin} {name : String} {span : Span}
    (h : (r.script m)[p]? = some (.define origin name span)) :
    ∃ d, (Graph.ofRoutine m r).definitions[numberAt m r p]? = some d
      ∧ d.variableName = name ∧ d.line = span.line ∧ d.column = span.column ∧ d.origin = origin
      ∧ d.escapes = (origin == .assignment && (Names.ofRoutine m r).escapes name) := by
  have hlt := (List.getElem?_eq_some_iff.mp h).1
  have hsplit : r.script m
      = (r.script m).take p ++ .define origin name span :: (r.script m).drop (p + 1) := by
    conv_lhs => rw [← List.take_append_drop p (r.script m), List.drop_eq_getElem_cons hlt]
    rw [(List.getElem?_eq_some_iff.mp h).2]
  have hunplaced := congrArg (·[numberAt m r p]?) (tells_finalBuilder m r).definitions
  rw [← ofRoutine_eq, hsplit, List.flatMap_append, List.getElem?_append_right
    (by rw [length_flatMap_definition]; exact Nat.le_refl _), length_flatMap_definition, numberAt,
    Nat.sub_self, List.getElem?_map] at hunplaced
  obtain ⟨d, hd, hun⟩ := Option.map_eq_some_iff.mp hunplaced
  unfold Definition.unplaced at hun
  injection hun with h1 h2 h3 h4 h5 h6
  exact ⟨d, hd, h1, h2, h3, h4, h6⟩

/-- The definition at a place has its number in the graph. -/
theorem defines_numberAt {p : Nat} {origin : Origin} {name : String} {span : Span}
    (h : (r.script m)[p]? = some (.define origin name span)) :
    (Graph.ofRoutine m r).Defines (numberAt m r p) name := by
  obtain ⟨d, hd, hname, -⟩ := definitions_numberAt h
  unfold Graph.Defines
  rw [hd, Option.map_some, hname]

/-- A definition knows the block of its place. -/
theorem block_of_definition {b j : Nat} {origin : Origin} {name : String} {span : Span}
    {d : Definition} (hj : j < ((Graph.ofRoutine m r).events b).length)
    (h : (r.script m)[(Graph.ofRoutine m r).offset b + j]? = some (.define origin name span))
    (hd : (Graph.ofRoutine m r).definitions[numberAt m r ((Graph.ofRoutine m r).offset b + j)]?
      = some d) : d.block = b := by
  have hplace := eventAt_place m r hj
  rw [eventAt_eq, h, Option.map_some] at hplace
  obtain ⟨x, hx, -, hblock⟩ := (Graph.wellFormed_ofRoutine m r).definition_of_event b _
    (List.mem_of_getElem? hplace.symm) _ rfl
  rw [hd, Option.some.injEq] at hx
  rw [hx, hblock]

/-- The graph has the definitions of the script and no others. -/
theorem length_definitions_ofRoutine (m : Option Module) (r : Routine) :
    (Graph.ofRoutine m r).definitions.length = definitionCount (r.script m) := by
  rw [ofRoutine_eq]
  exact (tells_finalBuilder m r).length_definitions

/-- The definitions with their numbers are those of the text from top to bottom. -/
theorem forall₂_numbered {result : Result} (h : result.graph = Graph.ofRoutine m r) :
    List.Forall₂ (fun p (numbered : Nat × Definition) =>
      (∃ origin name span, (r.script m)[p]? = some (.define origin name span))
        ∧ numbered.1 = numberAt m r p
        ∧ (Graph.ofRoutine m r).definitions[numbered.1]? = some numbered.2)
      (r.definitionPlaces m) result.numbered := by
  have hnumbers := map_numberAt_definitionPlaces m r
  have hcount := length_definitions_ofRoutine m r
  have hlen : (r.definitionPlaces m).length = definitionCount (r.script m) := by
    rw [← List.length_map (numberAt m r), hnumbers, List.length_range]
  unfold Result.numbered
  rw [h]
  refine List.forall₂_iff_get.mpr ⟨by simp [hlen, hcount], fun i h₁ h₂ => ⟨?_, ?_⟩⟩
  · exact mem_definitionPlaces.mp (List.getElem_mem h₁)
  · have hi : i < (Graph.ofRoutine m r).definitions.length := by omega
    have hnumber : numberAt m r (r.definitionPlaces m)[i] = i := by
      have hget := congrArg (·[i]?) hnumbers
      simp only [List.getElem?_map, List.getElem?_eq_getElem h₁, Option.map_some] at hget
      rw [List.getElem?_range (by omega), Option.some.injEq] at hget
      exact hget
    simp [List.getElem_zip, hnumber, hi]

end Places

end Flow

end ModuleLint
