import Mathlib.Data.List.Induction
import Mathlib.Data.List.Nodup
import Mathlib.Data.List.Perm.Lattice
import ModuleLint.Facts.CallGraph

/-!
# A call graph as an ordered set of calls

A call graph holds each call several times: in the row and in the set of its caller, and its two ends in the lists of
callers and callees and in the set of callees. All five containers are views of one list, that of the calls with
repetitions left out (`Refines`). Adding a call looks into the sets only and changes the others along with them. It
keeps every container in step (`Refines.addCall`), and each question, whichever container it is put to, is then a
question to the list (`callGraph_refines_calls`).
-/

set_option autoImplicit false

namespace ModuleLint

/-! ## First occurrences -/

section FirstOccurrences

variable {α : Type} [BEq α] [LawfulBEq α]

/-- Erasing duplicates from a longer list is inserting its last member. -/
theorem eraseDups_concat (xs : List α) (x : α) : (xs ++ [x]).eraseDups = insertNew xs.eraseDups x := by
  rw [List.eraseDups_append]
  by_cases hx : x ∈ xs
  · rw [insertNew_of_mem (List.mem_eraseDups.mpr hx)]
    simp [List.removeAll, hx]
  · rw [insertNew_of_not_mem (mt List.mem_eraseDups.mp hx)]
    simp [List.removeAll, hx, List.eraseDups_cons]

/-- Nothing is left twice. -/
theorem nodup_eraseDups (xs : List α) : xs.eraseDups.Nodup := by
  induction xs using List.reverseRecOn with
  | nil => exact List.nodup_nil
  | append_singleton xs x ih =>
    rw [eraseDups_concat]
    exact nodup_insertNew ih x

end FirstOccurrences

namespace CallGraph

/-- The graph of some calls, made one after another. -/
def ofCalls (calls : List (String × String)) : CallGraph :=
  calls.foldl (fun g call => (g.addCall call.1 call.2).1) empty

/-- The callees of one caller among some calls. -/
def calleesAmong (calls : List (String × String)) (caller : String) : List String :=
  (calls.filter fun call => call.1 == caller).map Prod.snd

/-- The callees of a name are the second halves of its pairs. -/
theorem mem_calleesAmong {calls : List (String × String)} {caller callee : String} :
    callee ∈ calleesAmong calls caller ↔ (caller, callee) ∈ calls := by
  unfold calleesAmong
  constructor
  · intro h
    obtain ⟨⟨c, x⟩, hmem, rfl⟩ := List.mem_map.mp h
    obtain ⟨hmem, hcaller⟩ := List.mem_filter.mp hmem
    rwa [← beq_iff_eq.mp hcaller]
  · intro h
    exact List.mem_map.mpr ⟨(caller, callee), List.mem_filter.mpr ⟨h, beq_self_eq_true caller⟩, rfl⟩

/-- Without repeated pairs a name has no repeated callees. -/
theorem nodup_calleesAmong {calls : List (String × String)} (h : calls.Nodup) (caller : String) :
    (calleesAmong calls caller).Nodup := by
  unfold calleesAmong
  refine (h.filter _).map_on ?_
  rintro ⟨c, x⟩ hc ⟨d, y⟩ hd rfl
  have hc := beq_iff_eq.mp (List.mem_filter.mp hc).2
  have hd := beq_iff_eq.mp (List.mem_filter.mp hd).2
  exact Prod.ext (hc.trans hd.symm) rfl

/-- A name that is no caller has no callees. -/
theorem calleesAmong_eq_nil {calls : List (String × String)} {caller : String}
    (h : caller ∉ calls.map Prod.fst) : calleesAmong calls caller = [] := by
  apply List.eq_nil_iff_forall_not_mem.mpr
  intro callee hcallee
  exact h (List.mem_map.mpr ⟨_, mem_calleesAmong.mp hcallee, rfl⟩)

/-- A further pair gives its caller one more callee. -/
theorem calleesAmong_concat (calls : List (String × String)) (caller callee c : String) :
    calleesAmong (calls ++ [(caller, callee)]) c
      = if c = caller then calleesAmong calls c ++ [callee] else calleesAmong calls c := by
  unfold calleesAmong
  rw [List.filter_append, List.map_append]
  by_cases hc : c = caller
  · simp [hc]
  · simp [hc, Ne.symm hc]

/-! ## The containers -/

/-- The graph holds just the given calls: the lists of callers and callees are their first occurrences, the rows and
the sets are their parts by caller, just the callers have a set, and the set of callees has all right sides. -/
structure Refines (g : CallGraph) (calls : List (String × String)) : Prop where
  callerList : g.callerList = (calls.map Prod.fst).eraseDups
  calleeList : g.calleeList = (calls.map Prod.snd).eraseDups
  rows : g.rows.entries = (calls.map Prod.fst).eraseDups.map fun c => (c, calleesAmong calls.eraseDups c)
  keys_seen : g.seen.keys = (calls.map Prod.fst).eraseDups
  sees_iff : ∀ caller callee, g.sees caller callee = true ↔ (caller, callee) ∈ calls
  known_iff : ∀ callee, callee ∈ g.known ↔ callee ∈ calls.map Prod.snd

/-- The empty graph holds no calls. -/
theorem refines_empty : Refines empty [] where
  callerList := rfl
  calleeList := rfl
  rows := rfl
  keys_seen := rfl
  sees_iff _ _ := by simp [sees, empty]
  known_iff _ := by simp [empty]

/-- A value that is put into a dictionary with one row for each key takes the place of the row of its key. A key without
a row gets one at the end. -/
theorem putEntry_map {ν : Type} {keys : List String} (hnodup : keys.Nodup) (rows : String → ν) (key : String)
    (value : ν) :
    Dictionary.putEntry key value (keys.map fun k => (k, rows k))
      = (insertNew keys key).map fun k => (k, if k = key then value else rows k) := by
  induction keys with
  | nil => simp [Dictionary.putEntry, insertNew]
  | cons k rest ih =>
    obtain ⟨hk, hrest⟩ := List.nodup_cons.mp hnodup
    by_cases hkey : k = key
    · subst hkey
      have hothers : ∀ d ∈ rest, (d, rows d) = (d, if d = k then value else rows d) := by
        intro d hd
        have hne : d ≠ k := fun heq => hk (heq ▸ hd)
        rw [if_neg hne]
      simp [Dictionary.putEntry, insertNew, List.map_congr_left hothers]
    · rw [insertNew_cons_of_ne hkey]
      simp [Dictionary.putEntry, hkey, ih hrest]

/-- In a dictionary with one row for each key, just the keys have values. -/
theorem lookup_map_row {ν : Type} (keys : List String) (rows : String → ν) (key : String) :
    (keys.map fun k => (k, rows k)).lookup key = if key ∈ keys then some (rows key) else none := by
  induction keys with
  | nil => rfl
  | cons k rest ih =>
    by_cases hkey : key = k
    · simp [hkey]
    · rw [List.map_cons, Dictionary.lookup_cons_of_ne hkey, ih]
      simp [hkey]

/-! ## The parts of adding a call -/

/-- A new set is empty, so nothing more is seen. -/
theorem sees_addCaller (g : CallGraph) (caller c x : String) : (g.addCaller caller).sees c x = g.sees c x := by
  unfold addCaller
  cases hset : g.seen.get? caller with
  | some set => rfl
  | none =>
    show ((Dictionary.get? (g.seen.put caller []) c).getD []).contains x = ((g.seen.get? c).getD []).contains x
    rw [Dictionary.get?_put]
    by_cases hc : c = caller
    · rw [if_pos hc, hc, hset, Option.getD_some, Option.getD_none]
    · rw [if_neg hc]

/-- A caller gets a set and a place among the callers at the same time. -/
theorem callerList_addCaller {g : CallGraph} (h : g.seen.keys = g.callerList) (caller : String) :
    (g.addCaller caller).callerList = insertNew g.callerList caller
      ∧ (g.addCaller caller).seen.keys = insertNew g.callerList caller := by
  have hmem := g.seen.isSome_get?_iff caller
  rw [h] at hmem
  unfold addCaller
  cases hset : g.seen.get? caller with
  | some set =>
    rw [insertNew_of_mem (hmem.mp (by rw [hset]; rfl))]
    exact ⟨rfl, h⟩
  | none =>
    have hnew : caller ∉ g.callerList := by
      intro hcaller
      have hsome := hmem.mpr hcaller
      rw [hset] at hsome
      cases hsome
    refine ⟨(insertNew_of_not_mem hnew).symm, ?_⟩
    rw [← h, Dictionary.keys_put]

/-- A caller that has been seen is not added again. -/
theorem addCaller_of_mem {g : CallGraph} {caller : String} (h : caller ∈ g.seen.keys) : g.addCaller caller = g := by
  obtain ⟨set, hset⟩ := Option.isSome_iff_exists.mp ((g.seen.isSome_get?_iff caller).mpr h)
  unfold addCaller
  rw [hset]

/-- Adding a caller leaves the rows alone. -/
theorem rows_addCaller (g : CallGraph) (caller : String) : (g.addCaller caller).rows = g.rows := by
  unfold addCaller
  split <;> rfl

/-- Adding a caller leaves the list of callees alone. -/
theorem calleeList_addCaller (g : CallGraph) (caller : String) : (g.addCaller caller).calleeList = g.calleeList := by
  unfold addCaller
  split <;> rfl

/-- Adding a caller leaves the set of known callees alone. -/
theorem known_addCaller (g : CallGraph) (caller : String) : (g.addCaller caller).known = g.known := by
  unfold addCaller
  split <;> rfl

/-- One more pair is seen. -/
theorem sees_addEdge_iff (g : CallGraph) (caller callee c x : String) :
    (g.addEdge caller callee).sees c x = true ↔ g.sees c x = true ∨ (c, x) = (caller, callee) := by
  unfold sees addEdge
  simp only [Dictionary.get?_put, Prod.mk.injEq]
  by_cases hc : c = caller
  · simp [hc, or_comm]
  · simp [hc]

/-- The callees and the set of callees grow together. -/
theorem calleeList_addCallee {g : CallGraph} (h : ∀ callee, callee ∈ g.known ↔ callee ∈ g.calleeList)
    (callee : String) :
    (g.addCallee callee).calleeList = insertNew g.calleeList callee
      ∧ ∀ x, x ∈ (g.addCallee callee).known ↔ x ∈ g.known ∨ x = callee := by
  unfold addCallee
  by_cases hknown : callee ∈ g.known
  · rw [if_pos (List.contains_iff_mem.mpr hknown), insertNew_of_mem ((h callee).mp hknown)]
    refine ⟨rfl, fun x => ⟨.inl, ?_⟩⟩
    rintro (hx | rfl)
    · exact hx
    · exact hknown
  · rw [if_neg (mt List.contains_iff_mem.mp hknown), insertNew_of_not_mem (mt (h callee).mpr hknown)]
    refine ⟨rfl, fun x => ?_⟩
    rw [List.mem_cons, or_comm]

/-- Adding a callee leaves the rows alone. -/
theorem rows_addCallee (g : CallGraph) (callee : String) : (g.addCallee callee).rows = g.rows := by
  unfold addCallee
  split <;> rfl

/-- Adding a callee leaves the list of callers alone. -/
theorem callerList_addCallee (g : CallGraph) (callee : String) :
    (g.addCallee callee).callerList = g.callerList := by
  unfold addCallee
  split <;> rfl

/-- Adding a callee leaves the set of seen callers alone. -/
theorem seen_addCallee (g : CallGraph) (callee : String) : (g.addCallee callee).seen = g.seen := by
  unfold addCallee
  split <;> rfl

/-- Adding a callee leaves alone what the callers see. -/
theorem sees_addCallee (g : CallGraph) (callee c x : String) : (g.addCallee callee).sees c x = g.sees c x := by
  unfold sees
  rw [seen_addCallee]

/-! ## One more call -/

section Refines

variable {g : CallGraph} {calls : List (String × String)} (h : Refines g calls)
include h

/-- No caller is listed twice. -/
theorem Refines.nodup_callerList : g.callerList.Nodup := by
  rw [h.callerList]
  exact nodup_eraseDups _

/-- The rows are read by caller. -/
theorem Refines.get?_rows (caller : String) :
    g.rows.get? caller
      = if caller ∈ (calls.map Prod.fst).eraseDups then some (calleesAmong calls.eraseDups caller) else none := by
  unfold Dictionary.get?
  rw [h.rows]
  exact lookup_map_row _ _ caller

/-- The callees of a name are those of its calls, each once and in the order of the first call. -/
theorem Refines.callees_eq (caller : String) : g.callees caller = calleesAmong calls.eraseDups caller := by
  unfold callees
  rw [h.get?_rows]
  by_cases hcaller : caller ∈ (calls.map Prod.fst).eraseDups
  · rw [if_pos hcaller, Option.getD_some]
  · rw [if_neg hcaller, Option.getD_none, calleesAmong_eq_nil]
    simpa using hcaller

/-- A call that is known changes nothing: its caller has a set already. -/
theorem Refines.addCall_of_mem {caller callee : String} (hknown : (caller, callee) ∈ calls) :
    g.addCall caller callee = (g, false) := by
  have hcaller : caller ∈ g.seen.keys := by
    rw [h.keys_seen]
    exact List.mem_eraseDups.mpr (List.mem_map.mpr ⟨_, hknown, rfl⟩)
  unfold CallGraph.addCall
  rw [addCaller_of_mem hcaller, if_pos ((h.sees_iff caller callee).mpr hknown)]

/-- A new call goes to all five containers and is reported as new. -/
theorem Refines.addCall_of_not_mem {caller callee : String} (hnew : (caller, callee) ∉ calls) :
    g.addCall caller callee = (((g.addCaller caller).addEdge caller callee).addCallee callee, true) := by
  have hunseen : ¬ (g.addCaller caller).sees caller callee = true := by
    rw [sees_addCaller, h.sees_iff]
    exact hnew
  exact if_neg hunseen

/-- A call is new just if it is none of those before. -/
theorem Refines.isNew_iff (caller callee : String) :
    (g.addCall caller callee).2 = true ↔ (caller, callee) ∉ calls := by
  by_cases hknown : (caller, callee) ∈ calls
  · simp [h.addCall_of_mem hknown, hknown]
  · simp [h.addCall_of_not_mem hknown, hknown]

/-- The row of a caller grows at its end. -/
theorem Refines.entries_addEdge {caller callee : String} (hnew : (caller, callee) ∉ calls) :
    ((g.addCaller caller).addEdge caller callee).rows.entries
      = ((calls ++ [(caller, callee)]).map Prod.fst).eraseDups.map
          fun c => (c, calleesAmong (calls ++ [(caller, callee)]).eraseDups c) := by
  have hrow : (g.rows.get? caller).getD [] = calleesAmong calls.eraseDups caller := h.callees_eq caller
  show Dictionary.putEntry caller (((g.addCaller caller).rows.get? caller).getD [] ++ [callee])
    (g.addCaller caller).rows.entries = _
  rw [rows_addCaller, hrow, h.rows, putEntry_map (nodup_eraseDups _), List.map_append, List.map_singleton,
    eraseDups_concat, eraseDups_concat, insertNew_of_not_mem (mt List.mem_eraseDups.mp hnew)]
  apply List.map_congr_left
  intro c _
  rw [calleesAmong_concat]
  by_cases hc : c = caller
  · rw [if_pos hc, if_pos hc, hc]
  · rw [if_neg hc, if_neg hc]

/-- The callers after one more call. -/
theorem Refines.callers_concat (caller callee : String) :
    ((calls ++ [(caller, callee)]).map Prod.fst).eraseDups = insertNew g.callerList caller := by
  rw [List.map_append, List.map_singleton, eraseDups_concat, h.callerList]

/-- The callees after one more call. -/
theorem Refines.callees_concat (caller callee : String) :
    ((calls ++ [(caller, callee)]).map Prod.snd).eraseDups = insertNew g.calleeList callee := by
  rw [List.map_append, List.map_singleton, eraseDups_concat, h.calleeList]

/-- A call that is known changes none of the first occurrences, so the graph holds the longer list as well. -/
theorem Refines.concat_of_mem {caller callee : String} (hknown : (caller, callee) ∈ calls) :
    Refines g (calls ++ [(caller, callee)]) := by
  have hcaller : caller ∈ g.callerList := by
    rw [h.callerList]
    exact List.mem_eraseDups.mpr (List.mem_map.mpr ⟨_, hknown, rfl⟩)
  have hcallee : callee ∈ g.calleeList := by
    rw [h.calleeList]
    exact List.mem_eraseDups.mpr (List.mem_map.mpr ⟨_, hknown, rfl⟩)
  have hcallers := h.callers_concat caller callee
  have hcallees := h.callees_concat caller callee
  rw [insertNew_of_mem hcaller] at hcallers
  rw [insertNew_of_mem hcallee] at hcallees
  exact
    { callerList := hcallers.symm
      calleeList := hcallees.symm
      rows := by
        rw [hcallers, eraseDups_concat, insertNew_of_mem (List.mem_eraseDups.mpr hknown), h.callerList, h.rows]
      keys_seen := by rw [hcallers, h.callerList, h.keys_seen]
      sees_iff := fun c x => by
        rw [h.sees_iff, List.mem_append, List.mem_singleton, or_iff_left_of_imp fun heq => heq ▸ hknown]
      known_iff := fun x => by
        rw [h.known_iff, ← List.mem_eraseDups, ← h.calleeList, ← hcallees, List.mem_eraseDups] }

/-- A new call is appended to the first occurrences, and each container gets its part of it. -/
theorem Refines.concat_of_not_mem {caller callee : String} (hnew : (caller, callee) ∉ calls) :
    Refines (((g.addCaller caller).addEdge caller callee).addCallee callee) (calls ++ [(caller, callee)]) := by
  obtain ⟨hlist, hkeys⟩ := callerList_addCaller (h.keys_seen.trans h.callerList.symm) caller
  have hmem : ∀ x, x ∈ ((g.addCaller caller).addEdge caller callee).known
      ↔ x ∈ ((g.addCaller caller).addEdge caller callee).calleeList := by
    intro x
    show x ∈ (g.addCaller caller).known ↔ x ∈ (g.addCaller caller).calleeList
    rw [known_addCaller, calleeList_addCaller, h.known_iff, h.calleeList, List.mem_eraseDups]
  obtain ⟨hcalleeList, hknown⟩ := calleeList_addCallee hmem callee
  exact
    { callerList := by
        rw [callerList_addCallee, h.callers_concat]
        exact hlist
      calleeList := by
        rw [hcalleeList, h.callees_concat]
        exact congrArg (insertNew · callee) (calleeList_addCaller g caller)
      rows := by
        rw [rows_addCallee]
        exact h.entries_addEdge hnew
      keys_seen := by
        have hin : caller ∈ insertNew g.callerList caller := (mem_insertNew _ _ _).mpr (.inr rfl)
        rw [seen_addCallee, h.callers_concat]
        show ((g.addCaller caller).seen.put caller _).keys = _
        rw [Dictionary.keys_put, hkeys, insertNew_of_mem hin]
      sees_iff := fun c x => by
        rw [sees_addCallee, sees_addEdge_iff, sees_addCaller, h.sees_iff, List.mem_append, List.mem_singleton]
      known_iff := fun x => by
        rw [hknown]
        show x ∈ (g.addCaller caller).known ∨ x = callee ↔ _
        rw [known_addCaller, h.known_iff, List.map_append, List.mem_append, List.map_singleton,
          List.mem_singleton] }

/-- Adding a call keeps all containers in step with the list of the calls. -/
theorem Refines.addCall (caller callee : String) :
    Refines (g.addCall caller callee).1 (calls ++ [(caller, callee)]) := by
  by_cases hknown : (caller, callee) ∈ calls
  · rw [h.addCall_of_mem hknown]
    exact h.concat_of_mem hknown
  · rw [h.addCall_of_not_mem hknown]
    exact h.concat_of_not_mem hknown

/-! ## Questions to the graph -/

/-- A name is called when some call names it. -/
theorem Refines.isCalled_iff (callee : String) :
    g.isCalled callee = true ↔ ∃ call ∈ calls.eraseDups, call.2 = callee := by
  unfold isCalled
  rw [List.contains_iff_mem, h.known_iff, List.mem_map]
  simp only [List.mem_eraseDups]

/-- The callers of a routine stand for the calls of it, each of which has another caller. -/
theorem Refines.inDegree_eq (callee : String) :
    g.inDegree callee = calls.eraseDups.countP fun call => call.2 == callee := by
  have hcallers : (g.callerList.filter fun c => g.sees c callee).Perm
      ((calls.eraseDups.filter fun call => call.2 == callee).map Prod.fst) := by
    refine (List.perm_ext_iff_of_nodup (h.nodup_callerList.filter _) ?_).mpr ?_
    · refine ((nodup_eraseDups calls).filter _).map_on ?_
      rintro ⟨c, x⟩ hx ⟨d, y⟩ hy rfl
      have hx := beq_iff_eq.mp (List.mem_filter.mp hx).2
      have hy := beq_iff_eq.mp (List.mem_filter.mp hy).2
      exact Prod.ext rfl (hx.trans hy.symm)
    · intro c
      rw [List.mem_filter, h.sees_iff, h.callerList, List.mem_eraseDups]
      constructor
      · rintro ⟨-, hcall⟩
        exact List.mem_map.mpr ⟨(c, callee), by simpa using hcall, rfl⟩
      · intro hc
        obtain ⟨⟨d, x⟩, hmem, rfl⟩ := List.mem_map.mp hc
        obtain ⟨hcall, hx⟩ := List.mem_filter.mp hmem
        have hcall : (d, callee) ∈ calls := beq_iff_eq.mp hx ▸ List.mem_eraseDups.mp hcall
        exact ⟨List.mem_map.mpr ⟨_, hcall, rfl⟩, hcall⟩
  unfold inDegree
  rw [List.countP_eq_length_filter, List.countP_eq_length_filter]
  exact hcallers.length_eq.trans (List.length_map _)

omit h in
/-- The number of edges is the number of entries in all rows together. -/
theorem edges_eq_length (g : CallGraph) : g.edges = (g.rows.entries.flatMap (·.2)).length := by
  have hsum : ∀ (entries : List (String × List String)) (n : Nat),
      entries.foldl (fun n row => n + row.2.length) n = n + (entries.flatMap (·.2)).length := by
    intro entries
    induction entries with
    | nil => exact fun n => rfl
    | cons row rest ih =>
      intro n
      rw [List.foldl_cons, ih, List.flatMap_cons, List.length_append, Nat.add_assoc]
  exact (hsum _ 0).trans (Nat.zero_add _)

/-- The rows share out the calls among their callers. -/
theorem Refines.edges_eq : g.edges = calls.eraseDups.length := by
  have hrows : ((calls.map Prod.fst).eraseDups.flatMap fun c =>
      calls.eraseDups.filter fun call => call.1 == c).Perm calls.eraseDups := by
    refine (List.perm_ext_iff_of_nodup ?_ (nodup_eraseDups calls)).mpr ?_
    · refine List.nodup_flatMap.mpr ⟨fun c _ => (nodup_eraseDups calls).filter _, ?_⟩
      refine (nodup_eraseDups (calls.map Prod.fst)).imp ?_
      intro c d hne call hc hd
      have hc := beq_iff_eq.mp (List.mem_filter.mp hc).2
      have hd := beq_iff_eq.mp (List.mem_filter.mp hd).2
      exact hne (hc.symm.trans hd)
    · intro call
      rw [List.mem_flatMap]
      constructor
      · rintro ⟨c, -, hcall⟩
        exact (List.mem_filter.mp hcall).1
      · intro hcall
        have hmem : call.1 ∈ calls.map Prod.fst := List.mem_map.mpr ⟨call, List.mem_eraseDups.mp hcall, rfl⟩
        exact ⟨call.1, List.mem_eraseDups.mpr hmem, List.mem_filter.mpr ⟨hcall, beq_self_eq_true _⟩⟩
  have hlengths : g.rows.entries.flatMap (·.2) = ((calls.map Prod.fst).eraseDups.flatMap fun c =>
      calls.eraseDups.filter fun call => call.1 == c).map Prod.snd := by
    rw [h.rows, List.flatMap_map, List.map_flatMap]
    rfl
  rw [edges_eq_length, hlengths, List.length_map]
  exact hrows.length_eq

/-- The recursive names are the callers that are among their own callees, in the order of their first calls. -/
theorem Refines.recursive_eq :
    g.recursive = (calls.map Prod.fst).eraseDups.filter fun c => calls.eraseDups.contains (c, c) := by
  unfold recursive
  rw [h.callerList]
  apply List.filter_congr
  intro c _
  rw [Bool.eq_iff_iff, h.sees_iff, List.contains_iff_mem, List.mem_eraseDups]

end Refines

/-- A graph that is built from calls holds just these calls. -/
theorem refines_ofCalls (calls : List (String × String)) : Refines (ofCalls calls) calls := by
  unfold ofCalls
  induction calls using List.reverseRecOn with
  | nil => exact refines_empty
  | append_singleton calls call ih =>
    rw [List.foldl_append]
    exact ih.addCall call.1 call.2

/-- After any calls the five containers of a graph agree with the list of calls without repetitions, and the graph
answers for them as this list does: it knows whether one more call is new, who calls, whom a caller calls, who is
called and how often, how many calls there are and who calls itself, and its rows are the calls of just the callers. -/
theorem callGraph_refines_calls (calls : List (String × String)) :
    Refines (ofCalls calls) calls
    ∧ (∀ caller callee,
      ((ofCalls calls).addCall caller callee).2 = true ↔ (caller, callee) ∉ calls)
    ∧ (ofCalls calls).callers = (calls.map Prod.fst).eraseDups
    ∧ (∀ caller, (ofCalls calls).callees caller = calleesAmong calls.eraseDups caller
        ∧ ((ofCalls calls).callees caller).Nodup)
    ∧ (∀ callee, ((ofCalls calls).isCalled callee = true ↔ ∃ call ∈ calls.eraseDups, call.2 = callee)
        ∧ ((ofCalls calls).isCalled callee = true ↔ 0 < (ofCalls calls).inDegree callee)
        ∧ (ofCalls calls).inDegree callee = calls.eraseDups.countP fun call => call.2 == callee)
    ∧ (ofCalls calls).edges = calls.eraseDups.length
    ∧ (ofCalls calls).recursive = (ofCalls calls).callers.filter (fun c => calls.eraseDups.contains (c, c))
    ∧ (ofCalls calls).adjacency.entries
        = (ofCalls calls).callers.map (fun c => (c, (ofCalls calls).callees c))
    ∧ ∀ caller, (ofCalls calls).adjacency.get? caller
        = if caller ∈ (ofCalls calls).callers then some ((ofCalls calls).callees caller) else none := by
  have h := refines_ofCalls calls
  refine ⟨h, h.isNew_iff, h.callerList, ?_, ?_, h.edges_eq, ?_, ?_, ?_⟩
  · intro caller
    rw [h.callees_eq]
    exact ⟨rfl, nodup_calleesAmong (nodup_eraseDups calls) caller⟩
  · intro callee
    refine ⟨h.isCalled_iff callee, ?_, h.inDegree_eq callee⟩
    rw [h.isCalled_iff, h.inDegree_eq, List.countP_pos_iff]
    simp only [beq_iff_eq]
  · rw [callers, h.callerList, h.recursive_eq]
  · rw [callers, h.callerList, adjacency, h.rows]
    simp only [h.callees_eq]
  · intro caller
    rw [callers, h.callerList, adjacency, h.get?_rows, h.callees_eq]

end CallGraph

end ModuleLint
