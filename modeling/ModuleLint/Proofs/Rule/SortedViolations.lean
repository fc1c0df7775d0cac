import ModuleLint.Proofs.StableSort
import ModuleLint.Rule.Violation

/-!
# Sorted violations

Violations are sorted by module, line, column and rule, and those that agree in all four keep their order. A
sorted list is determined by these two properties: two lists that are sorted and in which the entries of
each key come in the same order are equal (`eq_of_sorted_of_filter_eq`). So lists that differ only in how the
entries of different keys are mixed are sorted alike (`sort_congr`), and sorting can be exchanged with leaving out
entries (`sort_filter`) and with changes that keep the keys (`sort_map`).
-/

set_option autoImplicit false

namespace ModuleLint

namespace Violation

instance transCmp_compare : Std.TransCmp Violation.compare :=
  inferInstanceAs (Std.TransCmp (compareLex (compareOn moduleName)
    (compareLex (compareOn line) (compareLex (compareOn column) (compareOn code)))))

/-- Whether two violations agree in module, line, column and rule. -/
def sameKey (a b : Violation) : Bool := compare a b == .eq

/-- To agree in the key is to compare equal. -/
theorem sameKey_iff {a b : Violation} : sameKey a b = true ↔ compare a b = .eq := by
  unfold sameKey
  exact beq_iff_eq

/-- Every violation agrees with itself. -/
theorem sameKey_self (a : Violation) : sameKey a a = true :=
  sameKey_iff.mpr Std.ReflCmp.compare_self

/-- Violations of one key have the same code. -/
theorem code_eq_of_sameKey {a b : Violation} (h : sameKey a b = true) : a.code = b.code := by
  have hcompare : compare a b = .eq := sameKey_iff.mp h
  unfold compare at hcompare
  simp only [Ordering.then_eq_eq] at hcompare
  exact Std.LawfulEqOrd.eq_of_compare hcompare.2.2.2

/-- The entries of a key all have its code. -/
theorem filter_sameKey (key : Violation) (vs : List Violation) :
    vs.filter key.sameKey = (vs.filter fun v => v.code == key.code).filter key.sameKey := by
  rw [List.filter_filter]
  apply List.filter_congr
  intro v _
  cases hkey : key.sameKey v with
  | false => rfl
  | true => simp [code_eq_of_sameKey hkey]

/-- The order of violations is transitive. -/
theorem le_trans (a b c : Violation) (hab : le a b = true) (hbc : le b c = true) : le a c = true :=
  Std.TransCmp.isLE_trans hab hbc

/-- Any two violations are in order one way or the other. -/
theorem le_total (a b : Violation) : (le a b || le b a) = true := by
  have hswap : compare b a = (compare a b).swap := Std.OrientedCmp.eq_swap
  unfold le
  rw [hswap]
  cases compare a b <;> rfl

/-- Violations that are in order both ways have the same key. -/
theorem sameKey_of_le {a b : Violation} (hab : le a b = true) (hba : le b a = true) :
    sameKey a b = true :=
  sameKey_iff.mpr (Std.OrientedCmp.isLE_antisymm hab hba)

/-- The entries of one key may stand in any order. -/
theorem le_of_sameKey {key a b : Violation} (ha : sameKey key a = true) (hb : sameKey key b = true) :
    le a b = true := by
  have hab : compare a b = .eq :=
    Std.TransCmp.eq_trans (Std.OrientedCmp.eq_symm (sameKey_iff.mp ha)) (sameKey_iff.mp hb)
  unfold le
  rw [hab]
  rfl

/-- Sorting puts violations in order. -/
theorem pairwise_sort (vs : List Violation) : (sort vs).Pairwise fun a b => le a b = true :=
  List.pairwise_mergeSort le_trans le_total vs

/-- Sorting loses nothing and adds nothing. -/
theorem sort_perm (vs : List Violation) : (sort vs).Perm vs := List.mergeSort_perm vs le

/-- The entries of each key keep their order. -/
theorem filter_sort (key : Violation) (vs : List Violation) :
    (sort vs).filter (sameKey key) = vs.filter (sameKey key) :=
  filter_mergeSort le_trans le_total (fun _ _ => le_of_sameKey) vs

/-- Lists that agree within each key have the same members. -/
theorem mem_of_filter_eq {vs ws : List Violation}
    (h : ∀ key, vs.filter (sameKey key) = ws.filter (sameKey key)) {v : Violation} (hv : v ∈ vs) :
    v ∈ ws := by
  have hmem : v ∈ vs.filter (sameKey v) := List.mem_filter.mpr ⟨hv, sameKey_self v⟩
  rw [h v] at hmem
  exact (List.mem_filter.mp hmem).1

/-- A sorted list is determined by the order of its entries within each key. -/
theorem eq_of_sorted_of_filter_eq {vs ws : List Violation}
    (hvs : vs.Pairwise fun a b => le a b = true) (hws : ws.Pairwise fun a b => le a b = true)
    (h : ∀ key, vs.filter (sameKey key) = ws.filter (sameKey key)) : vs = ws := by
  induction vs generalizing ws with
  | nil =>
    cases ws with
    | nil => rfl
    | cons w ws => cases mem_of_filter_eq (fun key => (h key).symm) (List.mem_cons_self ..)
  | cons v vs ih =>
    cases ws with
    | nil => cases mem_of_filter_eq h (List.mem_cons_self ..)
    | cons w ws =>
      -- both heads are least, so they have the same key, and each is the first entry of that key
      obtain ⟨hv, hvtail⟩ := List.pairwise_cons.mp hvs
      obtain ⟨hw, hwtail⟩ := List.pairwise_cons.mp hws
      have hvw : sameKey v w = true := by
        have hwmem : w ∈ v :: vs := mem_of_filter_eq (fun key => (h key).symm) (List.mem_cons_self ..)
        have hvmem : v ∈ w :: ws := mem_of_filter_eq h (List.mem_cons_self ..)
        rcases List.mem_cons.mp hwmem with rfl | hwmem
        · exact sameKey_self w
        · rcases List.mem_cons.mp hvmem with rfl | hvmem
          · exact sameKey_self v
          · exact sameKey_of_le (hv w hwmem) (hw v hvmem)
      have hhead := h v
      rw [List.filter_cons_of_pos (sameKey_self v), List.filter_cons_of_pos hvw] at hhead
      obtain rfl : v = w := (List.cons.inj hhead).1
      refine congrArg (v :: ·) (ih hvtail hwtail fun key => ?_)
      have hkey := h key
      by_cases hmatch : sameKey key v = true
      · rw [List.filter_cons_of_pos hmatch, List.filter_cons_of_pos hmatch] at hkey
        exact (List.cons.inj hkey).2
      · rw [List.filter_cons_of_neg hmatch, List.filter_cons_of_neg hmatch] at hkey
        exact hkey

/-- Lists that agree within each key are sorted to the same list. -/
theorem sort_congr {vs ws : List Violation}
    (h : ∀ key, vs.filter (sameKey key) = ws.filter (sameKey key)) : sort vs = sort ws := by
  apply eq_of_sorted_of_filter_eq (pairwise_sort vs) (pairwise_sort ws)
  intro key
  rw [filter_sort, filter_sort, h]

/-- Selecting before sorting is selecting after it. -/
theorem sort_filter (p : Violation → Bool) (vs : List Violation) :
    sort (vs.filter p) = (sort vs).filter p := by
  apply eq_of_sorted_of_filter_eq (pairwise_sort _) ((pairwise_sort vs).filter p)
  intro key
  calc (sort (vs.filter p)).filter (sameKey key)
      = (vs.filter p).filter (sameKey key) := filter_sort key _
    _ = (vs.filter (sameKey key)).filter p := List.filter_comm ..
    _ = ((sort vs).filter (sameKey key)).filter p := by rw [filter_sort]
    _ = ((sort vs).filter p).filter (sameKey key) := List.filter_comm ..

/-- A change that keeps the order may be made before sorting or after it. -/
theorem sort_map {f : Violation → Violation}
    (hf : ∀ a b, compare (f a) (f b) = compare a b) (vs : List Violation) :
    sort (vs.map f) = (sort vs).map f := by
  refine (List.map_mergeSort fun a _ b _ => ?_).symm
  unfold le
  rw [hf]

end Violation

end ModuleLint
