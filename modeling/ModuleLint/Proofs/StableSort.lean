import Mathlib.Data.List.Sort

/-!
# Sorting keeps the order of ties

Entries that may stand in either order keep the order they had before sorting. As a statement on classes of such entries
this is `filter_mergeSort`, and as one on pairs it is `pairwise_mergeSort_ties`: whatever relation holds along the list
before sorting holds afterwards between an entry and the later ones it is tied with.
-/

set_option autoImplicit false

namespace ModuleLint

section StableSort

variable {α : Type} {le : α → α → Bool} (trans : ∀ a b c, le a b = true → le b c = true → le a c = true)
  (total : ∀ a b, (le a b || le b a) = true)
include trans total

/-- Entries that may stand in any order among themselves stay as they are. -/
theorem filter_mergeSort {p : α → Bool} (hp : ∀ a b, p a = true → p b = true → le a b = true) (xs : List α) :
    (xs.mergeSort le).filter p = xs.filter p := by
  have hpairwise : (xs.filter p).Pairwise fun a b => le a b = true := by
    rw [List.pairwise_filter]
    exact List.pairwise_of_forall_mem_list fun a _ b _ => hp a b
  have hsublist : (xs.filter p).Sublist (xs.mergeSort le) :=
    List.sublist_mergeSort trans total hpairwise List.filter_sublist
  have hfilter := hsublist.filter p
  rw [List.filter_filter] at hfilter
  simp only [Bool.and_self] at hfilter
  have hlength : (xs.filter p).length = ((xs.mergeSort le).filter p).length :=
    ((List.mergeSort_perm xs le).filter p).length_eq.symm
  exact (hfilter.eq_of_length hlength).symm

/-- A sorted list is in order, and between ties holds what held along the list before it was sorted. -/
theorem pairwise_mergeSort_ties {R : α → α → Prop} {xs : List α} (h : xs.Pairwise R) :
    (xs.mergeSort le).Pairwise fun a b => le a b = true ∧ (le b a = true → R a b) := by
  have hsorted := List.pairwise_mergeSort trans total xs
  rw [List.pairwise_iff_forall_sublist] at hsorted h ⊢
  intro a b hab
  have hle := hsorted hab
  refine ⟨hle, fun hge => h ?_⟩
  -- both stand in the class of what is tied with `a`, which sorting leaves alone
  have hself : le a a = true := by simpa using total a a
  have hclass : ∀ x y, (le a x && le x a) = true → (le a y && le y a) = true → le x y = true := by
    intro x y hx hy
    rw [Bool.and_eq_true] at hx hy
    exact trans x a y hx.2 hy.1
  have hties := hab.filter fun x => le a x && le x a
  rw [filter_mergeSort trans total hclass] at hties
  simp only [List.filter_cons, hself, hle, hge, Bool.and_self, if_true, List.filter_nil] at hties
  exact hties.trans List.filter_sublist

end StableSort

end ModuleLint
