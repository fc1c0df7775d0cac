import Mathlib.Data.List.DropRight
import ModuleLint.Text.Blank
import ModuleLint.Text.Lines

/-!
# Cutting texts up and trimming them

Cutting at a separator takes apart what was joined with it (`splitAt_intercalate`), piece by piece
(`splitAt_append_cons`). Trimming does not look past an
entry that it keeps, so it treats what stands before such an entry and what stands after it apart
(`trimEnds_append_cons`), and it gives back a text that was padded with entries to be removed (`trimEnds_padded`).
-/

set_option autoImplicit false

namespace ModuleLint.Text

section Splitting

variable {α : Type} [DecidableEq α]

/-- Splitting is that of the library. -/
theorem splitAt_eq_splitOn (separator : α) (cs : List α) : splitAt separator cs = cs.splitOn separator := by
  unfold List.splitOn
  induction cs with
  | nil => rw [splitAt, List.splitOnP_nil]
  | cons c rest ih =>
    rw [splitAt, ih, List.splitOnP_cons_eq_if_modifyHead]
    by_cases hc : c = separator
    · rw [if_pos hc, if_pos (beq_iff_eq.mpr hc)]
    · rw [if_neg hc, if_neg (mt beq_iff_eq.mp hc)]
      obtain ⟨piece, pieces, hpieces⟩ := List.exists_cons_of_ne_nil (List.splitOnP_ne_nil (· == separator) rest)
      rw [hpieces]
      rfl

/-- Pieces without the separator in them are found again. -/
theorem splitAt_intercalate {separator : α} {pieces : List (List α)} (hne : pieces ≠ [])
    (h : ∀ piece ∈ pieces, separator ∉ piece) : splitAt separator ([separator].intercalate pieces) = pieces := by
  rw [splitAt_eq_splitOn]
  exact List.splitOn_intercalate separator h hne

/-- The first piece ends at the first separator. -/
theorem splitAt_append_cons {separator : α} {piece : List α} (h : separator ∉ piece) (rest : List α) :
    splitAt separator (piece ++ separator :: rest) = piece :: splitAt separator rest := by
  rw [splitAt_eq_splitOn, splitAt_eq_splitOn]
  exact List.splitOn_append_cons_self_of_not_mem h rest

/-- Without a separator there is one piece. -/
theorem splitAt_of_not_mem {separator : α} {piece : List α} (h : separator ∉ piece) :
    splitAt separator piece = [piece] := by
  rw [splitAt_eq_splitOn]
  exact List.splitOn_eq_singleton h

end Splitting

section Trimming

variable {α : Type} {test : α → Bool} {a : α}

/-- Trimming drops from the front and then from the back. -/
theorem trimEnds_eq (test : α → Bool) (cs : List α) : trimEnds test cs = (cs.dropWhile test).rdropWhile test := rfl

/-- Trimming adds nothing. -/
theorem mem_of_mem_trimEnds {cs : List α} (h : a ∈ trimEnds test cs) : a ∈ cs :=
  (List.dropWhile_sublist test).subset ((List.rdropWhile_prefix test _).subset h)

/-- Dropping from the front stops at an entry that is kept. -/
theorem dropWhile_append_cons (ha : test a = false) (xs ys : List α) :
    (xs ++ a :: ys).dropWhile test = xs.dropWhile test ++ a :: ys := by
  rw [List.dropWhile_append]
  split
  · rename_i hempty
    rw [List.isEmpty_iff.mp hempty, List.dropWhile_cons_of_neg (by simp [ha]), List.nil_append]
  · rfl

/-- What is dropped from the back ends at the last entry that is kept. -/
theorem rdropWhile_append_cons (ha : test a = false) (xs ys : List α) :
    (xs ++ a :: ys).rdropWhile test = xs ++ a :: ys.rdropWhile test := by
  have hback := dropWhile_append_cons ha ys.reverse xs.reverse
  unfold List.rdropWhile
  rw [List.reverse_append, List.reverse_cons, List.append_assoc, List.singleton_append, hback]
  simp

/-- An entry that is kept divides the two ends. -/
theorem trimEnds_append_cons (ha : test a = false) (xs ys : List α) :
    trimEnds test (xs ++ a :: ys) = xs.dropWhile test ++ a :: ys.rdropWhile test := by
  rw [trimEnds_eq, dropWhile_append_cons ha, rdropWhile_append_cons ha]

/-- What is dropped from the front may be dropped before. -/
theorem trimEnds_dropWhile (xs : List α) : trimEnds test (xs.dropWhile test) = trimEnds test xs := by
  rw [trimEnds_eq, List.dropWhile_idempotent, trimEnds_eq]

/-- What is removed at the end may be removed beforehand. -/
theorem trimEnds_rdropWhile (xs : List α) : trimEnds test (xs.rdropWhile test) = trimEnds test xs := by
  by_cases hall : ∀ x ∈ xs, test x = true
  · rw [List.rdropWhile_eq_nil_iff.mpr hall, trimEnds_eq, trimEnds_eq, List.dropWhile_eq_nil_iff.mpr hall]
    rfl
  · push Not at hall
    obtain ⟨x, hx, hkept⟩ := hall
    rw [ne_eq, Bool.not_eq_true] at hkept
    obtain ⟨ys, zs, rfl⟩ := List.append_of_mem hx
    rw [rdropWhile_append_cons hkept, trimEnds_append_cons hkept, trimEnds_append_cons hkept, List.rdropWhile_idempotent]

/-- What is put in front and is not kept does not matter. -/
theorem trimEnds_append_left {before : List α} (hbefore : ∀ x ∈ before, test x = true) (xs : List α) :
    trimEnds test (before ++ xs) = trimEnds test xs := by
  rw [trimEnds_eq, List.dropWhile_append_of_pos hbefore, trimEnds_eq]

/-- What is put at the back and is not kept does not matter. -/
theorem trimEnds_append_right {after : List α} (hafter : ∀ x ∈ after, test x = true) (xs : List α) :
    trimEnds test (xs ++ after) = trimEnds test xs := by
  have hdrop : (xs ++ after).rdropWhile test = xs.rdropWhile test := by
    unfold List.rdropWhile
    rw [List.reverse_append, List.dropWhile_append_of_pos]
    simpa using hafter
  rw [← trimEnds_rdropWhile, hdrop, trimEnds_rdropWhile]

/-- A core whose ends are kept is what trimming leaves. -/
theorem trimEnds_padded {before core after : List α} (hbefore : ∀ x ∈ before, test x = true)
    (hafter : ∀ x ∈ after, test x = true) (hhead : ∀ x ∈ core.head?, test x = false)
    (hlast : ∀ x ∈ core.getLast?, test x = false) : trimEnds test (before ++ core ++ after) = core := by
  have hfront : core.dropWhile test = core := by
    cases core with
    | nil => rfl
    | cons c cs => exact List.dropWhile_cons_of_neg (by simp [hhead c rfl])
  have hback : core.rdropWhile test = core := by
    rw [List.rdropWhile_eq_self_iff]
    intro hne
    simp [hlast _ (List.getLast?_eq_some_getLast hne)]
  rw [trimEnds_append_right hafter, trimEnds_append_left hbefore, trimEnds_eq, hfront, hback]

end Trimming

end ModuleLint.Text
