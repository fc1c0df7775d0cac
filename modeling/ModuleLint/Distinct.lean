/-!
# Distinct elements in the order first seen
-/

set_option autoImplicit false

namespace ModuleLint

/-- Appends an element unless it is there already. -/
def insertNew {α : Type} [BEq α] (xs : List α) (x : α) : List α :=
  if xs.contains x then xs else xs ++ [x]

section InsertNew

variable {α : Type} [BEq α] [LawfulBEq α]

/-- A member is not inserted again. -/
theorem insertNew_of_mem {xs : List α} {x : α} (h : x ∈ xs) : insertNew xs x = xs := by
  unfold insertNew
  rw [if_pos (List.contains_iff_mem.mpr h)]

/-- A new member goes to the end. -/
theorem insertNew_of_not_mem {xs : List α} {x : α} (h : x ∉ xs) : insertNew xs x = xs ++ [x] := by
  unfold insertNew
  rw [if_neg (mt List.contains_iff_mem.mp h)]

/-- A head other than the new member is passed over. -/
theorem insertNew_cons_of_ne {x y : α} (h : x ≠ y) (xs : List α) :
    insertNew (x :: xs) y = x :: insertNew xs y := by
  by_cases hy : y ∈ xs
  · rw [insertNew_of_mem hy, insertNew_of_mem (List.mem_cons_of_mem x hy)]
  · rw [insertNew_of_not_mem hy, insertNew_of_not_mem (by simp [Ne.symm h, hy]), List.cons_append]

/-- Inserting adds one member at most. -/
theorem mem_insertNew (xs : List α) (x y : α) : y ∈ insertNew xs x ↔ y ∈ xs ∨ y = x := by
  by_cases hx : x ∈ xs
  · rw [insertNew_of_mem hx, or_iff_left_of_imp fun heq => heq ▸ hx]
  · rw [insertNew_of_not_mem hx, List.mem_append, List.mem_singleton]

/-- Inserting repeats nothing. -/
theorem nodup_insertNew {xs : List α} (h : xs.Nodup) (x : α) : (insertNew xs x).Nodup := by
  by_cases hx : x ∈ xs
  · rwa [insertNew_of_mem hx]
  · rw [insertNew_of_not_mem hx]
    refine List.nodup_append.mpr ⟨h, List.pairwise_singleton _ x, ?_⟩
    intro a ha b hb hab
    rw [hab, List.mem_singleton.mp hb] at ha
    exact hx ha

end InsertNew

/-- The elements of a list without repetition, in the order first seen. -/
def distinct {α : Type} [BEq α] (xs : List α) : List α :=
  xs.foldl insertNew []

end ModuleLint
