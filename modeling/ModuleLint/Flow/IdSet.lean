/-!
# Sets of definitions

Definitions are numbered from zero, so a set of them is a natural number: a definition belongs to
the set when its bit is set.
-/

set_option autoImplicit false

namespace ModuleLint.Flow

/-- A finite set of numbers, one bit each. -/
structure IdSet where
  bits : Nat
deriving Repr, DecidableEq, Inhabited

namespace IdSet

/-- The empty set. -/
def empty : IdSet := ⟨0⟩

/-- Whether a number belongs to the set. -/
def contains (s : IdSet) (i : Nat) : Bool := s.bits.testBit i

/-- The numbers in either set. -/
def union (s t : IdSet) : IdSet := ⟨s.bits ||| t.bits⟩

/-- The numbers in both sets. -/
def inter (s t : IdSet) : IdSet := ⟨s.bits &&& t.bits⟩

/-- The numbers in the first set only. -/
def diff (s t : IdSet) : IdSet := ⟨s.bits ^^^ (s.bits &&& t.bits)⟩

/-- The set with one more number. -/
def insert (s : IdSet) (i : Nat) : IdSet := ⟨s.bits ||| 1 <<< i⟩

/-- The numbers below a bound that belong to the set, in increasing order. -/
def below (s : IdSet) (bound : Nat) : List Nat := (List.range bound).filter s.contains

/-- The set of the numbers in a list. -/
def ofList (is : List Nat) : IdSet := is.foldl insert empty

/-- Nothing is in the empty set. -/
@[simp] theorem contains_empty (i : Nat) : empty.contains i = false := by
  simp [contains, empty]

/-- A union holds what is in either set. -/
@[simp] theorem contains_union (s t : IdSet) (i : Nat) :
    (s.union t).contains i = (s.contains i || t.contains i) := by
  simp [contains, union]

/-- An intersection holds what is in both sets. -/
@[simp] theorem contains_inter (s t : IdSet) (i : Nat) :
    (s.inter t).contains i = (s.contains i && t.contains i) := by
  simp [contains, inter]

/-- A difference holds what is in the first set only. -/
@[simp] theorem contains_diff (s t : IdSet) (i : Nat) :
    (s.diff t).contains i = (s.contains i && !t.contains i) := by
  cases h : s.bits.testBit i <;> simp [contains, diff, h]

/-- After an insertion the set holds one number more. -/
@[simp] theorem contains_insert (s : IdSet) (i j : Nat) :
    (s.insert i).contains j = (s.contains j || decide (i = j)) := by
  simp [contains, insert, Nat.one_shiftLeft, Nat.testBit_two_pow]

/-- Sets with the same members are equal. -/
theorem ext_contains {s t : IdSet} (h : ∀ i, s.contains i = t.contains i) : s = t := by
  cases s
  cases t
  simp only [contains] at h
  rw [Nat.eq_of_testBit_eq h]

end IdSet

end ModuleLint.Flow
