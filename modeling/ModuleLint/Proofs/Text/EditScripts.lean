import Mathlib.Order.Bounds.Basic
import Mathlib.Order.MinMax
import ModuleLint.Text.EditDistance

/-!
# The distance of two texts is the length of a shortest edit script

A script is a list of edits, each of which inserts, deletes or substitutes one character at some position. Between
scripts and rows of distances stand alignments (`Aligns`). An alignment goes through two texts from left to right and
says of each character whether it is kept, substituted, inserted or deleted. A script may edit one position again and
again, but it is never shorter than the alignments of the texts it leads from and to (`exists_aligns_of_runAll?`), and
an alignment can be carried out edit by edit (`Aligns.exists_script`).

Rows are about prefixes and grow at their end, while alignments grow at their front, so the entries of a row are least
numbers of edits between reversed prefixes (`IsRow`).
-/

set_option autoImplicit false

namespace ModuleLint.Text

/-- A change of one character of a text. -/
inductive Edit where
  | insert (position : Nat) (c : Char)
  | delete (position : Nat)
  | substitute (position : Nat) (c : Char)
deriving Repr, DecidableEq

namespace Edit

/-- The text after an edit, if the text has the position. -/
def run? : Edit → List Char → Option (List Char)
  | insert i c, s => if i ≤ s.length then some (s.insertIdx i c) else none
  | delete i, s => if i < s.length then some (s.eraseIdx i) else none
  | substitute i c, s => if i < s.length then some (s.set i c) else none

/-- The text after the edits of a script, one after another. -/
def runAll? : List Edit → List Char → Option (List Char)
  | [], s => some s
  | e :: rest, s => (e.run? s).bind (runAll? rest)

/-- The same edit one position further on. -/
def shift : Edit → Edit
  | insert i c => insert (i + 1) c
  | delete i => delete (i + 1)
  | substitute i c => substitute (i + 1) c

/-- A shifted edit leaves the first character alone. -/
theorem run?_shift (e : Edit) (x : Char) (s : List Char) :
    e.shift.run? (x :: s) = (e.run? s).map (x :: ·) := by
  cases e with
  | insert i c =>
    by_cases h : i ≤ s.length <;> simp [shift, run?, h]
  | delete i =>
    by_cases h : i < s.length <;> simp [shift, run?, h]
  | substitute i c =>
    by_cases h : i < s.length <;> simp [shift, run?, h]

/-- A shifted script leaves the first character alone. -/
theorem runAll?_map_shift (script : List Edit) (x : Char) (s : List Char) :
    runAll? (script.map shift) (x :: s) = (runAll? script s).map (x :: ·) := by
  induction script generalizing s with
  | nil => rfl
  | cons e rest ih =>
    rw [List.map_cons, runAll?, runAll?, run?_shift]
    cases e.run? s with
    | none => rfl
    | some t => exact ih t

/-- Scripts are run one after another. -/
theorem runAll?_append (first second : List Edit) (s : List Char) :
    runAll? (first ++ second) s = (runAll? first s).bind (runAll? second) := by
  induction first generalizing s with
  | nil => rfl
  | cons e rest ih =>
    rw [List.cons_append, runAll?, runAll?, Option.bind_assoc]
    exact congrArg _ (funext ih)

end Edit

/-! ## Alignments -/

/-- Going through two texts from left to right costs so many edits. -/
inductive Aligns : List Char → List Char → Nat → Prop
  | nil : Aligns [] [] 0
  | keep {a b : List Char} {n : Nat} (x : Char) (h : Aligns a b n) : Aligns (x :: a) (x :: b) n
  | substitute {a b : List Char} {n : Nat} (x y : Char) (h : Aligns a b n) :
      Aligns (x :: a) (y :: b) (n + 1)
  | insert {a b : List Char} {n : Nat} (y : Char) (h : Aligns a b n) : Aligns a (y :: b) (n + 1)
  | delete {a b : List Char} {n : Nat} (x : Char) (h : Aligns a b n) : Aligns (x :: a) b (n + 1)

/-- One edit leads from a text to another. -/
inductive Edited : List Char → List Char → Prop
  | insert (y : Char) (a : List Char) : Edited a (y :: a)
  | delete (x : Char) (a : List Char) : Edited (x :: a) a
  | substitute (x y : Char) (a : List Char) : Edited (x :: a) (y :: a)
  | further {a b : List Char} (z : Char) (h : Edited a b) : Edited (z :: a) (z :: b)

/-- Running an edit edits the text at one place. -/
theorem Edit.edited_of_run? {e : Edit} {a b : List Char} (h : e.run? a = some b) : Edited a b := by
  -- an edit at a position behind the first character is one of the rest
  have hfurther : ∀ (e : Edit) (x : Char) (s t : List Char), (∀ t, e.run? s = some t → Edited s t) →
      e.shift.run? (x :: s) = some t → Edited (x :: s) t := by
    intro e x s t ih ht
    rw [run?_shift, Option.map_eq_some_iff] at ht
    obtain ⟨u, hu, rfl⟩ := ht
    exact .further x (ih u hu)
  induction a generalizing e b with
  | nil =>
    cases e with
    | insert i c =>
      cases i with
      | zero =>
        simp only [run?, List.length_nil, Nat.le_refl, if_true, Option.some.injEq] at h
        exact h ▸ .insert c []
      | succ i => simp [run?] at h
    | delete i => simp [run?] at h
    | substitute i c => simp [run?] at h
  | cons x s ih =>
    cases e with
    | insert i c =>
      cases i with
      | zero =>
        simp only [run?, Nat.zero_le, if_true, Option.some.injEq] at h
        exact h ▸ .insert c (x :: s)
      | succ i => exact hfurther (.insert i c) x s b (fun _ => ih) h
    | delete i =>
      cases i with
      | zero =>
        simp [run?] at h
        exact h ▸ .delete x s
      | succ i => exact hfurther (.delete i) x s b (fun _ => ih) h
    | substitute i c =>
      cases i with
      | zero =>
        simp [run?] at h
        exact h ▸ .substitute x c s
      | succ i => exact hfurther (.substitute i c) x s b (fun _ => ih) h

namespace Aligns

variable {a b c d : List Char} {m n : Nat}

/-- A text is aligned with itself at no cost. -/
theorem refl (a : List Char) : Aligns a a 0 := by
  induction a with
  | nil => exact .nil
  | cons x a ih => exact .keep x ih

/-- Insertions on one side are deletions on the other. -/
theorem symm (h : Aligns a b n) : Aligns b a n := by
  induction h with
  | nil => exact .nil
  | keep x _ ih => exact .keep x ih
  | substitute x y _ ih => exact .substitute y x ih
  | insert y _ ih => exact .delete y ih
  | delete x _ ih => exact .insert x ih

/-- Alignments are put side by side. -/
theorem append (h : Aligns a b m) (h' : Aligns c d n) : Aligns (a ++ c) (b ++ d) (n + m) := by
  induction h with
  | nil => exact h'
  | keep x _ ih => exact .keep x ih
  | substitute x y _ ih => exact .substitute x y ih
  | insert y _ ih => exact .insert y ih
  | delete x _ ih => exact .delete x ih

/-- An alignment can be read from right to left. -/
theorem reverse (h : Aligns a b n) : Aligns a.reverse b.reverse n := by
  induction h with
  | nil => exact .nil
  | keep x _ ih =>
    rw [List.reverse_cons, List.reverse_cons]
    simpa using ih.append (.keep x .nil)
  | substitute x y _ ih =>
    rw [List.reverse_cons, List.reverse_cons, Nat.add_comm]
    exact ih.append (.substitute x y .nil)
  | insert y _ ih =>
    rw [List.reverse_cons, Nat.add_comm]
    simpa using ih.append (.insert y .nil)
  | delete x _ ih =>
    rw [List.reverse_cons, Nat.add_comm]
    simpa using ih.append (.delete x .nil)

/-- A text may be aligned from its end. -/
theorem reverse_iff : Aligns a.reverse b.reverse n ↔ Aligns a b n := by
  constructor
  · intro h
    simpa using h.reverse
  · exact reverse

/-- An edit before an alignment costs one more, or less. -/
theorem after_edit (h : Aligns b c n) (he : Edited a b) : ∃ k ≤ n + 1, Aligns a c k := by
  induction h generalizing a with
  | nil =>
    cases he with
    | delete x => exact ⟨1, Nat.le_refl 1, .delete x .nil⟩
  | @keep b c n x h ih =>
    cases he with
    | insert => exact ⟨n + 1, Nat.le_refl _, .insert x h⟩
    | delete z => exact ⟨n + 1, Nat.le_refl _, .delete z (.keep x h)⟩
    | substitute z => exact ⟨n + 1, Nat.le_refl _, .substitute z x h⟩
    | further _ he =>
      obtain ⟨k, hk, hac⟩ := ih he
      exact ⟨k, hk, .keep x hac⟩
  | @substitute b c n x y h ih =>
    cases he with
    | insert => exact ⟨n + 1, by omega, .insert y h⟩
    | delete z => exact ⟨n + 2, Nat.le_refl _, .delete z (.substitute x y h)⟩
    | substitute z => exact ⟨n + 1, by omega, .substitute z y h⟩
    | further _ he =>
      obtain ⟨k, hk, hac⟩ := ih he
      exact ⟨k + 1, by omega, .substitute x y hac⟩
  | @insert b c n y h ih =>
    obtain ⟨k, hk, hac⟩ := ih he
    exact ⟨k + 1, by omega, .insert y hac⟩
  | @delete b c n x h ih =>
    cases he with
    | insert => exact ⟨n, by omega, h⟩
    | delete z => exact ⟨n + 2, Nat.le_refl _, .delete z (.delete x h)⟩
    | substitute z => exact ⟨n + 1, by omega, .delete z h⟩
    | further _ he =>
      obtain ⟨k, hk, hac⟩ := ih he
      exact ⟨k + 1, by omega, .delete x hac⟩

/-- An alignment is carried out by as many edits as it costs. -/
theorem exists_script (h : Aligns a b n) :
    ∃ script : List Edit, script.length = n ∧ Edit.runAll? script a = some b := by
  induction h with
  | nil => exact ⟨[], rfl, rfl⟩
  | keep x _ ih =>
    obtain ⟨script, hlength, hrun⟩ := ih
    refine ⟨script.map Edit.shift, by rw [List.length_map, hlength], ?_⟩
    rw [Edit.runAll?_map_shift, hrun]
    rfl
  | substitute x y _ ih =>
    obtain ⟨script, hlength, hrun⟩ := ih
    refine ⟨.substitute 0 y :: script.map Edit.shift, by simp [hlength], ?_⟩
    have hfirst : ∀ s, (Edit.substitute 0 y).run? (x :: s) = some (y :: s) :=
      fun s => by simp [Edit.run?]
    rw [Edit.runAll?, hfirst, Option.bind_some, Edit.runAll?_map_shift, hrun]
    rfl
  | insert y _ ih =>
    obtain ⟨script, hlength, hrun⟩ := ih
    refine ⟨.insert 0 y :: script.map Edit.shift, by simp [hlength], ?_⟩
    have hfirst : ∀ s, (Edit.insert 0 y).run? s = some (y :: s) := fun s => by simp [Edit.run?]
    rw [Edit.runAll?, hfirst, Option.bind_some, Edit.runAll?_map_shift, hrun]
    rfl
  | delete x _ ih =>
    obtain ⟨script, hlength, hrun⟩ := ih
    refine ⟨.delete 0 :: script, by simp [hlength], ?_⟩
    have hfirst : ∀ s, (Edit.delete 0).run? (x :: s) = some s := fun s => by simp [Edit.run?]
    rw [Edit.runAll?, hfirst, Option.bind_some, hrun]

/-- At no cost nothing is changed. -/
theorem eq_of_zero (h : Aligns a b 0) : a = b := by
  generalize hn : 0 = n at h
  induction h with
  | nil => rfl
  | keep x _ ih => rw [ih hn]
  | substitute | insert | delete => omega

/-- Each edit changes the length by one at most. -/
theorem length_le (h : Aligns a b n) : a.length ≤ b.length + n ∧ b.length ≤ a.length + n := by
  induction h with
  | nil => simp
  | keep | substitute | insert | delete => simp only [List.length_cons]; omega

/-- Texts can be aligned at the cost of the longer one. -/
theorem exists_le_max (a b : List Char) : ∃ n ≤ max a.length b.length, Aligns a b n := by
  induction a generalizing b with
  | nil =>
    refine ⟨b.length, by simp, ?_⟩
    induction b with
    | nil => exact .nil
    | cons y b ih => exact .insert y ih
  | cons x a ih =>
    cases b with
    | nil =>
      obtain ⟨n, hn, h⟩ := ih []
      exact ⟨n + 1, by simpa using hn, .delete x h⟩
    | cons y b =>
      obtain ⟨n, hn, h⟩ := ih b
      exact ⟨n + 1, by simp only [List.length_cons]; omega, .substitute x y h⟩

end Aligns

/-- No script is shorter than all alignments of the texts it leads from and to. -/
theorem exists_aligns_of_runAll? {script : List Edit} {a b : List Char}
    (h : Edit.runAll? script a = some b) : ∃ n ≤ script.length, Aligns a b n := by
  induction script generalizing a with
  | nil => exact ⟨0, Nat.le_refl 0, Option.some.inj h ▸ .refl a⟩
  | cons e rest ih =>
    obtain ⟨t, ht, hrest⟩ := Option.bind_eq_some_iff.mp h
    obtain ⟨n, hn, hal⟩ := ih hrest
    obtain ⟨k, hk, hal'⟩ := hal.after_edit (Edit.edited_of_run? ht)
    exact ⟨k, by rw [List.length_cons]; omega, hal'⟩

/-! ## Rows -/

/-- The least cost of an alignment of two texts. -/
def IsCost (a b : List Char) (n : Nat) : Prop := IsLeast {n | Aligns a b n} n

namespace IsCost

variable {p q : List Char} {top left diagonal n : Nat}

/-- The least cost is the same in both directions. -/
theorem symm (h : IsCost p q n) : IsCost q p n :=
  ⟨h.1.symm, fun _ hk => h.2 hk.symm⟩

/-- The least cost is the same from the end. -/
theorem reverse (h : IsCost p.reverse q.reverse n) : IsCost p q n :=
  ⟨Aligns.reverse_iff.mp h.1, fun _ hk => h.2 (Aligns.reverse_iff.mpr hk)⟩

/-- From nothing, each character is inserted. -/
theorem nil_left (q : List Char) : IsCost [] q q.length := by
  constructor
  · induction q with
    | nil => exact .nil
    | cons y q ih => exact .insert y ih
  · intro n hn
    simpa using hn.length_le.2

/-- To nothing, each character is deleted. -/
theorem cons_nil (x : Char) (h : IsCost p [] n) : IsCost (x :: p) [] (n + 1) := by
  refine ⟨.delete x h.1, fun k hk => ?_⟩
  cases hk with
  | delete _ hk => exact Nat.succ_le_succ (h.2 hk)

/-- An entry is told by its three neighbours: the last characters are a deletion, an insertion or a pair. -/
theorem cons_cons (x y : Char) (htop : IsCost p (y :: q) top) (hleft : IsCost (x :: p) q left)
    (hdiagonal : IsCost p q diagonal) :
    IsCost (x :: p) (y :: q)
      (min (min (top + 1) (left + 1)) (diagonal + if x = y then 0 else 1)) := by
  constructor
  · have hpair : Aligns (x :: p) (y :: q) (diagonal + if x = y then 0 else 1) := by
      split
      · rename_i hxy
        exact hxy ▸ .keep x hdiagonal.1
      · exact .substitute x y hdiagonal.1
    have hdelete : Aligns (x :: p) (y :: q) (top + 1) := .delete x htop.1
    have hinsert : Aligns (x :: p) (y :: q) (left + 1) := .insert y hleft.1
    exact min_rec' (Aligns (x :: p) (y :: q)) (min_rec' _ hdelete hinsert) hpair
  · intro k hk
    cases hk with
    | keep _ hk =>
      have := hdiagonal.2 hk
      rw [if_pos rfl]
      omega
    | substitute _ _ hk =>
      have := hdiagonal.2 hk
      split <;> omega
    | insert _ hk =>
      have := hleft.2 hk
      omega
    | delete _ hk =>
      have := htop.2 hk
      omega

end IsCost

/-- A row for the reversed prefix `p` of the first text, from the entry for the reversed prefix `q` of the second one
on, of which `ys` is left. -/
inductive IsRow (p : List Char) : List Char → List Char → List Nat → Prop
  | last {q : List Char} {d : Nat} (h : IsCost p q d) : IsRow p q [] [d]
  | cons {q ys : List Char} {y : Char} {d : Nat} {row : List Nat} (h : IsCost p q d)
      (rest : IsRow p (y :: q) ys row) : IsRow p q (y :: ys) (d :: row)

namespace IsRow

variable {p q ys : List Char} {row : List Nat}

/-- A row begins with the cost of its own two texts. -/
theorem exists_eq_cons (h : IsRow p q ys row) : ∃ d rest, row = d :: rest ∧ IsCost p q d := by
  cases h with
  | last h => exact ⟨_, _, rfl, h⟩
  | cons h _ => exact ⟨_, _, rfl, h⟩

/-- A row ends with the cost of the whole second text. -/
theorem getLastD (h : IsRow p q ys row) : IsCost p (ys.reverse ++ q) (row.getLastD 0) := by
  induction h with
  | last h => exact h
  | cons h rest ih =>
    obtain ⟨d, row, rfl, -⟩ := rest.exists_eq_cons
    simpa using ih

/-- Without a first text every character is inserted. -/
theorem range' (q ys : List Char) : IsRow [] q ys (List.range' q.length (ys.length + 1)) := by
  induction ys generalizing q with
  | nil => exact .last (.nil_left q)
  | cons y ys ih =>
    rw [List.length_cons, List.range'_succ]
    exact .cons (.nil_left q) (ih (y :: q))

/-- The entries of the next row, each by the three around it. -/
theorem nextEntries (x : Char) (h : IsRow p q ys row) {left : Nat} (hleft : IsCost (x :: p) q left) :
    IsRow (x :: p) q ys (left :: nextEntries x ys row left) := by
  induction h generalizing left with
  | last h => exact .last hleft
  | @cons q ys y d row h rest ih =>
    obtain ⟨top, above, rfl, htop⟩ := rest.exists_eq_cons
    exact .cons hleft (ih (.cons_cons x y htop hleft h))

/-- The next row belongs to one more character of the first text. -/
theorem nextRow (x : Char) (h : IsRow p [] ys row) : IsRow (x :: p) [] ys (nextRow ys row x) := by
  obtain ⟨d, above, rfl, hd⟩ := h.exists_eq_cons
  exact h.nextEntries x (hd.cons_nil x)

/-- The rows of all characters of the first text, by induction over it. -/
theorem foldl_nextRow (a : List Char) (h : IsRow p [] ys row) :
    IsRow (a.reverse ++ p) [] ys (a.foldl (Text.nextRow ys) row) := by
  induction a generalizing p row with
  | nil => exact h
  | cons x a ih => simpa using ih (h.nextRow x)

end IsRow

/-- The last entry of the last row is the least cost of aligning the two texts. -/
theorem isCost_distanceRow (a b : List Char) : IsCost a b ((distanceRow a b).getLastD 0) := by
  have hrow : IsRow (a.reverse ++ []) [] b (distanceRow a b) := by
    unfold distanceRow
    rw [List.range_eq_range']
    exact (IsRow.range' [] b).foldl_nextRow a
  have hlast := hrow.getLastD
  rw [List.append_nil, List.append_nil] at hlast
  exact hlast.reverse

/-- Along whichever text the rows run, the last entry is the least cost. -/
theorem isCost_editDistance (a b : List Char) : IsCost a b (editDistance a b) := by
  unfold editDistance
  split
  · exact (isCost_distanceRow b a).symm
  · exact isCost_distanceRow a b

/-! ## Shortest scripts -/

/-- Whether some script of so many edits leads from one text to the other. -/
def EditsInto (a b : String) (n : Nat) : Prop :=
  ∃ script : List Edit, script.length = n ∧ Edit.runAll? script a.toList = some b.toList

/-- Edits may be made in two parts. -/
theorem EditsInto.trans {a b c : String} {m n : Nat} (h : EditsInto a b m) (h' : EditsInto b c n) :
    EditsInto a c (m + n) := by
  obtain ⟨first, rfl, hfirst⟩ := h
  obtain ⟨second, rfl, hsecond⟩ := h'
  refine ⟨first ++ second, List.length_append, ?_⟩
  rw [Edit.runAll?_append, hfirst]
  exact hsecond

/-- As many edits as the distance suffice. -/
theorem editsInto_distance (a b : String) : EditsInto a b (distance a b) :=
  (isCost_editDistance a.toList b.toList).1.exists_script

/-- With fewer edits than the distance no text becomes the other. -/
theorem EditsInto.distance_le {a b : String} {n : Nat} (h : EditsInto a b n) : distance a b ≤ n := by
  obtain ⟨script, rfl, hrun⟩ := h
  obtain ⟨k, hk, hal⟩ := exists_aligns_of_runAll? hrun
  exact Nat.le_trans ((isCost_editDistance a.toList b.toList).2 hal) hk

/-- No alignment costs less than the distance. -/
theorem distance_le_of_aligns {a b : String} {n : Nat} (h : Aligns a.toList b.toList n) :
    distance a b ≤ n :=
  (isCost_editDistance a.toList b.toList).2 h

/-- An alignment costs as much as the distance. -/
theorem aligns_distance (a b : String) : Aligns a.toList b.toList (distance a b) :=
  (isCost_editDistance a.toList b.toList).1

/-- The distance of two texts is the least number of insertions, deletions and substitutions of single characters that
lead from the one to the other. So it is a metric, and it lies between the difference of the lengths and the larger
length. -/
theorem distance_is_least_edits (a b : String) :
    IsLeast {n | EditsInto a b n} (distance a b)
    ∧ distance a b = distance b a
    ∧ (distance a b = 0 ↔ a = b)
    ∧ (∀ c, distance a c ≤ distance a b + distance b c)
    ∧ ((a.length : Int) - b.length).natAbs ≤ distance a b
    ∧ distance a b ≤ max a.length b.length := by
  refine ⟨⟨editsInto_distance a b, fun n hn => hn.distance_le⟩, ?_, ⟨fun h => ?_, ?_⟩, fun c => ?_, ?_, ?_⟩
  · exact Nat.le_antisymm (distance_le_of_aligns (aligns_distance b a).symm)
      (distance_le_of_aligns (aligns_distance a b).symm)
  · have hal := aligns_distance a b
    rw [h] at hal
    exact String.toList_injective hal.eq_of_zero
  · rintro rfl
    exact Nat.le_zero.mp (distance_le_of_aligns (.refl _))
  · exact ((editsInto_distance a b).trans (editsInto_distance b c)).distance_le
  · have hlength := (aligns_distance a b).length_le
    simp only [String.length_toList] at hlength
    omega
  · obtain ⟨n, hn, hal⟩ := Aligns.exists_le_max a.toList b.toList
    simp only [String.length_toList] at hn
    exact Nat.le_trans (distance_le_of_aligns hal) hn

/-- Three edits lead from one word to the other, and no fewer: two substitutions and an insertion. -/
example : distance "kitten" "sitting" = 3 := by decide +kernel

end ModuleLint.Text
