/-!
# Edit distance

The distance of two texts is the least number of single character insertions, deletions and
substitutions that turn one into the other. It is computed row by row: entry `j` of the row for a
prefix `p` of the first text is the distance of `p` to the prefix of length `j` of the second one.

The closest candidate is searched with distances and bound held in 64-bit words, as everywhere in
the program where a limit is configured by the user.
-/

set_option autoImplicit false

namespace ModuleLint.Text

/-- The entries of the next row after its first one. `above` is the previous row from the entry
diagonally above on, and `left` is the entry to the left. -/
def nextEntries (x : Char) : List Char → List Nat → Nat → List Nat
  | y :: ys, diagonal :: top :: above, left =>
    let entry := min (min (top + 1) (left + 1)) (diagonal + if x = y then 0 else 1)
    entry :: nextEntries x ys (top :: above) entry
  | _, _, _ => []

/-- The row that follows `above` once the first text has been extended by `x`. -/
def nextRow (b : List Char) (above : List Nat) (x : Char) : List Nat :=
  let first := above.headD 0 + 1
  first :: nextEntries x b above first

/-- The row for the whole of the first text. -/
def distanceRow (a b : List Char) : List Nat :=
  a.foldl (nextRow b) (List.range (b.length + 1))

/-- The edit distance of two sequences of characters. Rows run along the shorter one, so that they
take little room. -/
def editDistance (a b : List Char) : Nat :=
  if a.length < b.length then (distanceRow b a).getLastD 0 else (distanceRow a b).getLastD 0

/-- The edit distance of two texts. -/
def distance (a b : String) : Nat :=
  editDistance a.toList b.toList

/-- The best candidate so far together with the distance it has to be beaten by. -/
structure Nearest where
  best : String
  bound : Int64
deriving Repr, DecidableEq

/-- Takes a candidate if it is strictly nearer than the best one so far. -/
def Nearest.consider (target : String) (n : Nearest) (candidate : String) : Nearest :=
  let d := Int64.ofNat (distance target candidate)
  if d < n.bound then { best := candidate, bound := d } else n

/-- The candidate nearest to `target` within `limit` edits, the earlier one if several are equally
near, and whether there is one. The search starts one above the limit. -/
def closest (target : String) (candidates : List String) (limit : Int64) : String × Bool :=
  let n := candidates.foldl (Nearest.consider target) { best := "", bound := limit + 1 }
  (n.best, decide (n.bound ≤ limit))

end ModuleLint.Text
