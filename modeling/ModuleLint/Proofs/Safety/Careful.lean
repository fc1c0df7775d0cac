import ModuleLint.Rule.Engine

/-!
# Careful execution

The definitions of this library are total where the machine is not: a list gives a default beyond its end, a missing
node is passed over, and words wrap around. A careful execution makes every such step explicit. It looks up a list
entry only at an index below the length (`fetch`, `store`, `front`), uses an optional value only if it is there (`deref`),
subtracts words only without going below zero (`minus`) and numbers definitions with 32 bits (`definitionId`), and it
stops with a fault as soon as one of these does not hold.

For each part of an analysis there is a careful version with the guards of the program in the places where the program
has them. If the careful version ends without a fault and with the result of the running definition, then the guards
suffice. This module has the primitives, the loops and the parts that all rules share: places, snippets and violations.
-/

set_option autoImplicit false

namespace ModuleLint

/-- A step that the machine cannot take. -/
inductive Fault where
  | index (i length : Nat)
  | nilDereference
  | underflow (a b : UInt64)
  | definitionIndex (i : Nat)
deriving Repr, DecidableEq

/-- How a faulty step ends a call. -/
def Fault.panic : Fault → Panic
  | .index i length =>
    .error ("runtime error: index out of range [" ++ toString i ++ "] with length " ++ toString length)
  | .nilDereference => .error "runtime error: invalid memory address or nil pointer dereference"
  | .underflow a b => .value (toString a.toNat ++ " - " ++ toString b.toNat ++ " is below zero")
  | .definitionIndex i => .value ("definition index " ++ toString i ++ " out of range")

/-- An execution that stops at its first faulty step. -/
abbrev Careful (α : Type) := Except Fault α

namespace Careful

variable {α β : Type}

/-- A step without a fault hands its result on. -/
@[simp] theorem ok_bind (a : α) (f : α → Careful β) : ((.ok a : Careful α) >>= f) = f a := rfl

/-- Doing nothing is no fault. -/
@[simp] theorem pure_eq_ok (a : α) : (pure a : Careful α) = .ok a := rfl

/-! ## Primitive steps -/

def fetch (xs : List α) (i : Nat) : Careful α :=
  match xs[i]? with
  | some x => .ok x
  | none => .error (.index i xs.length)

def store (xs : List α) (i : Nat) (x : α) : Careful (List α) :=
  if i < xs.length then .ok (xs.set i x) else .error (.index i xs.length)

/-- So many entries from the front of a list. -/
def front (xs : List α) (n : Nat) : Careful (List α) :=
  if n ≤ xs.length then .ok (xs.take n) else .error (.index n xs.length)

def deref : Option α → Careful α
  | some x => .ok x
  | none => .error .nilDereference

def minus (a b : UInt64) : Careful UInt64 :=
  if b ≤ a then .ok (a - b) else .error (.underflow a b)

/-- The number of a definition, in 32 bits. -/
def definitionId (i : Nat) : Careful Nat :=
  if i < Nat.pow 2 32 then .ok i else .error (.definitionIndex i)

/-- Uses a node that may be missing. It makes no difference where no node of the given kinds was expected. -/
def visit (missing : Option Kind) (kinds : List Kind) : Careful Unit :=
  match missing with
  | none => .ok ()
  | some kind => if kinds.contains kind then .error .nilDereference else .ok ()

/-- A fetch succeeds where the list has an entry, and gives it. -/
theorem fetch_eq_ok_iff {xs : List α} {i : Nat} {x : α} : fetch xs i = .ok x ↔ xs[i]? = some x := by
  unfold fetch
  cases xs[i]? with
  | none => simp
  | some y => simp

/-- A fetch below the length gives what the list has there, whatever the default. -/
theorem fetch_eq_ok {xs : List α} {i : Nat} (h : i < xs.length) (default : α) :
    fetch xs i = .ok (xs.getD i default) := by
  rw [fetch_eq_ok_iff, List.getElem?_eq_getElem h, List.getD_eq_getElem?_getD, List.getElem?_eq_getElem h]
  rfl

/-- A store below the length succeeds. -/
theorem store_eq_ok {xs : List α} {i : Nat} (h : i < xs.length) (x : α) : store xs i x = .ok (xs.set i x) :=
  if_pos h

/-- A front that is not longer than the list can be cut off. -/
theorem front_eq_ok {xs : List α} {n : Nat} (h : n ≤ xs.length) : front xs n = .ok (xs.take n) := if_pos h

/-- A value that is there can be used. -/
theorem deref_eq_ok {x? : Option α} {x : α} (h : x? = some x) : deref x? = .ok x := by
  rw [h]
  rfl

/-- A smaller word can be subtracted. -/
theorem minus_eq_ok {a b : UInt64} (h : b ≤ a) : minus a b = .ok (a - b) := if_pos h

/-- A number of 32 bits can be that of a definition. -/
theorem definitionId_eq_ok {i : Nat} (h : i < Nat.pow 2 32) : definitionId i = .ok i := if_pos h

/-! ## Loops -/

/-- A careful loop keeps pace with a running one as long as each of its rounds does. -/
theorem foldlM_eq_ok {f : β → α → Careful β} {g : β → α → β} (P : β → Prop) {xs : List α} {b : β} (hb : P b)
    (h : ∀ b x, x ∈ xs → P b → f b x = .ok (g b x) ∧ P (g b x)) :
    xs.foldlM f b = .ok (xs.foldl g b) ∧ P (xs.foldl g b) := by
  induction xs generalizing b with
  | nil => exact ⟨rfl, hb⟩
  | cons x rest ih =>
    obtain ⟨hstep, hnext⟩ := h b x List.mem_cons_self hb
    rw [List.foldlM_cons, hstep, ok_bind, List.foldl_cons]
    exact ih hnext fun c y hy hc => h c y (List.mem_cons_of_mem x hy) hc

/-- A loop has no fault when no round has one. -/
theorem foldlM_eq_ok_of_forall {f : β → α → Careful β} {g : β → α → β} {xs : List α} (b : β)
    (h : ∀ b x, x ∈ xs → f b x = .ok (g b x)) : xs.foldlM f b = .ok (xs.foldl g b) :=
  (foldlM_eq_ok (fun _ => True) trivial fun b x hx _ => ⟨h b x hx, trivial⟩).1

/-- Does the same for each entry. -/
def map (f : α → Careful β) : List α → Careful (List β)
  | [] => .ok []
  | x :: rest => do
    let y ← f x
    let ys ← map f rest
    return y :: ys

/-- Mapping a list has no fault when no entry has one. -/
theorem map_eq_ok {f : α → Careful β} {g : α → β} {xs : List α} (h : ∀ x ∈ xs, f x = .ok (g x)) :
    map f xs = .ok (xs.map g) := by
  induction xs with
  | nil => rfl
  | cons x rest ih =>
    have hrest := ih fun y hy => h y (List.mem_cons_of_mem x hy)
    rw [map, h x List.mem_cons_self, ok_bind, hrest, ok_bind]
    rfl

/-- Keeps the entries that pass a test. -/
def filter (test : α → Careful Bool) : List α → Careful (List α)
  | [] => .ok []
  | x :: rest => do
    let keep ← test x
    let xs ← filter test rest
    return if keep then x :: xs else xs

/-- Selecting from a list has no fault when no test has one. -/
theorem filter_eq_ok {test : α → Careful Bool} {p : α → Bool} {xs : List α} (h : ∀ x ∈ xs, test x = .ok (p x)) :
    filter test xs = .ok (xs.filter p) := by
  induction xs with
  | nil => rfl
  | cons x rest ih =>
    have hrest := ih fun y hy => h y (List.mem_cons_of_mem x hy)
    rw [filter, h x List.mem_cons_self, ok_bind, hrest, ok_bind, List.filter_cons]
    rfl

/-- What several entries lead to, one after another. -/
def flatMap (f : α → Careful (List β)) : List α → Careful (List β)
  | [] => .ok []
  | x :: rest => do
    let first ← f x
    let others ← flatMap f rest
    return first ++ others

/-- Collecting lists has no fault when no entry has one. -/
theorem flatMap_eq_ok {f : α → Careful (List β)} {g : α → List β} {xs : List α} (h : ∀ x ∈ xs, f x = .ok (g x)) :
    flatMap f xs = .ok (xs.flatMap g) := by
  induction xs with
  | nil => rfl
  | cons x rest ih =>
    have hrest := ih fun y hy => h y (List.mem_cons_of_mem x hy)
    rw [flatMap, h x List.mem_cons_self, ok_bind, hrest, ok_bind, List.flatMap_cons]
    rfl

/-! ## Values that may be missing -/

/-- Uses a value if it is there. -/
def ifPresent (x? : Option α) (absent : β) (use : α → Careful β) : Careful β :=
  if x?.isNone then .ok absent
  else do
    let x ← deref x?
    use x

/-- A missing value is passed over. -/
@[simp] theorem ifPresent_none (absent : β) (use : α → Careful β) : ifPresent none absent use = .ok absent := rfl

/-- A value that is there is used. -/
@[simp] theorem ifPresent_some (x : α) (absent : β) (use : α → Careful β) :
    ifPresent (some x) absent use = use x := rfl

/-- The entries of a list that are there. -/
def present : List (Option α) → Careful (List α)
  | [] => .ok []
  | x? :: rest => do
    let xs ← present rest
    ifPresent x? xs fun x => .ok (x :: xs)

/-- Passing over the missing entries of a list leaves those that are there. -/
theorem present_eq_ok (xs : List (Option α)) : present xs = .ok (xs.filterMap id) := by
  induction xs with
  | nil => rfl
  | cons x? rest ih =>
    rw [present, ih, ok_bind]
    cases x? with
    | none => rfl
    | some x => rfl

/-! ## Places -/

def line (s : Span) : Careful UInt64 := ifPresent s 0 fun r => .ok r.start.line

def column (s : Span) : Careful UInt64 := ifPresent s 0 fun r => .ok r.start.column

/-- The number of lines that a range covers beyond its first one. Only a forward range is measured. -/
def lines (r : Range) : Careful UInt64 :=
  if r.isForward then minus r.stop.line r.start.line else .ok 0

def length (s : Span) : Careful UInt64 := ifPresent s 0 lines

/-- Reading the line of a span is guarded. -/
@[simp] theorem line_eq_ok (s : Span) : line s = .ok s.line := by
  cases s <;> rfl

/-- Reading the column of a span is guarded. -/
@[simp] theorem column_eq_ok (s : Span) : column s = .ok s.column := by
  cases s <;> rfl

/-- A forward range does not end on a line before its first one. -/
theorem start_line_le_of_isForward {r : Range} (h : r.isForward = true) : r.start.line ≤ r.stop.line := by
  unfold Range.isForward Position.before at h
  rw [Bool.not_eq_true'] at h
  split at h
  · rename_i hne
    exact UInt64.not_lt.mp (of_decide_eq_false h)
  · rename_i heq
    rw [Decidable.not_not.mp heq]
    exact UInt64.le_refl _

/-- Counting the lines of a range does not go below zero. -/
@[simp] theorem lines_eq_ok (r : Range) : lines r = .ok r.lines := by
  unfold lines Range.lines
  by_cases h : r.isForward = true
  · rw [if_pos h, if_pos h, minus_eq_ok (start_line_le_of_isForward h)]
  · rw [if_neg h, if_neg h]

/-- The length of a span does not go below zero. -/
@[simp] theorem length_eq_ok (s : Span) : length s = .ok s.length := by
  cases s with
  | none => rfl
  | some r => exact lines_eq_ok r

/-! ## Violations -/

/-- The source line with a given number, where there is a module and it has such a line. -/
def snippet (m? : Option Module) (line : UInt64) : Careful String :=
  if m?.isNone || line == 0 then .ok ""
  else do
    let m ← deref m?
    if line.toNat > m.source.length then return ""
    let i ← minus line 1
    let text ← fetch m.source i.toNat
    return Text.trim text

/-- The snippet of a line is cut out of the source only where the source has the line. -/
theorem snippet_some (m : Module) (line : UInt64) : snippet (some m) line = .ok (m.snippet line) := by
  unfold snippet Module.snippet
  by_cases hzero : line = 0
  · simp [hzero]
  · have hpos : 1 ≤ line.toNat := by
      have hne : line.toNat ≠ 0 := fun h => hzero (UInt64.toNat_inj.mp h)
      omega
    have hle : (1 : UInt64) ≤ line := UInt64.le_iff_toNat_le.mpr hpos
    have hindex : (line - 1).toNat = line.toNat - 1 := UInt64.toNat_sub_of_le line 1 hle
    have hguard : ((some m).isNone || line == 0) = false := by simpa using hzero
    rw [hguard, if_neg Bool.false_ne_true, if_neg (by simpa using hzero), deref_eq_ok rfl, ok_bind]
    by_cases hlong : line.toNat > m.source.length
    · rw [if_pos hlong, List.getElem?_eq_none (by omega)]
      rfl
    · have hlt : line.toNat - 1 < m.source.length := by omega
      rw [if_neg hlong, minus_eq_ok hle, ok_bind, hindex, fetch_eq_ok_iff.mpr (List.getElem?_eq_getElem hlt),
        ok_bind, List.getElem?_eq_getElem hlt]
      rfl

/-- A violation of a rule at a place of a module, if there is one. -/
def violationAt (i : RuleInfo) (m? : Option Module) (line column : UInt64) (message : String) :
    Careful Violation := do
  let text ← snippet m? line
  let moduleName ← ifPresent m? "" fun m => .ok m.name
  return { code := i.code, ruleName := i.name, severity := i.severity, moduleName := moduleName, line := line
           column := column, message := message, snippet := text }

/-- A violation can be stated at any line, with or without a module. -/
@[simp] theorem violationAt_eq_ok (i : RuleInfo) (m? : Option Module) (line column : UInt64) (message : String) :
    violationAt i m? line column message = .ok (i.violationAt m? line column message) := by
  cases m? with
  | none => rfl
  | some m =>
    unfold violationAt
    rw [snippet_some, ok_bind]
    rfl

/-- A violation of a rule at a node. -/
def violation (i : RuleInfo) (m? : Option Module) (span : Span) (message : String) : Careful Violation := do
  let l ← line span
  let c ← column span
  violationAt i m? l c message

/-- A violation can be stated at any span. -/
@[simp] theorem violation_eq_ok (i : RuleInfo) (m? : Option Module) (span : Span) (message : String) :
    violation i m? span message = .ok (i.violation m? span message) := by
  unfold violation
  rw [line_eq_ok, ok_bind, column_eq_ok, ok_bind, violationAt_eq_ok]
  rfl

end Careful

end ModuleLint
