import Mathlib.Data.List.Induction
import Mathlib.Data.List.Infix
import ModuleLint.Proofs.Walk.Restoration

/-!
# Scopes released in any order

A scope is released by going back to the height at which it was entered, whatever has happened since. Entering a scope
overwrites the cell at the height of the stack, and releasing one leaves all cells as they are, so each cell holds the
name that was entered last at its height (`getElem?_cells_after`). As long as the stack is at least as high as the scope
found it, a release takes names off and nothing else. On a lower stack it puts names back: those that were entered last
at the heights in between (`scopes_after_uses`).
-/

set_option autoImplicit false

namespace ModuleLint

/-! ## Cells of a stack -/

namespace ScopeStack

variable {s : ScopeStack} {height k : Nat}

/-- Entering a scope overwrites the cell at the height of the stack and no other. -/
theorem getElem?_cells_enter (s : ScopeStack) (name : String) (k : Nat) :
    (s.enter name).cells[k]? = if k = s.height then some name else s.cells[k]? := by
  have hlength : (s.cells.take s.height).length = s.height := s.length_scopes
  show (s.cells.take s.height ++ name :: s.cells.drop (s.height + 1))[k]? = _
  by_cases hk : k < s.height
  · rw [List.getElem?_append_left (by omega), List.getElem?_take_of_lt hk, if_neg (by omega)]
  · rw [List.getElem?_append_right (by omega), hlength]
    obtain ⟨j, rfl⟩ := Nat.exists_eq_add_of_le (Nat.le_of_not_lt hk)
    rw [Nat.add_sub_cancel_left]
    cases j with
    | zero =>
      rw [if_pos (Nat.add_zero s.height)]
      rfl
    | succ j =>
      rw [List.getElem?_cons_succ, List.getElem?_drop, if_neg (by omega)]
      congr 1
      omega

/-- The scopes are the cells below the height. -/
theorem getElem?_scopes (hk : k < s.height) : s.scopes[k]? = s.cells[k]? :=
  List.getElem?_take_of_lt hk

/-- On a stack that is not high enough a release adds names. -/
theorem scopes_isPrefix_release (h : s.height ≤ height) : s.scopes <+: (s.release height).scopes := by
  rw [scopes_release]
  exact List.take_prefix_take_left h

/-- A release goes back to its height, as far as there are cells. -/
theorem length_scopes_release (h : height ≤ s.cells.length) : (s.release height).scopes.length = height := by
  rw [scopes_release, List.length_take, Nat.min_eq_left h]

/-- What a stack had stays on it as long as no release goes below. -/
theorem isPrefix_release {base : ScopeStack} (h : base.scopes <+: s.scopes)
    (hheight : base.height ≤ (s.release height).height) : base.scopes <+: (s.release height).scopes := by
  have hcells : base.scopes = s.cells.take base.height := by
    rw [← base.length_scopes]
    exact List.prefix_iff_eq_take.mp (h.trans (List.take_prefix _ _))
  have hle : base.height ≤ height := Nat.le_trans hheight (Nat.min_le_left ..)
  rw [hcells, scopes_release]
  exact List.take_prefix_take_left hle

end ScopeStack

/-! ## Histories -/

/-- A scope is entered, or the one that was entered as number `n` is released. -/
inductive ScopeUse where
  | enter (name : String)
  | release (n : Nat)
deriving Repr, DecidableEq

namespace ScopeHistory

/-- The history after one more use. -/
def perform (h : ScopeHistory) : ScopeUse → ScopeHistory
  | .enter name => h.enter name
  | .release n => h.release n

/-- The history after some more uses. -/
def after (h : ScopeHistory) (uses : List ScopeUse) : ScopeHistory := uses.foldl perform h

variable {h : ScopeHistory} {uses : List ScopeUse}

/-- Uses of a stack happen one after another. -/
theorem after_append (h : ScopeHistory) (uses more : List ScopeUse) :
    h.after (uses ++ more) = (h.after uses).after more := List.foldl_append

/-- The last use happens last. -/
theorem after_concat (h : ScopeHistory) (uses : List ScopeUse) (u : ScopeUse) :
    h.after (uses ++ [u]) = (h.after uses).perform u := after_append h uses [u]

/-- What a release does: nothing, or the stack goes back to a height that was noted. -/
theorem release_cases (h : ScopeHistory) (n : Nat) :
    h.release n = h ∨ ∃ height, h.heights[n]? = some height
      ∧ h.release n = { h with stack := h.stack.release height } := by
  unfold release
  cases hn : h.heights[n]? with
  | none => exact .inl rfl
  | some height => exact .inr ⟨height, rfl, rfl⟩

/-- A release goes back to the height at which its scope was entered. -/
theorem release_of_height {n height : Nat} (hn : h.heights[n]? = some height) :
    h.release n = { h with stack := h.stack.release height } := by
  unfold release
  rw [hn]

/-- A release leaves all cells as they are. -/
theorem cells_release (h : ScopeHistory) (n : Nat) : (h.release n).stack.cells = h.stack.cells := by
  rcases h.release_cases n with heq | ⟨height, -, heq⟩ <;> rw [heq]
  rfl

/-- A release leaves the heights of all scopes as they are. -/
theorem heights_release (h : ScopeHistory) (n : Nat) : (h.release n).heights = h.heights := by
  rcases h.release_cases n with heq | ⟨height, -, heq⟩ <;> rw [heq]

/-- What a release can rely on: there is something on the stack, and at the heights that were noted there are cells
above the bottom one. -/
structure Grounded (h : ScopeHistory) : Prop where
  height_pos : 0 < h.stack.height
  bottom : h.stack.cells[0]? = some ScopeStack.globalName
  noted : ∀ height ∈ h.heights, 0 < height ∧ height ≤ h.stack.cells.length

/-- At the start the stack has its ground. -/
theorem grounded_start : Grounded start := ⟨Nat.one_pos, rfl, by simp [start]⟩

/-- Entering a scope leaves the ground in place. -/
theorem Grounded.enter (hh : h.Grounded) (name : String) : (h.enter name).Grounded where
  height_pos := Nat.succ_pos _
  bottom := by
    show (h.stack.enter name).cells[0]? = _
    rw [ScopeStack.getElem?_cells_enter, if_neg (Nat.ne_of_lt hh.height_pos)]
    exact hh.bottom
  noted := by
    intro height hheight
    have hle := h.stack.height_le
    have hcells : (h.stack.enter name).cells.length = max h.stack.cells.length (h.stack.height + 1) := by
      simp only [ScopeStack.enter, List.length_append, List.length_take, List.length_cons, List.length_drop]
      omega
    show 0 < height ∧ height ≤ (h.stack.enter name).cells.length
    rw [hcells]
    rcases List.mem_append.mp hheight with hold | hnew
    · have hbounds := hh.noted height hold
      omega
    · have hpos := hh.height_pos
      rw [List.mem_singleton.mp hnew]
      omega

/-- A release never goes below the ground. -/
theorem Grounded.release (hh : h.Grounded) (n : Nat) : (h.release n).Grounded := by
  rcases h.release_cases n with heq | ⟨height, hn, heq⟩
  · rw [heq]
    exact hh
  · obtain ⟨hpos, hle⟩ := hh.noted height (List.mem_of_getElem? hn)
    rw [heq]
    refine ⟨?_, hh.bottom, hh.noted⟩
    show 0 < min height h.stack.cells.length
    omega

/-- The ground stays in place, whatever happens. -/
theorem Grounded.after (hh : h.Grounded) (uses : List ScopeUse) : (h.after uses).Grounded := by
  induction uses generalizing h with
  | nil => exact hh
  | cons u rest ih =>
    cases u with
    | enter name => exact ih (hh.enter name)
    | release n => exact ih (hh.release n)

/-- What a release leaves of the stack that it finds. -/
theorem Grounded.scopes_release (hh : h.Grounded) {n height : Nat} (hn : h.heights[n]? = some height) :
    ((h.release n).stack.scopes <+: h.stack.scopes ↔ height ≤ h.stack.height)
    ∧ (height ≤ h.stack.height → (h.release n).stack.scopes = h.stack.scopes.take height)
    ∧ (h.stack.height < height →
        h.stack.scopes <+: (h.release n).stack.scopes ∧ (h.release n).stack.scopes.length = height) := by
  have hlength : (h.stack.release height).scopes.length = height :=
    ScopeStack.length_scopes_release (hh.noted height (List.mem_of_getElem? hn)).2
  rw [release_of_height hn]
  refine ⟨⟨?_, ?_⟩, ScopeStack.scopes_release_of_le, ?_⟩
  · intro hprefix
    rw [← hlength, ← h.stack.length_scopes]
    exact hprefix.length_le
  · intro hle
    show (h.stack.release height).scopes <+: _
    rw [ScopeStack.scopes_release_of_le hle]
    exact List.take_prefix _ _
  · intro hlt
    exact ⟨ScopeStack.scopes_isPrefix_release (Nat.le_of_lt hlt), hlength⟩

/-- The name that was entered last at a height, that is, on a stack with so many scopes. -/
inductive EnteredLast : List ScopeUse → Nat → String → Prop
  | now (uses : List ScopeUse) (name : String) :
      EnteredLast (uses ++ [.enter name]) (start.after uses).stack.height name
  | earlier {uses : List ScopeUse} {k : Nat} {name : String} (u : ScopeUse) (h : EnteredLast uses k name)
      (hother : ∀ other, u = .enter other → (start.after uses).stack.height ≠ k) : EnteredLast (uses ++ [u]) k name

/-- Above the bottom each cell holds the name that was entered last at its height. -/
theorem getElem?_cells_after (uses : List ScopeUse) {k : Nat} (hk : 0 < k) (name : String) :
    (start.after uses).stack.cells[k]? = some name ↔ EnteredLast uses k name := by
  -- from the last use backwards, since only the last name at a height counts
  constructor
  · induction uses using List.reverseRecOn with
    | nil =>
      intro hcell
      have hnone : (start.after []).stack.cells[k]? = none := List.getElem?_eq_none hk
      rw [hnone] at hcell
      cases hcell
    | append_singleton uses u ih =>
      intro hcell
      rw [after_concat] at hcell
      cases u with
      | release n =>
        refine .earlier _ (ih ?_) (fun other hu => nomatch hu)
        rw [← cells_release _ n]
        exact hcell
      | enter other =>
        rw [show ((start.after uses).perform (.enter other)).stack = (start.after uses).stack.enter other from rfl,
          ScopeStack.getElem?_cells_enter] at hcell
        by_cases hheight : k = (start.after uses).stack.height
        · rw [if_pos hheight] at hcell
          rw [← Option.some.inj hcell, hheight]
          exact .now uses other
        · rw [if_neg hheight] at hcell
          exact .earlier _ (ih hcell) fun _ _ => Ne.symm hheight
  · intro hlast
    induction hlast with
    | now uses name =>
      rw [after_concat]
      show ((start.after uses).stack.enter name).cells[(start.after uses).stack.height]? = some name
      rw [ScopeStack.getElem?_cells_enter, if_pos rfl]
    | @earlier uses k name u _ hother ih =>
      rw [after_concat]
      cases u with
      | release n =>
        show ((start.after uses).release n).stack.cells[k]? = some name
        rw [cells_release]
        exact ih hk
      | enter other =>
        show ((start.after uses).stack.enter other).cells[k]? = some name
        rw [ScopeStack.getElem?_cells_enter, if_neg (Ne.symm (hother other rfl))]
        exact ih hk

/-! ## Since a scope was entered -/

/-- The height of a scope is known from the moment when it is entered. -/
theorem heights_isPrefix_after (h : ScopeHistory) (uses : List ScopeUse) : h.heights <+: (h.after uses).heights := by
  induction uses generalizing h with
  | nil => exact List.prefix_refl _
  | cons u rest ih =>
    cases u with
    | enter name => exact (List.prefix_append _ _).trans (ih (h.enter name))
    | release n =>
      have hrest := ih (h.release n)
      rw [heights_release] at hrest
      exact hrest

/-- As long as the stack stays above a height, the scopes below it are not touched. -/
theorem isPrefix_after {base : ScopeStack} (hbase : base.scopes <+: h.stack.scopes)
    (habove : ∀ part, part <+: uses → base.height < (h.after part).stack.height) :
    base.scopes <+: (h.after uses).stack.scopes := by
  induction uses using List.reverseRecOn with
  | nil => exact hbase
  | append_singleton uses u ih =>
    have hbefore := ih fun part hpart => habove part (hpart.trans (List.prefix_append _ _))
    have hlast := habove (uses ++ [u]) (List.prefix_refl _)
    rw [after_concat] at hlast ⊢
    cases u with
    | enter name =>
      show base.scopes <+: ((h.after uses).stack.enter name).scopes
      rw [ScopeStack.scopes_enter]
      exact hbefore.trans (List.prefix_append _ _)
    | release n =>
      rcases (h.after uses).release_cases n with heq | ⟨height, -, heq⟩
      · show base.scopes <+: ((h.after uses).release n).stack.scopes
        rw [heq]
        exact hbefore
      · have hheight : base.height < ((h.after uses).release n).stack.height := hlast
        show base.scopes <+: ((h.after uses).release n).stack.scopes
        rw [heq] at hheight ⊢
        exact ScopeStack.isPrefix_release hbefore (Nat.le_of_lt hheight)

/-- A release that nothing has undercut leads back to the stack from before its scope was entered. -/
theorem scopes_release_after_enter (h : ScopeHistory) (name : String) (later : List ScopeUse)
    (habove : ∀ part, part <+: later → h.stack.height < ((h.enter name).after part).stack.height) :
    (((h.enter name).after later).release h.heights.length).stack.scopes = h.stack.scopes := by
  have hnoted : ((h.enter name).after later).heights[h.heights.length]? = some h.stack.height := by
    obtain ⟨more, hmore⟩ := heights_isPrefix_after (h.enter name) later
    rw [← hmore]
    show (h.heights ++ [h.stack.height] ++ more)[h.heights.length]? = _
    rw [List.append_assoc, List.getElem?_append_right (Nat.le_refl _), Nat.sub_self]
    rfl
  have hentered : h.stack.scopes <+: (h.enter name).stack.scopes := by
    show _ <+: (h.stack.enter name).scopes
    rw [ScopeStack.scopes_enter]
    exact List.prefix_append _ _
  rw [release_of_height hnoted]
  exact ScopeStack.scopes_release_of_isPrefix (isPrefix_after hentered habove)

/-- However scopes are entered and released, in any order and as often as one likes, the global scope is at the bottom
and above it stands at each height the name that was entered last there. A release leaves a prefix of the stack that it
finds exactly if the stack is at least as high as it was when the scope was entered; then it takes off what is above
that height. Else it puts names on the stack, up to that height. If the stack has stayed above the height at which a
scope was entered, releasing the scope leads back to the stack from before. -/
theorem scopes_after_uses (uses : List ScopeUse) :
    let h := start.after uses
    h.stack.scopes[0]? = some ScopeStack.globalName
    ∧ (∀ k name, 0 < k → k < h.stack.height → (h.stack.scopes[k]? = some name ↔ EnteredLast uses k name))
    ∧ (∀ n height, h.heights[n]? = some height →
        ((h.release n).stack.scopes <+: h.stack.scopes ↔ height ≤ h.stack.height)
        ∧ (height ≤ h.stack.height → (h.release n).stack.scopes = h.stack.scopes.take height)
        ∧ (h.stack.height < height →
            h.stack.scopes <+: (h.release n).stack.scopes ∧ (h.release n).stack.scopes.length = height))
    ∧ ∀ before name later, uses = before ++ .enter name :: later →
        (∀ part, part <+: later →
          (start.after before).stack.height < (start.after (before ++ .enter name :: part)).stack.height) →
        (h.release (start.after before).heights.length).stack.scopes = (start.after before).stack.scopes := by
  intro h
  have hgrounded : h.Grounded := grounded_start.after uses
  refine ⟨?_, ?_, fun n height => hgrounded.scopes_release, ?_⟩
  · rw [ScopeStack.getElem?_scopes hgrounded.height_pos]
    exact hgrounded.bottom
  · intro k name hk hlt
    rw [ScopeStack.getElem?_scopes hlt]
    exact getElem?_cells_after uses hk name
  · intro before name later huses habove
    have hafter : ∀ part, start.after (before ++ .enter name :: part)
        = ((start.after before).enter name).after part := fun part => after_append start before (.enter name :: part)
    have hh : h = ((start.after before).enter name).after later := by
      rw [← hafter, ← huses]
    rw [hh]
    refine scopes_release_after_enter (start.after before) name later fun part hpart => ?_
    rw [← hafter]
    exact habove part hpart

/-- The scope `d` is released before `e`, which was entered inside of it, so that the release of `e` puts `d` back.
All of this happens above the height of `c`. -/
theorem scopes_after_uses_crossing :
    let before : List ScopeUse := [.enter "a", .enter "b", .release 1]
    let later : List ScopeUse := [.enter "d", .enter "e", .release 3, .release 4, .enter "f"]
    let h := start.after (before ++ .enter "c" :: later)
    (∀ part, part <+: later →
        (start.after before).stack.height < (start.after (before ++ .enter "c" :: part)).stack.height)
      ∧ h.stack.scopes = ["global", "a", "c", "d", "f"] ∧ EnteredLast (before ++ .enter "c" :: later) 3 "d"
      ∧ h.heights[3]? = some 3 ∧ (h.release 3).stack.scopes = h.stack.scopes.take 3
      ∧ (h.release 2).stack.scopes = (start.after before).stack.scopes := by
  intro before later h
  have habove : ∀ part, part <+: later →
      (start.after before).stack.height < (start.after (before ++ .enter "c" :: part)).stack.height := by
    intro part hpart
    have hall : ∀ part ∈ later.inits,
        (start.after before).stack.height < (start.after (before ++ .enter "c" :: part)).stack.height := by decide
    exact hall part ((List.mem_inits _ _).mpr hpart)
  obtain ⟨-, hlast, hrelease, hrestores⟩ := scopes_after_uses (before ++ .enter "c" :: later)
  have hnoted : h.heights[3]? = some 3 := by decide
  refine ⟨habove, by decide, ?_, hnoted, ?_, hrestores before "c" later rfl habove⟩
  · exact (hlast 3 "d" (by decide) (by decide)).mp (by decide)
  · exact (hrelease 3 3 hnoted).2.1 (by decide)

/-- The outer scope is released first. When the inner one is released afterwards, the outer one is there again. -/
theorem late_release_brings_back :
    let found := start.after [.enter "outer", .enter "inner", .release 0]
    found.stack.scopes = ["global"] ∧ (found.release 1).stack.scopes = ["global", "outer"]
      ∧ ¬ (found.release 1).stack.scopes <+: found.stack.scopes := by
  decide

end ScopeHistory

end ModuleLint
