import ModuleLint.Distinct

/-!
# Dictionaries

A dictionary keeps values by their keys, each key at most once. Keys stay in the order in which they
were first given a value.
-/

set_option autoImplicit false

namespace ModuleLint

/-- Values by their keys. -/
structure Dictionary (κ ν : Type) where
  entries : List (κ × ν)
  nodup : (entries.map Prod.fst).Nodup
deriving Repr

namespace Dictionary

variable {κ ν : Type} [DecidableEq κ]

instance [DecidableEq ν] : DecidableEq (Dictionary κ ν) := fun c d =>
  decidable_of_iff (c.entries = d.entries)
    ⟨fun h => by cases c; cases d; cases h; rfl, fun h => congrArg Dictionary.entries h⟩

/-- The dictionary without keys. -/
def empty : Dictionary κ ν := { entries := [], nodup := List.nodup_nil }

instance : Inhabited (Dictionary κ ν) := ⟨empty⟩

/-- The keys in the order first seen. -/
def keys (d : Dictionary κ ν) : List κ := d.entries.map Prod.fst

/-- The value of a key. -/
def get? (d : Dictionary κ ν) (key : κ) : Option ν := d.entries.lookup key

/-- Entries in which a key has a new value: in its old place, or at the end. -/
def putEntry (key : κ) (value : ν) : List (κ × ν) → List (κ × ν)
  | [] => [(key, value)]
  | entry :: rest =>
    if entry.1 = key then (key, value) :: rest else entry :: putEntry key value rest

/-- A new key comes last, and one that is there stays where it is. -/
theorem map_fst_putEntry (key : κ) (value : ν) (entries : List (κ × ν)) :
    (putEntry key value entries).map Prod.fst = insertNew (entries.map Prod.fst) key := by
  induction entries with
  | nil => rfl
  | cons entry rest ih =>
    unfold putEntry
    by_cases hkey : entry.1 = key
    · simp [hkey, insertNew]
    · rw [if_neg hkey, List.map_cons, List.map_cons, ih, insertNew_cons_of_ne hkey]

/-- Gives a key a value, in place of the one it may have. -/
def put (d : Dictionary κ ν) (key : κ) (value : ν) : Dictionary κ ν :=
  { entries := putEntry key value d.entries
    nodup := by
      rw [map_fst_putEntry]
      exact nodup_insertNew d.nodup key }

/-- An empty dictionary answers nothing. -/
@[simp] theorem get?_empty (key : κ) : (empty : Dictionary κ ν).get? key = none := rfl

/-- Of the keys only the given one can be new. -/
@[simp] theorem keys_put (d : Dictionary κ ν) (key : κ) (value : ν) :
    (d.put key value).keys = insertNew d.keys key :=
  map_fst_putEntry key value d.entries

/-- An entry with another key does not matter. -/
theorem lookup_cons_of_ne {key other : κ} (h : other ≠ key) (value : ν)
    (rest : List (κ × ν)) :
    ((key, value) :: rest).lookup other = rest.lookup other := by
  rw [List.lookup_cons, beq_eq_false_iff_ne.mpr h]

/-- What was put is found under its key, and nothing else changes. -/
theorem lookup_putEntry (key other : κ) (value : ν) (entries : List (κ × ν)) :
    (putEntry key value entries).lookup other
      = if other = key then some value else entries.lookup other := by
  induction entries with
  | nil =>
    unfold putEntry
    by_cases hother : other = key
    · simp [hother]
    · rw [lookup_cons_of_ne hother, if_neg hother]
  | cons entry rest ih =>
    obtain ⟨k, v⟩ := entry
    unfold putEntry
    by_cases hkey : k = key
    · subst hkey
      by_cases hother : other = k
      · simp [hother]
      · rw [if_pos rfl, if_neg hother, lookup_cons_of_ne hother, lookup_cons_of_ne hother]
    · rw [if_neg hkey]
      by_cases hother : other = k
      · simp [hother, hkey]
      · rw [lookup_cons_of_ne hother, lookup_cons_of_ne hother, ih]

/-- A key has the value that it was given last. -/
theorem get?_put (d : Dictionary κ ν) (key other : κ) (value : ν) :
    (d.put key value).get? other = if other = key then some value else d.get? other :=
  lookup_putEntry key other value d.entries

/-- What was put last under a key is found there. -/
@[simp] theorem get?_put_self (d : Dictionary κ ν) (key : κ) (value : ν) :
    (d.put key value).get? key = some value := by
  rw [get?_put, if_pos rfl]

/-- Something is found just under the keys of the entries. -/
theorem isSome_lookup_iff (key : κ) (entries : List (κ × ν)) :
    (entries.lookup key).isSome = true ↔ key ∈ entries.map Prod.fst := by
  induction entries with
  | nil => simp
  | cons entry rest ih =>
    obtain ⟨k, v⟩ := entry
    by_cases hkey : key = k
    · simp [hkey]
    · rw [lookup_cons_of_ne hkey, ih, List.map_cons, List.mem_cons, or_iff_right hkey]

/-- Just the keys of a dictionary have values. -/
theorem isSome_get?_iff (d : Dictionary κ ν) (key : κ) :
    (d.get? key).isSome = true ↔ key ∈ d.keys :=
  isSome_lookup_iff key d.entries

end Dictionary

end ModuleLint
