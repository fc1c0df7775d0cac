import Mathlib.Data.List.Forall2
import ModuleLint.Proofs.Rule.Configuration
import ModuleLint.Proofs.Text.ByteOrder
import ModuleLint.Proofs.Text.Nearest

/-!
# The faults of the settings

Two parts of the settings can be at fault, the disabled codes and the severities. Both are lists of items
(`Catalog.items`), and each item is at fault or not by itself (`Item.Faulty`). The reported faults are those of the faulty
items, one for each and in the order of the items (`forall₂_filterMap_fault?`). What a fault says is told by
`Item.Reported`: the code as it was compared, and for an unknown code the known one that was probably meant.

The severities are a map. Their items are ordered by key, so the faults do not depend on how the map is enumerated
(`sortedSeverities_eq_of_perm`).
-/

set_option autoImplicit false

namespace ModuleLint

/-- The settings have distinct keys of severities, and their texts are held in memory. -/
structure RuleSettings.Given (s : RuleSettings) : Prop where
  nodup_keys : (s.severity.map Prod.fst).Nodup
  fits_disabled : ∀ code ∈ s.disabled, Text.FitsMemory code
  fits_keys : ∀ entry ∈ s.severity, Text.FitsMemory entry.1

namespace Text

/-- A shorter text fits as well. -/
theorem FitsMemory.of_length_le {s t : String} (h : FitsMemory s) (hle : t.length ≤ s.length) : FitsMemory t := by
  unfold FitsMemory at h ⊢
  omega

/-- Upper case is as long. -/
theorem length_upper (s : String) : (upper s).length = s.length := by
  simp [upper, String.length_toList]

/-- Trimming makes no text longer. -/
theorem length_trim_le (s : String) : (trim s).length ≤ s.length := by
  have hback := (List.dropWhile_sublist isBlank (l := (s.toList.dropWhile isBlank).reverse)).length_le
  have hfront := (List.dropWhile_sublist isBlank (l := s.toList)).length_le
  rw [List.length_reverse] at hback
  rw [trim, trimEnds, String.length_ofList, List.length_reverse, ← String.length_toList (s := s)]
  omega

end Text

namespace Catalog

/-- Whether a text is the name of a level, in any case and with white space around it. -/
def NamesLevel (s : String) : Prop := ∃ level ∈ Severity.all, Text.upper (Text.trim s) = level.name

instance (s : String) : Decidable (NamesLevel s) :=
  inferInstanceAs (Decidable (∃ level ∈ Severity.all, Text.upper (Text.trim s) = level.name))

/-- What is suggested for an unknown code: the first of the nearest known codes, if that is at most two edits away. -/
structure Suggestion (known : List String) (code : String) (hint : Option String) : Prop where
  isSome_iff : hint.isSome ↔ ∃ c ∈ known, Text.distance code c ≤ 2
  nearest : ∀ c, hint = some c → Text.IsFirstNearest code known c

/-- A part of the settings that can be at fault. -/
inductive Item where
  | disabled (code : String)
  | severity (key level : String)
deriving Repr, DecidableEq

namespace Item

/-- Whether an item is at fault: it spells no known code, or its level has no such name. -/
def Faulty (known : List String) : Item → Prop
  | disabled code => Text.upper (Text.trim code) ∉ known
  | severity key level => Text.upper key ∉ known ∨ ¬ NamesLevel level

instance (known : List String) : (item : Item) → Decidable (item.Faulty known)
  | disabled code => inferInstanceAs (Decidable (Text.upper (Text.trim code) ∉ known))
  | severity key level => inferInstanceAs (Decidable (Text.upper key ∉ known ∨ ¬ NamesLevel level))

/-- The faults that are reported for an item. A level is looked at only under a known code. -/
inductive Reported (known : List String) : Item → CatalogError → Prop
  | disabled (code : String) {hint : Option String} (hunknown : Text.upper (Text.trim code) ∉ known)
      (hhint : Suggestion known (Text.upper (Text.trim code)) hint) :
      Reported known (.disabled code) (.unknownRule "disabled" (Text.upper (Text.trim code)) hint)
  | key (key level : String) {hint : Option String} (hunknown : Text.upper key ∉ known)
      (hhint : Suggestion known (Text.upper key) hint) :
      Reported known (.severity key level) (.unknownRule "severity override" (Text.upper key) hint)
  | level (key level : String) (hknown : Text.upper key ∈ known) (hlevel : ¬ NamesLevel level) :
      Reported known (.severity key level) (.unknownSeverity (Text.upper key) level)

end Item

/-- The items of the settings: the disabled codes as they are listed, then the severities in a given order. -/
def items (s : RuleSettings) (severities : List (String × String)) : List Item :=
  s.disabled.map .disabled ++ severities.map fun entry => .severity entry.1 entry.2

/-- The fault of an item, if it is at fault. -/
def fault? (s : RuleSettings) : Item → Option CatalogError
  | .disabled code =>
    if (codes s).contains (normalizeCode code) then none
    else some (unknown (codes s) "disabled" (normalizeCode code))
  | .severity key level => severityFault? s (key, level)

/-- The faults are looked for item by item. -/
theorem faults_eq_filterMap (s : RuleSettings) :
    faults s = (items s (sortedSeverities s)).filterMap (fault? s) := by
  have hdisabled : disabledFaults s = (s.disabled.map Item.disabled).filterMap (fault? s) := by
    unfold disabledFaults
    rw [List.filterMap_map, List.filterMap_map]
    exact List.filterMap_congr fun code _ => by simp only [Function.comp_apply, fault?]
  have hseverity : (sortedSeverities s).filterMap (severityFault? s)
      = ((sortedSeverities s).map fun entry => Item.severity entry.1 entry.2).filterMap (fault? s) := by
    rw [List.filterMap_map]
    exact List.filterMap_congr fun entry _ => by simp only [Function.comp_apply, fault?]
  rw [faults, hdisabled, hseverity, items, List.filterMap_append]

/-! ## One item -/

/-- A text is rejected as a level when it is not the name of one. -/
theorem parse?_eq_none_iff (s : String) : Severity.parse? s = none ↔ ¬ NamesLevel s := by
  unfold Severity.parse? Severity.ofName? NamesLevel
  rw [List.find?_eq_none]
  constructor
  · rintro h ⟨level, hlevel, heq⟩
    exact h level hlevel (by simp [heq])
  · intro h level hlevel heq
    exact h ⟨level, hlevel, (of_decide_eq_true heq).symm⟩

/-- A fault is found in the items that are at fault. -/
theorem fault?_eq_none_iff (s : RuleSettings) (item : Item) :
    fault? s item = none ↔ ¬ item.Faulty (codes s) := by
  cases item with
  | disabled code => simp [fault?, Item.Faulty, normalizeCode]
  | severity key level =>
    by_cases hknown : Text.upper key ∈ codes s
    · cases hparse : Severity.parse? level with
      | none =>
        have hlevel := (parse?_eq_none_iff level).mp hparse
        simp [fault?, severityFault?, Item.Faulty, hknown, hparse, hlevel]
      | some l =>
        have hlevel : NamesLevel level := by
          by_contra hnot
          rw [(parse?_eq_none_iff level).mpr hnot] at hparse
          cases hparse
        simp [fault?, severityFault?, Item.Faulty, hknown, hparse, hlevel]
    · simp [fault?, severityFault?, Item.Faulty, hknown]

/-- The codes of the catalog fit into memory. -/
theorem fits_codes (s : RuleSettings) : ∀ c ∈ codes s, Text.FitsMemory c := by
  have hsame : codes s = codes RuleSettings.default := rfl
  have hshort : ∀ c ∈ codes s, c.length = 6 := by
    rw [hsame]
    decide
  intro c hc
  unfold Text.FitsMemory
  rw [hshort c hc, Text.toInt_maxValue]
  omega

/-- The hint for an unknown code comes from the search for the nearest known one. -/
theorem exists_unknown_eq (s : RuleSettings) (place : String) {code : String} (hcode : Text.FitsMemory code) :
    ∃ hint, unknown (codes s) place code = .unknownRule place code hint ∧ Suggestion (codes s) code hint := by
  have htwo : hintDistance.toInt = 2 := rfl
  have hlimit : hintDistance ≠ Int64.maxValue := by decide
  unfold unknown
  rcases Text.closest_cases hlimit hcode (fits_codes s) with ⟨heq, hfar⟩ | ⟨best, heq, hbest, hle⟩
  · refine ⟨none, by simp [heq], ⟨by simp, ?_⟩, by simp⟩
    rintro ⟨c, hc, hnear⟩
    have := hfar c hc
    omega
  · refine ⟨some best, by simp [heq], ⟨fun _ => ⟨best, hbest.mem, by omega⟩, by simp⟩, ?_⟩
    rintro c hc
    exact Option.some.inj hc ▸ hbest

/-- What is found in an item is a fault that is reported for it. -/
theorem reported_of_fault? {s : RuleSettings} (hs : s.Given) {severities : List (String × String)}
    (hsub : severities ⊆ s.severity) {item : Item} (hitem : item ∈ items s severities) {e : CatalogError}
    (hfault : fault? s item = some e) : item.Reported (codes s) e := by
  cases item with
  | disabled code =>
    have hmem : code ∈ s.disabled := by simpa [items] using hitem
    have hfits : Text.FitsMemory (normalizeCode code) := (hs.fits_disabled code hmem).of_length_le
      (by rw [normalizeCode, Text.length_upper]; exact Text.length_trim_le code)
    obtain ⟨hint, hunknown, hhint⟩ := exists_unknown_eq s "disabled" hfits
    rw [fault?, hunknown] at hfault
    split at hfault
    · cases hfault
    · rename_i hnot
      cases hfault
      exact .disabled code (by simpa [normalizeCode] using hnot) hhint
  | severity key level =>
    have hmem : (key, level) ∈ severities := by simpa [items] using hitem
    have hfits : Text.FitsMemory (Text.upper key) :=
      (hs.fits_keys _ (hsub hmem)).of_length_le (Text.length_upper key).le
    obtain ⟨hint, hunknown, hhint⟩ := exists_unknown_eq s "severity override" hfits
    simp only [fault?, severityFault?, hunknown] at hfault
    split at hfault
    · rename_i hknown
      cases hparse : Severity.parse? level with
      | some l => simp [hparse] at hfault
      | none =>
        simp only [hparse] at hfault
        cases hfault
        exact .level key level (by simpa using hknown) ((parse?_eq_none_iff level).mp hparse)
    · rename_i hnot
      cases hfault
      exact .key key level (by simpa using hnot) hhint

/-! ## All items -/

/-- The faults are those of the faulty items, one for each and in their order. -/
theorem forall₂_filterMap_fault? {s : RuleSettings} {listed : List Item}
    (hreported : ∀ item ∈ listed, ∀ e, fault? s item = some e → item.Reported (codes s) e) :
    List.Forall₂ (Item.Reported (codes s)) (listed.filter fun item => item.Faulty (codes s))
      (listed.filterMap (fault? s)) := by
  induction listed with
  | nil => exact .nil
  | cons item rest ih =>
    have hrest := ih fun i hi => hreported i (List.mem_cons_of_mem item hi)
    cases hfault : fault? s item with
    | none =>
      have hnot := (fault?_eq_none_iff s item).mp hfault
      rw [List.filterMap_cons_none hfault, List.filter_cons_of_neg (by simpa using hnot)]
      exact hrest
    | some e =>
      have hfaulty : item.Faulty (codes s) := by
        by_contra hnot
        rw [(fault?_eq_none_iff s item).mpr hnot] at hfault
        cases hfault
      rw [List.filterMap_cons_some hfault, List.filter_cons_of_pos (by simpa using hfaulty)]
      exact .cons (hreported item List.mem_cons_self e hfault) hrest

/-- A selection fails with all faults when there are any. -/
theorem select_eq_error_iff {s : RuleSettings} {es : List CatalogError} :
    select s = .error es ↔ faults s = es ∧ es ≠ [] := by
  unfold select
  cases hfaults : faults s with
  | nil => simp
  | cons e rest =>
    simp only [Except.error.injEq]
    constructor
    · rintro rfl
      exact ⟨rfl, List.cons_ne_nil e rest⟩
    · exact And.left

/-- There are faults when an item is at fault. -/
theorem faults_ne_nil_iff (s : RuleSettings) :
    faults s ≠ [] ↔ ∃ item ∈ items s (sortedSeverities s), item.Faulty (codes s) := by
  rw [faults_eq_filterMap, Ne, List.filterMap_eq_nil_iff]
  simp only [fault?_eq_none_iff, not_forall, not_not, exists_prop]

/-- A severity is at fault in one of two ways, since an unknown code hides its level. -/
theorem exists_faulty_iff {s : RuleSettings} {severities : List (String × String)}
    (hperm : severities.Perm s.severity) (known : List String) :
    (∃ item ∈ items s severities, item.Faulty known) ↔
      (∃ code ∈ s.disabled, Text.upper (Text.trim code) ∉ known)
      ∨ (∃ entry ∈ s.severity, Text.upper entry.1 ∉ known)
      ∨ ∃ entry ∈ s.severity, Text.upper entry.1 ∈ known ∧ ¬ NamesLevel entry.2 := by
  constructor
  · rintro ⟨item, hitem, hfaulty⟩
    rcases List.mem_append.mp hitem with hitem | hitem
    · obtain ⟨code, hcode, rfl⟩ := List.mem_map.mp hitem
      exact .inl ⟨code, hcode, hfaulty⟩
    · obtain ⟨entry, hentry, rfl⟩ := List.mem_map.mp hitem
      have hentry := hperm.subset hentry
      by_cases hknown : Text.upper entry.1 ∈ known
      · exact .inr (.inr ⟨entry, hentry, hknown, hfaulty.resolve_left (not_not_intro hknown)⟩)
      · exact .inr (.inl ⟨entry, hentry, hknown⟩)
  · have hmem : ∀ entry ∈ s.severity, Item.severity entry.1 entry.2 ∈ items s severities := fun entry hentry =>
      List.mem_append_right _ (List.mem_map.mpr ⟨entry, hperm.symm.subset hentry, rfl⟩)
    rintro (⟨code, hcode, hunknown⟩ | ⟨entry, hentry, hunknown⟩ | ⟨entry, hentry, -, hlevel⟩)
    · exact ⟨.disabled code, List.mem_append_left _ (List.mem_map_of_mem hcode), hunknown⟩
    · exact ⟨_, hmem entry hentry, .inl hunknown⟩
    · exact ⟨_, hmem entry hentry, .inr hlevel⟩

/-- Distinct keys are sorted strictly, by their bytes. -/
theorem pairwise_bytes_sortedSeverities {s : RuleSettings} (hkeys : (s.severity.map Prod.fst).Nodup) :
    (sortedSeverities s).Pairwise fun a b => Text.bytes a.1 < Text.bytes b.1 := by
  have hnodup : ((sortedSeverities s).map Prod.fst).Nodup :=
    ((List.mergeSort_perm ..).map Prod.fst).nodup_iff.mpr hkeys
  -- sorting gives `≤` only; that no key is there twice makes the order strict
  have hne : (sortedSeverities s).Pairwise fun a b => a.1 ≠ b.1 := List.pairwise_map.mp hnodup
  exact (pairwise_sortedSeverities s).imp₂ (fun a b hle hne => Text.bytes_lt_iff.mpr (lt_of_le_of_ne hle hne)) hne

/-- The order in which a map is enumerated does not matter. -/
theorem sortedSeverities_eq_of_perm {s : RuleSettings} (hkeys : (s.severity.map Prod.fst).Nodup)
    {order : List (String × String)} (hperm : order.Perm s.severity) :
    sortedSeverities { s with severity := order } = sortedSeverities s := by
  have hsorted : (sortedSeverities { s with severity := order }).Perm (sortedSeverities s) :=
    (List.mergeSort_perm ..).trans (hperm.trans (List.mergeSort_perm ..).symm)
  refine hsorted.eq_of_pairwise ?_ (pairwise_sortedSeverities _) (pairwise_sortedSeverities s)
  intro a b ha hb hab hba
  have ha : a ∈ s.severity := hperm.subset ((List.mergeSort_perm ..).subset ha)
  have hb : b ∈ s.severity := (List.mergeSort_perm ..).subset hb
  exact List.inj_on_of_nodup_map hkeys ha hb (le_antisymm hab hba)

/-- The order in which the severities are given does not matter. -/
theorem select_eq_of_perm {s : RuleSettings} (hkeys : (s.severity.map Prod.fst).Nodup)
    {order : List (String × String)} (hperm : order.Perm s.severity) :
    select { s with severity := order } = select s := by
  have hsorted := sortedSeverities_eq_of_perm hkeys hperm
  have hfaults : faults { s with severity := order } = faults s := by
    unfold faults
    rw [hsorted]
    rfl
  have hactive : active { s with severity := order } = active s := by
    unfold active
    rw [hsorted]
    rfl
  unfold select
  rw [hfaults, hactive]

end Catalog

/-- Settings are rejected exactly if an item is at fault: a disabled code or a key of the severities is unknown, or there
is an unknown level under a known code. The faults are then reported one for each faulty item, first the disabled codes as
they are listed and then the severities by the bytes of their keys. The outcome does not depend on the order in which the
severities are enumerated. -/
theorem select_reports_each_fault {s : RuleSettings} (hs : s.Given) :
    ((∃ es, Catalog.select s = .error es) ↔
      (∃ code ∈ s.disabled, Text.upper (Text.trim code) ∉ Catalog.codes s)
      ∨ (∃ entry ∈ s.severity, Text.upper entry.1 ∉ Catalog.codes s)
      ∨ ∃ entry ∈ s.severity, Text.upper entry.1 ∈ Catalog.codes s ∧ ¬ Catalog.NamesLevel entry.2)
    ∧ (∀ order : List (String × String), order.Perm s.severity →
        Catalog.select { s with severity := order } = Catalog.select s)
    ∧ ∃ severities : List (String × String), severities.Perm s.severity
      ∧ severities.Pairwise (fun a b => Text.bytes a.1 < Text.bytes b.1)
      ∧ ∀ es, Catalog.select s = .error es →
          List.Forall₂ (Catalog.Item.Reported (Catalog.codes s))
            ((Catalog.items s severities).filter fun item => item.Faulty (Catalog.codes s)) es := by
  have hperm : (Catalog.sortedSeverities s).Perm s.severity := List.mergeSort_perm ..
  refine ⟨?_, fun order horder => Catalog.select_eq_of_perm hs.nodup_keys horder,
    Catalog.sortedSeverities s, hperm, Catalog.pairwise_bytes_sortedSeverities hs.nodup_keys, ?_⟩
  · have hfails : (∃ es, Catalog.select s = .error es) ↔ Catalog.faults s ≠ [] := by
      simp [Catalog.select_eq_error_iff]
    rw [hfails, Catalog.faults_ne_nil_iff]
    exact Catalog.exists_faulty_iff hperm (Catalog.codes s)
  · intro es hes
    obtain ⟨rfl, -⟩ := Catalog.select_eq_error_iff.mp hes
    rw [Catalog.faults_eq_filterMap]
    exact Catalog.forall₂_filterMap_fault? fun item hitem e he =>
      Catalog.reported_of_fault? hs hperm.subset hitem he

/-- Settings with two unknown codes among the disabled ones, two unknown keys and an unknown level. -/
def mistyped : RuleSettings :=
  { RuleSettings.default with
    disabled := [" vra-01 ", "var-02", "zzz-99"]
    severity := [("FUN-99", "loud"), ("FUN01", "info"), ("dfa-01", " Error "), ("var-02", "loud")] }

def mistypedFaults : List CatalogError :=
  [ .unknownRule "disabled" "VRA-01" (some "VAR-01"), .unknownRule "disabled" "ZZZ-99" none,
    .unknownRule "severity override" "FUN-99" (some "FUN-01"),
    .unknownRule "severity override" "FUN01" (some "FUN-01"), .unknownSeverity "VAR-02" "loud" ]

/-- What is reported for the mistyped settings. -/
theorem select_mistyped : Catalog.select mistyped = .error mistypedFaults := by
  have hsorted : Catalog.sortedSeverities mistyped = mistyped.severity :=
    List.mergeSort_of_pairwise (by decide +kernel)
  refine Catalog.select_eq_error_iff.mpr ⟨?_, by decide⟩
  unfold Catalog.faults
  rw [hsorted]
  decide +kernel

/-- The first code is two edits away from two known ones, and the unknown level under an unknown key is not
reported. -/
theorem select_reports_each_fault_mistyped :
    mistyped.Given ∧ Catalog.select mistyped = .error mistypedFaults
    ∧ ∃ severities : List (String × String), severities.Perm mistyped.severity
      ∧ severities.Pairwise (fun a b => Text.bytes a.1 < Text.bytes b.1)
      ∧ List.Forall₂ (Catalog.Item.Reported (Catalog.codes mistyped))
          ((Catalog.items mistyped severities).filter fun item => item.Faulty (Catalog.codes mistyped))
          mistypedFaults := by
  have hgiven : mistyped.Given :=
    { nodup_keys := by decide
      fits_disabled := by unfold Text.FitsMemory; decide
      fits_keys := by unfold Text.FitsMemory; decide }
  obtain ⟨-, -, severities, hperm, hpairwise, hreported⟩ := select_reports_each_fault hgiven
  exact ⟨hgiven, select_mistyped, severities, hperm, hpairwise, hreported _ select_mistyped⟩

end ModuleLint
