import Mathlib.Data.List.MinMax
import Mathlib.Data.String.Basic
import ModuleLint.Proofs.Rule.Stamping

/-!
# What settings change

Settings leave out the rules with disabled codes and change the severity of others, and the violations show just
that: an analysis under accepted settings finds what it would find without disabled codes and severities, less
the violations of disabled codes and with some severities replaced. Where several keys spell one code, the
greatest of them counts, since the severities are applied by increasing key.
-/

set_option autoImplicit false

namespace ModuleLint

namespace RuleSettings

/-- Whether one of the disabled codes spells this one. -/
def disables (s : RuleSettings) (code : String) : Bool :=
  s.disabled.any fun entry => Text.upper (Text.trim entry) == code

/-- The severity for a code: the one under the greatest of the keys that spell it. -/
def overriding? (s : RuleSettings) (code : String) : Option Severity :=
  ((s.severity.filter fun entry => Text.upper entry.1 == code).argmax Prod.fst).bind fun entry =>
    Severity.parse? entry.2

end RuleSettings

/-- The violation with the severity of its level, if one is given. -/
def Violation.regrade (level? : Option Severity) (v : Violation) : Violation :=
  match level? with
  | some level => v.withSeverity level.name
  | none => v

/-- A level does not matter for the order of violations. -/
theorem Violation.compare_regrade (a b : Violation) (level level' : Option Severity) :
    compare (a.regrade level) (b.regrade level') = compare a b := by
  cases level <;> cases level' <;> rfl

/-- A violation keeps its code when it is given another level. -/
theorem Violation.code_regrade (v : Violation) (level? : Option Severity) :
    (v.regrade level?).code = v.code := by
  cases level? <;> rfl

namespace Rule

def regrade (level? : Option Severity) (r : Rule) : Rule :=
  match level? with
  | some level => r.withSeverity level.name
  | none => r

/-- A rule keeps its code when it is given another level. -/
theorem info_code_regrade (r : Rule) (level? : Option Severity) :
    (r.regrade level?).info.code = r.info.code := by
  cases level? <;> rfl

/-- A rule keeps its behaviour when it is given another level. -/
theorem behaviour_regrade (r : Rule) (level? : Option Severity) :
    (r.regrade level?).behaviour = r.behaviour := by
  cases level? <;> rfl

/-- Of two levels the later one counts. -/
theorem regrade_regrade (r : Rule) (first : Option Severity) (level : Severity) :
    (r.regrade first).regrade (some level) = r.regrade (some level) := by
  cases first <;> rfl

/-- A rule with another level finds the same with this level, if its identity is used for stamping only. -/
theorem findingsAt_regrade {r : Rule} (h : r.behaviour.Stamping) (level? : Option Severity) (l : Look) :
    (r.regrade level?).findingsAt l = (r.findingsAt l).map (Violation.regrade level?) := by
  cases level? with
  | none => exact (List.map_id' _).symm
  | some level => exact findingsAt_withSeverity h level.name l

end Rule

namespace Catalog

/-- A selection succeeds when no item is at fault, and gives the active rules. -/
theorem select_eq_ok_iff {s : RuleSettings} {rules : List Rule} :
    select s = .ok rules ↔ faults s = [] ∧ active s = rules := by
  unfold select
  split <;> simp_all

/-- Without faults every text under the severities names a level. -/
theorem exists_level_of_faults_eq_nil {s : RuleSettings} (h : faults s = []) {entry : String × String}
    (hentry : entry ∈ s.severity) : ∃ level, Severity.parse? entry.2 = some level := by
  have hsorted : entry ∈ sortedSeverities s := (List.mergeSort_perm ..).mem_iff.mpr hentry
  have hfault : severityFault? s entry = none :=
    List.filterMap_eq_nil_iff.mp (List.append_eq_nil_iff.mp h).2 entry hsorted
  unfold severityFault? at hfault
  cases hparse : Severity.parse? entry.2 with
  | some level => exact ⟨level, rfl⟩
  | none =>
    simp only [hparse] at hfault
    split at hfault
    · cases hfault
    · cases hfault

/-! ## Severities -/

/-- What one severity entry does to a rule. -/
def regradeBy (r : Rule) (entry : String × String) : Rule :=
  if r.info.code == Text.upper entry.1 then r.regrade (Severity.parse? entry.2) else r

/-- An entry of the severities is applied to each rule by itself. -/
theorem applySeverity_eq (rules : List Rule) (entry : String × String) :
    applySeverity rules entry = rules.map fun r => regradeBy r entry := by
  unfold applySeverity regradeBy
  cases Severity.parse? entry.2 with
  | some level => rfl
  | none => simp [Rule.regrade]

/-- All entries of the severities are applied to each rule by itself. -/
theorem foldl_applySeverity (entries : List (String × String)) (rules : List Rule) :
    entries.foldl applySeverity rules = rules.map fun r => entries.foldl regradeBy r := by
  induction entries generalizing rules with
  | nil => exact (List.map_id' _).symm
  | cons entry rest ih =>
    rw [List.foldl_cons, ih, applySeverity_eq, List.map_map]
    rfl

/-- Severities change neither what a rule does nor its code. -/
theorem behaviour_foldl_regradeBy (entries : List (String × String)) (r : Rule) :
    (entries.foldl regradeBy r).behaviour = r.behaviour
      ∧ (entries.foldl regradeBy r).info.code = r.info.code := by
  induction entries generalizing r with
  | nil => exact ⟨rfl, rfl⟩
  | cons entry rest ih =>
    have hone : (regradeBy r entry).behaviour = r.behaviour ∧ (regradeBy r entry).info.code = r.info.code := by
      unfold regradeBy
      split
      · exact ⟨r.behaviour_regrade _, r.info_code_regrade _⟩
      · exact ⟨rfl, rfl⟩
    exact ⟨(ih _).1.trans hone.1, (ih _).2.trans hone.2⟩

/-- Of all entries for a rule the last one counts. -/
theorem foldl_regradeBy {entries : List (String × String)}
    (hparse : ∀ entry ∈ entries, ∃ level, Severity.parse? entry.2 = some level) (r : Rule) :
    entries.foldl regradeBy r
      = r.regrade ((entries.filter fun entry => Text.upper entry.1 == r.info.code).getLast?.bind
          fun entry => Severity.parse? entry.2) := by
  induction entries using List.reverseRecOn with
  | nil => rfl
  | append_singleton rest entry ih =>
    have hrest := ih fun e he => hparse e (List.mem_append_left _ he)
    obtain ⟨level, hlevel⟩ := hparse entry (by simp)
    rw [List.foldl_append, hrest, List.foldl_cons, List.foldl_nil, regradeBy, Rule.info_code_regrade,
      List.filter_append, hlevel]
    by_cases hcode : Text.upper entry.1 = r.info.code
    · simp [hcode, hlevel, Rule.regrade_regrade]
    · simp [hcode, Ne.symm hcode]

/-- The severities are applied in the order of their keys. -/
theorem pairwise_sortedSeverities (s : RuleSettings) :
    (sortedSeverities s).Pairwise fun a b => a.1 ≤ b.1 := by
  have hpairwise : (sortedSeverities s).Pairwise fun a b => decide (a.1 ≤ b.1) = true := by
    apply List.pairwise_mergeSort
    · intro a b c hab hbc
      exact decide_eq_true (le_trans (of_decide_eq_true hab) (of_decide_eq_true hbc))
    · intro a b
      simpa using le_total a.1 b.1
  simpa only [decide_eq_true_eq] using hpairwise

/-- The entries are applied by increasing key, so the last one has the greatest key. -/
theorem getLast?_filter_sortedSeverities {s : RuleSettings} (hkeys : (s.severity.map Prod.fst).Nodup)
    (p : String × String → Bool) :
    ((sortedSeverities s).filter p).getLast? = (s.severity.filter p).argmax Prod.fst := by
  have hperm : ((sortedSeverities s).filter p).Perm (s.severity.filter p) :=
    (List.mergeSort_perm ..).filter p
  have hsorted : ((sortedSeverities s).filter p).Pairwise fun a b => a.1 ≤ b.1 :=
    (pairwise_sortedSeverities s).filter p
  rcases List.eq_nil_or_concat' ((sortedSeverities s).filter p) with hnil | ⟨front, last, hlast⟩
  · rw [hnil] at hperm ⊢
    rw [hperm.symm.eq_nil]
    rfl
  · rw [hlast] at hperm hsorted ⊢
    rw [List.getLast?_concat]
    have hmem : ∀ a, a ∈ s.severity.filter p ↔ a ∈ front ++ [last] := fun a => hperm.symm.mem_iff
    have hmax : ∀ a ∈ s.severity.filter p, a.1 ≤ last.1 := by
      intro a ha
      rcases List.mem_append.mp ((hmem a).mp ha) with hfront | hsame
      · exact (List.pairwise_append.mp hsorted).2.2 a hfront last (List.mem_singleton_self _)
      · rw [List.mem_singleton.mp hsame]
    have hin : last ∈ s.severity.filter p := (hmem last).mpr (by simp)
    refine (List.argmax_eq_some_iff.mpr ⟨hin, hmax, fun a ha hle => ?_⟩).symm
    -- no other entry has that key
    have hsame : last = a := List.inj_on_of_nodup_map hkeys (List.mem_of_mem_filter hin)
      (List.mem_of_mem_filter ha) (le_antisymm hle (hmax a ha))
    rw [hsame]

/-- The active rules are all rules that are not disabled, each with the severity for its code. -/
theorem active_eq {s : RuleSettings} (hkeys : (s.severity.map Prod.fst).Nodup) (hfaults : faults s = []) :
    active s = ((all s).map fun r => r.regrade (s.overriding? r.info.code)).filter fun r =>
      !s.disables r.info.code := by
  have hparse : ∀ entry ∈ sortedSeverities s, ∃ level, Severity.parse? entry.2 = some level :=
    fun entry hentry => exists_level_of_faults_eq_nil hfaults ((List.mergeSort_perm ..).mem_iff.mp hentry)
  have hdisabled : ∀ code, (s.disabled.map normalizeCode).contains code = s.disables code := by
    intro code
    rw [Bool.eq_iff_iff]
    simp [RuleSettings.disables, normalizeCode]
  unfold active
  simp only [hdisabled, foldl_applySeverity, foldl_regradeBy hparse,
    getLast?_filter_sortedSeverities hkeys]
  rfl

/-- The codes of the rules of the catalog that look at something. -/
def codesAt : Look → List String
  | .module _ => ["FUN-01"]
  | .function .. => ["FUN-04"]
  | .procedure .. => ["FUN-02", "FUN-03", "FUN-04", "FUN-05"]
  | .declaration .. => ["VAR-01", "VAR-02", "VAR-03", "VAR-04", "VAR-05"]
  | .facts _ => ["FUN-06", "FUN-07", "FUN-08", "DFA-01", "DFA-02"]

/-- Whatever the settings are, the rules that are called at a look are those of the catalog for it that are not
disabled, in the order of the catalog. -/
theorem codes_callsAt_active (s : RuleSettings) (l : Look) :
    (callsAt (active s) l).map (fun x => x.1.info.code)
      = (codesAt l).filter fun code => !(s.disabled.map normalizeCode).contains code := by
  have hall : ((all s).filter fun r => r.takesPart l).map (fun r => r.info.code) = codesAt l := by
    cases l <;> rfl
  have hpart : ∀ r, Rule.takesPart ((sortedSeverities s).foldl regradeBy r) l = r.takesPart l := by
    intro r
    have hbehaviour := (behaviour_foldl_regradeBy (sortedSeverities s) r).1
    cases l <;> simp only [Rule.takesPart, hbehaviour]
  have hcode : ∀ r, ((sortedSeverities s).foldl regradeBy r).info.code = r.info.code :=
    fun r => (behaviour_foldl_regradeBy (sortedSeverities s) r).2
  rw [← hall, callsAt, active, foldl_applySeverity, List.filter_map, List.filter_map, List.filter_map]
  simp only [List.map_map, List.filter_filter, Function.comp_def, hpart, hcode, Bool.and_comm]

/-- Accepted settings have a severity for every code that one of their keys spells. -/
theorem isSome_overriding? {s : RuleSettings} (hfaults : faults s = []) {entry : String × String}
    (hentry : entry ∈ s.severity) : (s.overriding? (Text.upper entry.1)).isSome := by
  unfold RuleSettings.overriding?
  cases hgreatest : (s.severity.filter fun e => Text.upper e.1 == Text.upper entry.1).argmax Prod.fst with
  | none =>
    have hmem : entry ∈ s.severity.filter fun e => Text.upper e.1 == Text.upper entry.1 :=
      List.mem_filter.mpr ⟨hentry, beq_self_eq_true _⟩
    rw [List.argmax_eq_none.mp hgreatest] at hmem
    cases hmem
  | some greatest =>
    have hmem : greatest ∈ s.severity := List.mem_of_mem_filter (List.argmax_mem hgreatest)
    obtain ⟨level, hlevel⟩ := exists_level_of_faults_eq_nil hfaults hmem
    rw [Option.bind_some, hlevel]
    rfl

/-- Without disabled codes and severities the settings are accepted, and all rules are active. -/
theorem select_plain (s : RuleSettings) :
    select { s with disabled := [], severity := [] } = .ok (all s) := by
  have hnone : sortedSeverities { s with disabled := [], severity := [] } = [] := List.mergeSort_nil
  apply select_eq_ok_iff.mpr
  constructor
  · unfold faults
    rw [hnone]
    rfl
  · unfold active
    rw [hnone]
    exact List.filter_eq_self.mpr fun _ _ => rfl

end Catalog

/-! ## The violations -/

/-- Rules with other levels find the same with their levels. -/
theorem findings_map_regrade {rules : List Rule} (hstamping : ∀ r ∈ rules, r.behaviour.Stamping)
    (level? : String → Option Severity) (ls : List Look) :
    findings (rules.map fun r => r.regrade (level? r.info.code)) ls
      = (findings rules ls).map fun v => v.regrade (level? v.code) := by
  unfold findings
  rw [List.map_flatMap]
  apply List.flatMap_congr
  intro l _
  rw [List.flatMap_map, List.map_flatMap]
  apply List.flatMap_congr
  intro r hr
  rw [Rule.findingsAt_regrade (hstamping r hr)]
  apply List.map_congr_left
  intro v hv
  rw [Rule.signed_of_stamping (hstamping r hr) l v hv]

/-- The sorted violations change in their levels only. -/
theorem violations_map_regrade {rules : List Rule} (hstamping : ∀ r ∈ rules, r.behaviour.Stamping)
    (level? : String → Option Severity) (options : EngineOptions) (m : Module) :
    (analyzeModule (rules.map fun r => r.regrade (level? r.info.code)) options (some m)).violations
      = (analyzeModule rules options (some m)).violations.map fun v => v.regrade (level? v.code) := by
  rw [violations_analyzeModule, violations_analyzeModule, findings_map_regrade hstamping]
  exact Violation.sort_map (fun a b => Violation.compare_regrade a b _ _) _

/-- Settings change exactly what they say: violations of disabled codes are left out, and where a key of the
severities spells the code of a violation, its severity is replaced. Nothing else changes. -/
theorem violations_select_eq {s : RuleSettings} {rules : List Rule}
    (hkeys : (s.severity.map Prod.fst).Nodup) (hselect : Catalog.select s = .ok rules)
    (options : EngineOptions) (m : Option Module) :
    (∀ entry ∈ s.severity, (s.overriding? (Text.upper entry.1)).isSome)
    ∧ ∃ plain, Catalog.select { s with disabled := [], severity := [] } = .ok plain
      ∧ (analyzeModule rules options m).violations
        = ((analyzeModule plain options m).violations.filter fun v => !s.disables v.code).map
            fun v => v.regrade (s.overriding? v.code) := by
  obtain ⟨hfaults, rfl⟩ := Catalog.select_eq_ok_iff.mp hselect
  obtain ⟨n, hn⟩ := exists_analyzeModule_eq options m
  refine ⟨fun _ hentry => Catalog.isSome_overriding? hfaults hentry, Catalog.all s,
    Catalog.select_plain s, ?_⟩
  have hstamping : ∀ r ∈ Catalog.all s, r.behaviour.Stamping := fun r hr => Catalog.stamping_all s hr
  have hsigned : ∀ r ∈ (Catalog.all s).map (fun r => r.regrade (s.overriding? r.info.code)), r.Signed := by
    intro r hr
    obtain ⟨q, hq, rfl⟩ := List.mem_map.mp hr
    apply Rule.signed_of_stamping
    rw [Rule.behaviour_regrade]
    exact hstamping q hq
  rw [hn, hn, Catalog.active_eq hkeys hfaults,
    violations_filter_rules hsigned options n (fun code => !s.disables code),
    violations_map_regrade hstamping, List.filter_map]
  refine congrArg (List.map _) (List.filter_congr fun v _ => ?_)
  simp only [Function.comp_apply, Violation.code_regrade]

/-- Settings that leave out one rule and spell the code of another in two ways. -/
def tuned : RuleSettings :=
  { RuleSettings.default with
    disabled := [" var-03 "]
    severity := [("VAR-02", "info"), ("var-02", "critical")] }

def underscored : Module :=
  { Module.empty "Sums" with
    declarations := [some { span := none, name := "_x", exported := false }] }

/-- The settings of the example are not at fault. -/
theorem faults_tuned : Catalog.faults tuned = [] := by
  have hsorted : Catalog.sortedSeverities tuned = tuned.severity :=
    List.mergeSort_of_pairwise (by decide +kernel)
  unfold Catalog.faults
  rw [hsorted]
  decide +kernel

/-- Of two violations the one of the disabled code is left out, and the other gets the level under the key in small
letters. -/
theorem violations_select_eq_tuned :
    (tuned.severity.map Prod.fst).Nodup ∧ Catalog.select tuned = .ok (Catalog.active tuned)
    ∧ ((analyzeModule (Catalog.all tuned) {} (some underscored)).violations.map
        fun v => (v.code, v.severity)).Perm [("VAR-02", "WARNING"), ("VAR-03", "ERROR")]
    ∧ tuned.disables "VAR-03" = true ∧ tuned.overriding? "VAR-02" = some .critical
    ∧ ∃ plain, Catalog.select { tuned with disabled := [], severity := [] } = .ok plain
      ∧ (analyzeModule (Catalog.active tuned) {} (some underscored)).violations
        = ((analyzeModule plain {} (some underscored)).violations.filter
            fun v => !tuned.disables v.code).map fun v => v.regrade (tuned.overriding? v.code) := by
  have hkeys : (tuned.severity.map Prod.fst).Nodup := by decide
  have hselect : Catalog.select tuned = .ok (Catalog.active tuned) :=
    Catalog.select_eq_ok_iff.mpr ⟨faults_tuned, rfl⟩
  have hfound : (findings (Catalog.all tuned) (looks {} underscored)).map
      (fun v => (v.code, v.severity)) = [("VAR-02", "WARNING"), ("VAR-03", "ERROR")] := by
    decide +kernel
  refine ⟨hkeys, hselect, ?_, by decide +kernel, by decide +kernel,
    (violations_select_eq hkeys hselect {} (some underscored)).2⟩
  rw [← hfound]
  exact (violations_perm_findings _ {} underscored).map _

end ModuleLint
