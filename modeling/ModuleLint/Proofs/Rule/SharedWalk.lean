import ModuleLint.Proofs.Rule.Looks
import ModuleLint.Proofs.Rule.SortedViolations
import ModuleLint.Proofs.Walk.Isolation

/-!
# One walk for all rules

Rules that sign their violations with distinct codes can be checked in one walk or each in a walk of its own: the
sorted violations are the same. In the shared walk the findings of all rules are mixed, but those of one code are
just the findings of the rule with that code (`filter_findings`), in the order in which this rule makes them, and
sorting looks at nothing else.
-/

set_option autoImplicit false

namespace ModuleLint

/-- Sorting loses no finding and adds none. -/
theorem violations_perm_findings (rules : List Rule) (options : EngineOptions) (m : Module) :
    (analyzeModule rules options (some m)).violations.Perm (findings rules (looks options m)) := by
  rw [violations_analyzeModule]
  exact Violation.sort_perm _

/-- Whether all that a rule ever finds carries its code. -/
def Rule.Signed (r : Rule) : Prop := ∀ l, ∀ v ∈ r.findingsAt l, v.code = r.info.code

/-- Where each rule contributes violations with its own code, those under some codes are contributed by the rules
with these codes. -/
theorem filter_flatMap_signed {rules : List Rule} {f : Rule → List Violation}
    (hf : ∀ r ∈ rules, ∀ v ∈ f r, v.code = r.info.code) (keep : String → Bool) :
    (rules.flatMap f).filter (fun v => keep v.code)
      = (rules.filter fun r => keep r.info.code).flatMap f := by
  induction rules with
  | nil => rfl
  | cons r rest ih =>
    have hrest := ih fun q hq => hf q (List.mem_cons_of_mem r hq)
    have hcode := hf r (List.mem_cons_self ..)
    rw [List.flatMap_cons, List.filter_append, hrest]
    by_cases hkeep : keep r.info.code = true
    · have hall : (f r).filter (fun v => keep v.code) = f r := by
        apply List.filter_eq_self.mpr
        intro v hv
        rw [hcode v hv, hkeep]
      rw [List.filter_cons_of_pos (by exact hkeep), List.flatMap_cons, hall]
    · have hnone : (f r).filter (fun v => keep v.code) = [] := by
        apply List.filter_eq_nil_iff.mpr
        intro v hv
        rw [hcode v hv]
        exact hkeep
      rw [List.filter_cons_of_neg (by exact hkeep), hnone, List.nil_append]

/-- The findings under some codes are those of the rules with these codes. -/
theorem filter_findings {rules : List Rule} (hsigned : ∀ r ∈ rules, r.Signed) (keep : String → Bool)
    (ls : List Look) :
    (findings rules ls).filter (fun v => keep v.code)
      = findings (rules.filter fun r => keep r.info.code) ls := by
  unfold findings
  rw [List.filter_flatMap]
  apply List.flatMap_congr
  intro l _
  exact filter_flatMap_signed (fun r hr => hsigned r hr l) keep

/-- Leaving out rules leaves out what they find. -/
theorem violations_filter_rules {rules : List Rule} (hsigned : ∀ r ∈ rules, r.Signed)
    (options : EngineOptions) (m : Module) (keep : String → Bool) :
    (analyzeModule (rules.filter fun r => keep r.info.code) options (some m)).violations
      = (analyzeModule rules options (some m)).violations.filter fun v => keep v.code := by
  rw [violations_analyzeModule, violations_analyzeModule, ← filter_findings hsigned,
    Violation.sort_filter]

/-- Of rules with distinct codes at most one has a given code. -/
theorem filter_code_eq {rules : List Rule} (hcodes : (rules.map (·.info.code)).Nodup) (code : String) :
    (rules.filter fun r => r.info.code == code) = []
      ∨ ∃ r, (rules.filter fun r => r.info.code == code) = [r] := by
  have hsame : (rules.filter fun r => r.info.code == code).map (·.info.code)
      = List.replicate (rules.filter fun r => r.info.code == code).length code := by
    apply List.eq_replicate_iff.mpr
    refine ⟨List.length_map _, fun c hc => ?_⟩
    obtain ⟨r, hr, rfl⟩ := List.mem_map.mp hc
    exact beq_iff_eq.mp (List.mem_filter.mp hr).2
  have hnodup : ((rules.filter fun r => r.info.code == code).map (·.info.code)).Nodup :=
    hcodes.sublist (List.filter_sublist.map _)
  rw [hsame, List.nodup_replicate] at hnodup
  rcases Nat.le_one_iff_eq_zero_or_eq_one.mp hnodup with hzero | hone
  · exact Or.inl (List.length_eq_zero_iff.mp hzero)
  · exact Or.inr (List.length_eq_one_iff.mp hone)

/-! ## Walks of their own -/

/-- The violations of walks with one rule each. -/
def loneViolations (rules : List Rule) (options : EngineOptions) (m : Option Module) : List Violation :=
  rules.flatMap fun r => (analyzeModule [r] options m).violations

/-- All violations of a walk with one rule carry its code. -/
theorem Rule.Signed.code_of_mem {r : Rule} (hsigned : r.Signed) (options : EngineOptions) (m : Module)
    {v : Violation} (hv : v ∈ (analyzeModule [r] options (some m)).violations) :
    v.code = r.info.code := by
  obtain ⟨l, -, hl⟩ := List.mem_flatMap.mp ((violations_perm_findings [r] options m).mem_iff.mp hv)
  rw [List.flatMap_singleton] at hl
  exact hsigned l v hl

/-- Sorting what walks with one rule each find gives what one walk with all rules finds. -/
theorem sort_loneViolations {rules order : List Rule} (hcodes : (rules.map (·.info.code)).Nodup)
    (hsigned : ∀ r ∈ rules, r.Signed) (horder : order.Perm rules) (options : EngineOptions)
    (m : Module) :
    Violation.sort (loneViolations order options (some m))
      = (analyzeModule rules options (some m)).violations := by
  rw [violations_analyzeModule]
  apply Violation.sort_congr
  intro key
  have hlone : (loneViolations order options (some m)).filter (fun v => v.code == key.code)
      = loneViolations (order.filter fun r => r.info.code == key.code) options (some m) :=
    filter_flatMap_signed
      (fun r hr v hv => (hsigned r (horder.mem_iff.mp hr)).code_of_mem options m hv) (· == key.code)
  rw [Violation.filter_sameKey key (loneViolations _ _ _), hlone,
    Violation.filter_sameKey key (findings _ _), filter_findings hsigned (· == key.code)]
  -- only the rule with the code of the key matters, wherever it stands in the order
  have hperm := horder.filter fun r => r.info.code == key.code
  rcases filter_code_eq hcodes key.code with hnil | ⟨r, hr⟩
  · rw [hnil] at hperm ⊢
    rw [hperm.eq_nil, loneViolations, findings]
    simp
  · rw [hr] at hperm ⊢
    rw [List.perm_singleton.mp hperm, loneViolations, List.flatMap_singleton,
      violations_analyzeModule, Violation.filter_sort]

/-- One walk with all rules finds what walks with one rule each find, whatever the order of the rules, and each rule
is untouched by the others: with any of them left out, the violations of the rest stay as they are. -/
theorem shared_walk_eq_lone_walks {rules : List Rule} (hcodes : (rules.map (·.info.code)).Nodup)
    (hsigned : ∀ r ∈ rules, r.Signed) (options : EngineOptions) (m : Option Module) :
    (∀ order, order.Perm rules →
        (analyzeModule rules options m).violations = Violation.sort (loneViolations order options m)
        ∧ (analyzeModule order options m).violations = (analyzeModule rules options m).violations)
    ∧ ∀ keep : String → Bool,
        (analyzeModule (rules.filter fun r => keep r.info.code) options m).violations
          = (analyzeModule rules options m).violations.filter fun v => keep v.code := by
  obtain ⟨n, hn⟩ := exists_analyzeModule_eq options m
  have hlone : ∀ order, loneViolations order options m = loneViolations order options (some n) := by
    intro order
    unfold loneViolations
    simp only [hn]
  constructor
  · intro order horder
    have hcodes' : (order.map (·.info.code)).Nodup := (horder.map _).nodup_iff.mpr hcodes
    have hsigned' : ∀ r ∈ order, r.Signed := fun r hr => hsigned r (horder.mem_iff.mp hr)
    have hrules := sort_loneViolations hcodes hsigned horder options n
    have hself := sort_loneViolations hcodes' hsigned' (List.Perm.refl order) options n
    rw [hn, hn, hlone]
    exact ⟨hrules.symm, hself.symm.trans hrules⟩
  · intro keep
    rw [hn, hn]
    exact violations_filter_rules hsigned options n keep

/-- A rule that complains about every variable and fails each time. -/
def complaining : Rule :=
  { info := { code := "SEEN", name := "Seen", description := "", severity := Severity.info.name }
    behaviour :=
      { onVariable := some fun info d site =>
          .findings [info.violation site.module? d.span d.name] (some "not sure") } }

/-- A rule that panics at every variable and complains about the facts. -/
def alarmed : Rule :=
  { info := { code := "ALARM", name := "Alarm", description := "", severity := Severity.error.name }
    behaviour :=
      { onVariable := some fun _ _ _ => .panicked (.value "variable")
        onFacts := some fun info f => Verdict.of [info.violation (some f.module) none "facts"] } }

/-- The first rule of the example signs what it finds. -/
theorem signed_complaining : complaining.Signed := by
  intro l v hv
  cases l with
  | declaration d site =>
    obtain rfl := List.mem_singleton.mp hv
    rfl
  | _ => cases hv

/-- The second rule of the example signs what it finds. -/
theorem signed_alarmed : alarmed.Signed := by
  intro l v hv
  cases l with
  | facts f =>
    obtain rfl := List.mem_singleton.mp hv
    rfl
  | _ => cases hv

/-- Neither the panics of the one rule nor the failures of the other cost a violation. -/
theorem shared_walk_eq_lone_walks_alarmed :
    ([complaining, alarmed].map (·.info.code)).Nodup
    ∧ (∀ r ∈ [complaining, alarmed], r.Signed)
    ∧ ((analyzeModule [complaining, alarmed] {} (some twoDeclarations)).violations.map
        fun v => (v.code, v.message)).Perm [("SEEN", "total"), ("SEEN", "rest"), ("ALARM", "facts")]
    ∧ (analyzeModule [complaining, alarmed] {} (some twoDeclarations)).violations
        = Violation.sort (loneViolations [alarmed, complaining] {} (some twoDeclarations)) := by
  have hcodes : ([complaining, alarmed].map (·.info.code)).Nodup := by decide
  have hsigned : ∀ r ∈ [complaining, alarmed], r.Signed := by
    simp only [List.forall_mem_cons]
    exact ⟨signed_complaining, signed_alarmed, fun _ h => by cases h⟩
  have hfound : (findings [complaining, alarmed] (looks {} twoDeclarations)).map
      (fun v => (v.code, v.message)) = [("SEEN", "total"), ("SEEN", "rest"), ("ALARM", "facts")] := by
    decide +kernel
  have hwalks := shared_walk_eq_lone_walks hcodes hsigned {} (some twoDeclarations)
  refine ⟨hcodes, hsigned, ?_, (hwalks.1 [alarmed, complaining] (List.Perm.swap ..)).1⟩
  rw [← hfound]
  exact (violations_perm_findings _ {} twoDeclarations).map _

end ModuleLint
