import ModuleLint.Proofs.Rule.SharedWalk
import ModuleLint.Rule.Catalog

/-!
# Rules that stamp their violations

The rules of the catalog use their identity for one thing only, to stamp what they find with its code, name and
severity. So a rule under another identity finds the same, stamped differently (`Behaviour.Stamping`), all of its
violations carry its code, and a change of its severity changes nothing else.
-/

set_option autoImplicit false

namespace ModuleLint

namespace Violation

/-- The violation under the identity of a rule. -/
def stamp (i : RuleInfo) (v : Violation) : Violation :=
  { v with code := i.code, ruleName := i.name, severity := i.severity }

def withSeverity (severity : String) (v : Violation) : Violation := { v with severity := severity }

end Violation

/-- Whether the identity of a rule with this behaviour is used for stamping only. -/
def Behaviour.Stamping (b : Behaviour) : Prop :=
  ∀ (i j : RuleInfo) (l : Look),
    (Rule.mk j b).findingsAt l = ((Rule.mk i b).findingsAt l).map (Violation.stamp j)

namespace Rule

/-- A rule that stamps what it finds signs it with its code. -/
theorem signed_of_stamping {r : Rule} (h : r.behaviour.Stamping) : r.Signed := by
  intro l v hv
  have hself := h r.info r.info l
  rw [hself] at hv
  obtain ⟨w, -, rfl⟩ := List.mem_map.mp hv
  rfl

/-- With another severity such a rule finds the same, with that severity. -/
theorem findingsAt_withSeverity {r : Rule} (h : r.behaviour.Stamping) (severity : String) (l : Look) :
    (r.withSeverity severity).findingsAt l
      = (r.findingsAt l).map (Violation.withSeverity severity) := by
  -- both sides are the findings under the old identity, stamped anew
  have hold : r.findingsAt l = (r.findingsAt l).map (Violation.stamp r.info) := h r.info r.info l
  have hnew : (r.withSeverity severity).findingsAt l
      = (r.findingsAt l).map (Violation.stamp { r.info with severity := severity }) :=
    h r.info { r.info with severity := severity } l
  rw [hnew, hold, List.map_map, List.map_map]
  rfl

end Rule

/-! ## The rules of the catalog -/

/-- The rules about names of variables stamp, whatever they complain about. -/
theorem VariableNames.stamping_rule (info : RuleInfo) (isBad : String → Bool)
    (complaint : String → String) : (rule info isBad complaint).behaviour.Stamping := by
  intro i j l
  cases l with
  | declaration d site =>
    simp only [Rule.findingsAt, Rule.verdictAt?, rule, Option.map_some, Verdict.of, Verdict.violations]
    split
    · rfl
    · rfl
  | _ => rfl

namespace RoutineShape

/-- A rule that looks at procedures does not use its identity otherwise, if the look does not. -/
theorem stamping_procedureRule {look : RuleInfo → Routine → Site → Option Violation}
    (hlook : ∀ i j p site, look j p site = (look i p site).map (Violation.stamp j)) (info : RuleInfo) :
    (procedureRule info look).behaviour.Stamping := by
  intro i j l
  cases l with
  | procedure p site =>
    simp only [Rule.findingsAt, Rule.verdictAt?, procedureRule, Option.map_some, Verdict.of,
      Verdict.violations]
    rw [hlook i j, Option.toList_map]
  | _ => rfl

/-- The rule about empty procedures uses its identity for stamping only. -/
theorem stamping_emptyProcedure : emptyProcedure.behaviour.Stamping := by
  apply stamping_procedureRule
  intro i j p site
  split <;> rfl

/-- The rule about long procedures uses its identity for stamping only, whatever the limit. -/
theorem stamping_procedureLength (configured : UInt64) :
    (procedureLength configured).behaviour.Stamping := by
  apply stamping_procedureRule
  intro i j p site
  generalize (if configured == 0 then defaultMaxLines else configured) = limit
  split <;> rfl

/-- The rule about procedures without a comment uses its identity for stamping only. -/
theorem stamping_missingComment : missingComment.behaviour.Stamping := by
  apply stamping_procedureRule
  intro i j p site
  cases site.module? with
  | none => rfl
  | some m =>
    cases habove : lineAbove? m p.span.line with
    | none => simp [habove]
    | some above =>
      simp only [Option.bind_eq_bind, Option.bind_some, habove]
      split <;> rfl

/-- The rule about numbers of parameters uses its identity for stamping only, whatever the limits. -/
theorem stamping_parameterCount (maxTotal maxDefaults : Int) :
    (parameterCount maxTotal maxDefaults).behaviour.Stamping := by
  intro i j l
  cases l with
  | function r site =>
    simp only [Rule.findingsAt, Rule.verdictAt?, parameterCount, Option.map_some, Verdict.of,
      Verdict.violations, List.map_map]
    rfl
  | procedure r site =>
    simp only [Rule.findingsAt, Rule.verdictAt?, parameterCount, Option.map_some, Verdict.of,
      Verdict.violations, List.map_map]
    rfl
  | _ => rfl

/-- The rule about lines with several statements uses its identity for stamping only. -/
theorem stamping_oneStatementPerLine : oneStatementPerLine.behaviour.Stamping := by
  intro i j l
  cases l with
  | module m =>
    simp only [Rule.findingsAt, Rule.verdictAt?, oneStatementPerLine, Behaviour.isHooked,
      Option.isSome_none, Bool.or_self, Bool.false_eq_true, if_false, Verdict.of,
      Verdict.violations, List.map_filterMap]
    apply List.filterMap_congr
    intro x _
    split <;> rfl
  | _ => rfl

end RoutineShape

namespace Usage

/-- A rule that looks at the facts does not use its identity otherwise, if the look does not. -/
theorem stamping_rule {look : RuleInfo → Facts → List Violation}
    (hlook : ∀ i j facts, look j facts = (look i facts).map (Violation.stamp j)) (info : RuleInfo) :
    (rule info look).behaviour.Stamping := by
  intro i j l
  cases l with
  | facts f => exact hlook i j f
  | _ => rfl

end Usage

/-- All rules of the catalog use their identity for stamping only. -/
theorem Catalog.stamping_all (s : RuleSettings) {r : Rule} (hr : r ∈ all s) : r.behaviour.Stamping := by
  simp only [all, List.mem_cons, List.not_mem_nil, or_false] at hr
  rcases hr with rfl | rfl | rfl | rfl | rfl | rfl | rfl | rfl | rfl | rfl | rfl | rfl | rfl | rfl | rfl
  · apply VariableNames.stamping_rule
  · apply VariableNames.stamping_rule
  · apply VariableNames.stamping_rule
  · apply VariableNames.stamping_rule
  · apply VariableNames.stamping_rule
  · exact RoutineShape.stamping_oneStatementPerLine
  · exact RoutineShape.stamping_emptyProcedure
  · apply RoutineShape.stamping_procedureLength
  · apply RoutineShape.stamping_parameterCount
  · exact RoutineShape.stamping_missingComment
  -- the rules about usage go through routines or findings and stamp each of them
  all_goals
    apply Usage.stamping_rule
    intro i j facts
    simp only [List.map_flatMap, List.map_map]
    rfl

end ModuleLint
