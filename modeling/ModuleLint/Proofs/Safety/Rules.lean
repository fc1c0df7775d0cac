import ModuleLint.Proofs.Rule.Configuration
import ModuleLint.Proofs.Safety.Reaching

/-!
# Careful rules

Each rule of the catalog has a careful version that looks at the same things under the same name. A look that faults is
a panic of the rule. The rules that look at nodes and at source lines never fault, so their careful versions are equal
to them (`variableRule_eq` and so on). The two rules about data flow rely on what the analysis of routines has put into
the facts, and agree with their careful versions there (`AgreesAt`).
-/

set_option autoImplicit false

namespace ModuleLint.Careful

open ModuleLint.Flow

/-- What a careful look comes to. -/
def verdict : Careful (List Violation) → Verdict
  | .ok vs => Verdict.of vs
  | .error fault => .panicked fault.panic

/-! ## Names -/

def variableRule (info : RuleInfo) (isBad : String → Bool) (complaint : String → String) : Rule :=
  { info := info
    behaviour :=
      { onVariable := some fun info d site => verdict do
          if isBad d.name then
            let v ← violation info site.module? d.span (complaint d.name)
            return [v]
          else return [] } }

/-- The careful rules about names of variables are the rules. -/
theorem variableRule_eq (info : RuleInfo) (isBad : String → Bool) (complaint : String → String) :
    variableRule info isBad complaint = VariableNames.rule info isBad complaint := by
  unfold variableRule VariableNames.rule
  congr
  funext info d site
  rw [violation_eq_ok, ok_bind]
  cases isBad d.name with
  | true => rfl
  | false => rfl

/-! ## Source lines -/

/-- Whether a comment starts at an index. The character after a slash is looked at only if there is one. -/
def isCommentAt (text : List Char) (i : Nat) : Careful Bool := do
  let c ← fetch text i
  if c == '/' && i + 1 < text.length then
    let next ← fetch text (i + 1)
    return next == '/'
  else return false

/-- Counts the statements of a line from an index on, so many characters before its end. -/
def countStatementsFrom (text : List Char) : Nat → Nat → Bool → Nat → Careful Nat
  | 0, _, _, n => .ok n
  | left + 1, i, inString, n => do
    let c ← fetch text i
    if c == '"' then countStatementsFrom text left (i + 1) (!inString) n
    else if inString then countStatementsFrom text left (i + 1) inString n
    else
      let isComment ← isCommentAt text i
      if isComment then return n
      else countStatementsFrom text left (i + 1) inString (if c == ';' then n + 1 else n)

def countStatements (text : String) : Careful Nat :=
  countStatementsFrom text.toList text.toList.length 0 false 0

/-- Whether a comment begins is looked up one character ahead, where there is one. -/
theorem isCommentAt_eq_ok {text : List Char} {i : Nat} (hi : i < text.length) :
    isCommentAt text i = .ok (text[i] == '/' && (text.drop (i + 1)).head? == some '/') := by
  unfold isCommentAt
  rw [fetch_eq_ok_iff.mpr (List.getElem?_eq_getElem hi), ok_bind, List.head?_drop]
  by_cases hnext : i + 1 < text.length
  · rw [decide_eq_true hnext, Bool.and_true, fetch_eq_ok_iff.mpr (List.getElem?_eq_getElem hnext), ok_bind,
      List.getElem?_eq_getElem hnext, Option.some_beq_some]
    cases text[i] == '/' with
    | true => rfl
    | false => rfl
  · rw [decide_eq_false hnext, Bool.and_false, List.getElem?_eq_none (by omega)]
    cases text[i] == '/' with
    | true => rfl
    | false => rfl

/-- The count along a line stays within it. -/
theorem countStatementsFrom_eq_ok (text : List Char) (left i : Nat) (hleft : left + i = text.length)
    (inString : Bool) (n : Nat) :
    countStatementsFrom text left i inString n = .ok (n + RoutineShape.countFrom inString (text.drop i)) := by
  induction left generalizing i inString n with
  | zero =>
    rw [List.drop_eq_nil_of_le (by omega)]
    rfl
  | succ left ih =>
    have hi : i < text.length := by omega
    have hnext := ih (i + 1) (by omega)
    rw [countStatementsFrom, fetch_eq_ok_iff.mpr (List.getElem?_eq_getElem hi), ok_bind,
      List.drop_eq_getElem_cons hi, RoutineShape.countFrom]
    by_cases hquote : (text[i] == '"') = true
    · rw [if_pos hquote, if_pos hquote, hnext]
    rw [if_neg hquote, if_neg hquote]
    cases inString with
    | true => exact hnext true n
    | false =>
      rw [if_neg Bool.false_ne_true, if_neg Bool.false_ne_true, isCommentAt_eq_ok hi, ok_bind]
      cases text[i] == '/' && (text.drop (i + 1)).head? == some '/' with
      | true => rfl
      | false =>
        rw [if_neg Bool.false_ne_true, if_neg Bool.false_ne_true, hnext]
        cases text[i] == ';' with
        | true =>
          rw [if_pos rfl, if_pos rfl, Nat.add_right_comm]
          rfl
        | false => rfl

/-- The statements of a line are counted without a fault. -/
theorem countStatements_eq_ok (text : String) : countStatements text = .ok (RoutineShape.countStatements text) := by
  have hall := countStatementsFrom_eq_ok text.toList text.toList.length 0 rfl false 0
  rw [List.drop_zero, Nat.zero_add] at hall
  exact hall

/-- What there is to say about a line with its number. -/
def lineViolation (info : RuleInfo) (m? : Option Module) (i : Nat) (line : String) : Careful (List Violation) := do
  let n ← countStatements line
  if n > 1 then
    let v ← violationAt info m? (UInt64.ofNat (i + 1)) 1 (RoutineShape.statementsComplaint n)
    return [v]
  else return []

/-- A line with several statements is reported without a fault. -/
theorem lineViolation_eq_ok (info : RuleInfo) (m? : Option Module) (i : Nat) (line : String) :
    lineViolation info m? i line
      = .ok (if RoutineShape.countStatements line > 1 then
          some (info.violationAt m? (UInt64.ofNat (i + 1)) 1
            (RoutineShape.statementsComplaint (RoutineShape.countStatements line)))
        else none).toList := by
  unfold lineViolation
  rw [countStatements_eq_ok, ok_bind, violationAt_eq_ok, ok_bind]
  split
  · rfl
  · rfl

def oneStatementPerLine : Rule :=
  { info := RoutineShape.oneStatementPerLine.info
    behaviour :=
      { onModule := fun info m? => verdict <| ifPresent m? [] fun m =>
          flatMap (fun numbered => lineViolation info m? numbered.1 numbered.2) (RoutineShape.numberedLines m) } }

/-- The careful rule about lines with several statements is the rule. -/
theorem oneStatementPerLine_eq : oneStatementPerLine = RoutineShape.oneStatementPerLine := by
  unfold oneStatementPerLine RoutineShape.oneStatementPerLine
  congr
  funext info m?
  cases m? with
  | none => rfl
  | some m =>
    rw [ifPresent_some, flatMap_eq_ok fun numbered _ => lineViolation_eq_ok info (some m) numbered.1 numbered.2,
      ← List.filterMap_eq_flatMap_toList]
    rfl

/-! ## Procedures -/

def procedureRule (info : RuleInfo) (look : RuleInfo → Routine → Site → Careful (List Violation)) : Rule :=
  { info := info
    behaviour := { onProcedure := some fun info p site => verdict (look info p site) } }

/-- A careful rule about procedures is the rule when its look has no fault. -/
theorem procedureRule_eq {info : RuleInfo} {look : RuleInfo → Routine → Site → Careful (List Violation)}
    {running : RuleInfo → Routine → Site → Option Violation}
    (h : ∀ info p site, look info p site = .ok (running info p site).toList) :
    procedureRule info look = RoutineShape.procedureRule info running := by
  unfold procedureRule RoutineShape.procedureRule
  congr
  funext info p site
  rw [h]
  rfl

def emptyProcedure : Rule :=
  procedureRule RoutineShape.emptyProcedure.info fun info p site =>
    if p.body.isEmpty then do
      let v ← violation info site.module? p.span (RoutineShape.emptyComplaint p)
      return [v]
    else return []

/-- The careful rule about empty procedures is the rule. -/
theorem emptyProcedure_eq : emptyProcedure = RoutineShape.emptyProcedure := by
  apply procedureRule_eq
  intro info p site
  rw [violation_eq_ok, ok_bind]
  cases p.body.isEmpty with
  | true => rfl
  | false => rfl

def procedureLength (configured : UInt64) : Rule :=
  let limit := if configured == 0 then RoutineShape.defaultMaxLines else configured
  procedureRule (RoutineShape.procedureLength configured).info fun info p site => do
    let lines ← length p.span
    if lines > limit then
      let v ← violation info site.module? p.span (RoutineShape.lengthComplaint limit p lines)
      return [v]
    else return []

/-- The careful rule about long procedures is the rule, whatever the limit. -/
theorem procedureLength_eq (configured : UInt64) :
    procedureLength configured = RoutineShape.procedureLength configured := by
  apply procedureRule_eq
  intro info p site
  generalize (if configured == 0 then RoutineShape.defaultMaxLines else configured) = limit
  rw [length_eq_ok, ok_bind, violation_eq_ok, ok_bind]
  split
  · rfl
  · rfl

def missingComment : Rule :=
  procedureRule RoutineShape.missingComment.info fun info p site => do
    let first ← line p.span
    if site.module?.isNone || first < 2 then return []
    let m ← deref site.module?
    let above ← minus first 1
    if above.toNat > m.source.length then return []
    let i ← minus first 2
    let text ← fetch m.source i.toNat
    if Text.startsWith (Text.trim text) "//" then return []
    let v ← violationAt info site.module? first 1 (RoutineShape.commentComplaint p)
    return [v]

/-- The careful rule about procedures without a comment is the rule. -/
theorem missingComment_eq : missingComment = RoutineShape.missingComment := by
  apply procedureRule_eq
  intro info p site
  rw [line_eq_ok, ok_bind]
  cases site.module? with
  | none => rfl
  | some m =>
    simp only [Option.isNone_some, Bool.false_or, Option.bind_eq_bind, Option.bind_some, RoutineShape.lineAbove?]
    by_cases hfirst : p.span.line < 2
    · rw [if_pos (decide_eq_true hfirst), if_pos hfirst]
      rfl
    have htwo : (2 : UInt64) ≤ p.span.line := UInt64.not_lt.mp hfirst
    have hone : (1 : UInt64) ≤ p.span.line := UInt64.le_trans (by decide) htwo
    have hcount : 2 ≤ p.span.line.toNat := UInt64.le_iff_toNat_le.mp htwo
    have habove : (p.span.line - 1).toNat = p.span.line.toNat - 1 := UInt64.toNat_sub_of_le p.span.line 1 hone
    have hindex : (p.span.line - 2).toNat = p.span.line.toNat - 2 := UInt64.toNat_sub_of_le p.span.line 2 htwo
    rw [if_neg (by simpa using htwo), if_neg hfirst, deref_eq_ok rfl, ok_bind, minus_eq_ok hone, ok_bind, habove]
    by_cases hlong : p.span.line.toNat - 1 > m.source.length
    · rw [if_pos hlong, List.getElem?_eq_none (by omega)]
      rfl
    have hlt : p.span.line.toNat - 2 < m.source.length := by omega
    rw [if_neg hlong, minus_eq_ok htwo, ok_bind, hindex, fetch_eq_ok_iff.mpr (List.getElem?_eq_getElem hlt), ok_bind,
      List.getElem?_eq_getElem hlt, Option.bind_some, violationAt_eq_ok, ok_bind]
    split
    · rfl
    · rfl

/-! ## Parameters -/

/-- Counts one more parameter, if it is there. -/
def addParameter (c : RoutineShape.DefaultCount) (p? : Option Parameter) : Careful RoutineShape.DefaultCount :=
  ifPresent p? c fun p =>
    .ok (if p.hasDefault then { c with defaults := c.defaults + 1 }
      else if c.defaults > 0 then { c with misplaced := true }
      else c)

/-- A parameter is counted without a fault, and one that is missing as well. -/
theorem addParameter_eq_ok (c : RoutineShape.DefaultCount) (p? : Option Parameter) :
    addParameter c p? = .ok (c.add p?) := by
  cases p? with
  | none => rfl
  | some p => rfl

def parameterCount (maxTotal maxDefaults : Int) : Rule :=
  let look (kind : String) (info : RuleInfo) (r : Routine) (site : Site) : Verdict := verdict do
    let count ← r.parameters.foldlM addParameter { defaults := 0, misplaced := false }
    map (violation info site.module? r.span)
      (RoutineShape.complaintsOf (RoutineShape.limitOr RoutineShape.defaultMaxParameters maxTotal)
        (RoutineShape.limitOr RoutineShape.defaultMaxDefaults maxDefaults) kind r count)
  { info := (RoutineShape.parameterCount maxTotal maxDefaults).info
    behaviour := { onFunction := some (look "Function"), onProcedure := some (look "Procedure") } }

/-- The careful rule about numbers of parameters is the rule, whatever the limits. -/
theorem parameterCount_eq (maxTotal maxDefaults : Int) :
    parameterCount maxTotal maxDefaults = RoutineShape.parameterCount maxTotal maxDefaults := by
  have hcount : ∀ r : Routine, r.parameters.foldlM addParameter { defaults := 0, misplaced := false }
      = .ok (r.parameters.foldl RoutineShape.DefaultCount.add { defaults := 0, misplaced := false }) :=
    fun r => foldlM_eq_ok_of_forall _ fun c p? _ => addParameter_eq_ok c p?
  have hviolations : ∀ (info : RuleInfo) (m? : Option Module) (span : Span) (texts : List String),
      map (violation info m? span) texts = .ok (texts.map (info.violation m? span)) :=
    fun info m? span texts => map_eq_ok fun text _ => violation_eq_ok info m? span text
  unfold parameterCount RoutineShape.parameterCount
  simp only [hcount, ok_bind, hviolations]
  rfl

/-! ## Usage -/

def usageRule (info : RuleInfo) (look : RuleInfo → Facts → Careful (List Violation)) : Rule :=
  { info := info
    behaviour := { onFacts := some fun info facts => verdict (look info facts) } }

/-- A rule that complains about some routines. -/
def routineRule (info : RuleInfo) (routines : Facts → List RoutineFact) (complaint : RoutineFact → String) : Rule :=
  usageRule info fun info facts =>
    map (fun f => violation info (some facts.module) f.declaration.span (complaint f)) (routines facts)

/-- A careful rule that reports routines is the rule. -/
theorem routineRule_eq (info : RuleInfo) (routines : Facts → List RoutineFact) (complaint : RoutineFact → String) :
    routineRule info routines complaint
      = Usage.rule info fun info facts => (routines facts).map fun f => Usage.atRoutine info facts f (complaint f) := by
  have hlook : ∀ (info : RuleInfo) (facts : Facts),
      map (fun f => violation info (some facts.module) f.declaration.span (complaint f)) (routines facts)
        = .ok ((routines facts).map fun f => Usage.atRoutine info facts f (complaint f)) :=
    fun info facts => map_eq_ok fun f _ => violation_eq_ok info (some facts.module) f.declaration.span (complaint f)
  unfold routineRule usageRule Usage.rule
  simp only [hlook]
  rfl

/-- A rule that complains about some entries of the data flow of routines. -/
def flowRule {α : Type} (info : RuleInfo) (entries : Result → Careful (List α))
    (report : RuleInfo → Option Module → Result → α → Careful Violation) : Rule :=
  usageRule info fun info facts =>
    flatMap (fun r => do
      let xs ← entries r
      map (report info (some facts.module) r) xs) facts.flow.results

def deadStore : Rule :=
  flowRule Usage.deadStore.info deadDefinitions fun info m? r x =>
    violationAt info m? x.2.line x.2.column (Usage.deadComplaint r x.2)

def useBeforeAssignment : Rule :=
  flowRule Usage.useBeforeAssignment.info undefinedUses fun info m? r u =>
    violationAt info m? u.line u.column (Usage.undefinedComplaint r u)

/-- The careful rule about unused routines is the rule. -/
theorem unusedRoutine_eq :
    routineRule Usage.unusedRoutine.info (fun facts => facts.routines.unused facts.exemptExported) Usage.unusedComplaint
      = Usage.unusedRoutine :=
  routineRule_eq ..

/-- The careful rule about recursive routines is the rule. -/
theorem recursiveRoutine_eq :
    routineRule Usage.recursiveRoutine.info (fun facts => facts.routines.selfCalling) Usage.recursiveComplaint
      = Usage.recursiveRoutine :=
  routineRule_eq ..

/-- The careful rule about functions without a returned value is the rule. -/
theorem missingReturnValue_eq :
    routineRule Usage.missingReturnValue.info
        (fun facts => (facts.routines.ofKind .function).filter fun f => !f.returns.any (·.hasValue))
        Usage.returnComplaint
      = Usage.missingReturnValue :=
  routineRule_eq ..

/-! ## The catalog -/

/-- The careful versions of all rules, in the order of the catalog. -/
def all (s : RuleSettings) : List Rule :=
  [ variableRule VariableNames.meaningful.info VariableNames.isCryptic VariableNames.crypticComplaint,
    variableRule VariableNames.camelCase.info VariableNames.isNotCamelCase VariableNames.camelCaseComplaint,
    variableRule VariableNames.noUnderscore.info VariableNames.hasUnderscore VariableNames.underscoreComplaint,
    variableRule (VariableNames.minimumLength []).info
      (VariableNames.isTooShort (s.loopCounters.getD defaultLoopCounters)) VariableNames.shortComplaint,
    variableRule VariableNames.flagNames.info VariableNames.isVagueFlag VariableNames.flagComplaint,
    oneStatementPerLine,
    emptyProcedure,
    procedureLength (UInt64.ofNat s.maxProcedureLines.toNat),
    parameterCount s.maxParameters s.maxDefaultParameters,
    missingComment,
    routineRule Usage.unusedRoutine.info (fun facts => facts.routines.unused facts.exemptExported)
      Usage.unusedComplaint,
    routineRule Usage.recursiveRoutine.info (fun facts => facts.routines.selfCalling) Usage.recursiveComplaint,
    routineRule Usage.missingReturnValue.info
      (fun facts => (facts.routines.ofKind .function).filter fun f => !f.returns.any (·.hasValue))
      Usage.returnComplaint,
    deadStore,
    useBeforeAssignment ]

/-- The careful versions of the active rules. -/
def active (s : RuleSettings) : List Rule :=
  ((Catalog.sortedSeverities s).foldl Catalog.applySeverity (all s)).filter fun r =>
    !(s.disabled.map Catalog.normalizeCode).contains r.info.code

/-- Two rules have the same identity, and under any identity they say the same at a look. -/
structure AgreesAt (l : Look) (r r' : Rule) : Prop where
  info_eq : r.info = r'.info
  verdictAt?_eq : ∀ i, (Rule.mk i r.behaviour).verdictAt? l = (Rule.mk i r'.behaviour).verdictAt? l

/-- A rule agrees with itself. -/
theorem AgreesAt.refl (l : Look) (r : Rule) : AgreesAt l r r := ⟨rfl, fun _ => rfl⟩

/-- Whatever a look needs to find in the facts. -/
def SoundLook : Look → Prop
  | .facts f => ∀ r ∈ f.flow.results, Sound r
  | _ => True

/-- A careful rule about the flow agrees with the rule at looks whose results are sound. -/
theorem agreesAt_flowRule {α : Type} {info : RuleInfo} {entries : Result → Careful (List α)}
    {report : RuleInfo → Option Module → Result → α → Careful Violation} {running : Result → List α}
    {violation : RuleInfo → Option Module → Result → α → Violation} {l : Look} (hl : SoundLook l)
    (hentries : ∀ r, Sound r → entries r = .ok (running r))
    (hreport : ∀ i m? r x, report i m? r x = .ok (violation i m? r x)) :
    AgreesAt l (flowRule info entries report)
      (Usage.rule info fun i facts => facts.flow.results.flatMap fun r =>
        (running r).map (violation i (some facts.module) r)) := by
  refine ⟨rfl, ?_⟩
  intro i
  cases l with
  | facts f =>
    have hfound : flatMap (fun r => do
        let xs ← entries r
        map (report i (some f.module) r) xs) f.flow.results
        = .ok (f.flow.results.flatMap fun r => (running r).map (violation i (some f.module) r)) := by
      apply flatMap_eq_ok
      intro r hr
      rw [hentries r (hl r hr), ok_bind]
      exact map_eq_ok fun x _ => hreport i (some f.module) r x
    exact congrArg (fun x => some (verdict x)) hfound
  | _ => rfl

/-- At a look with sound facts the careful rules say what the rules say. -/
theorem agreesAt_all (s : RuleSettings) {l : Look} (hl : SoundLook l) :
    List.Forall₂ (AgreesAt l) (all s) (Catalog.all s) := by
  have hdead : AgreesAt l deadStore Usage.deadStore :=
    agreesAt_flowRule hl (fun r hr => deadDefinitions_eq_ok hr) fun _ _ _ _ => violationAt_eq_ok ..
  have hundefined : AgreesAt l useBeforeAssignment Usage.useBeforeAssignment :=
    agreesAt_flowRule hl (fun r hr => undefinedUses_eq_ok hr) fun _ _ _ _ => violationAt_eq_ok ..
  -- only the last two rules differ at all from their careful versions
  have hsame : all s = (Catalog.all s).take 13 ++ [deadStore, useBeforeAssignment] := by
    unfold all
    rw [variableRule_eq, variableRule_eq, variableRule_eq, variableRule_eq, variableRule_eq, oneStatementPerLine_eq,
      emptyProcedure_eq, procedureLength_eq, parameterCount_eq, missingComment_eq, unusedRoutine_eq,
      recursiveRoutine_eq, missingReturnValue_eq]
    rfl
  rw [hsame]
  exact List.rel_append (List.forall₂_same.mpr fun r _ => .refl l r) (.cons hdead (.cons hundefined .nil))

/-- Rules that agree do so with any level. -/
theorem AgreesAt.regradeBy {l : Look} {r r' : Rule} (h : AgreesAt l r r') (entry : String × String) :
    AgreesAt l (Catalog.regradeBy r entry) (Catalog.regradeBy r' entry) := by
  unfold Catalog.regradeBy
  rw [h.info_eq]
  split
  · cases Severity.parse? entry.2 with
    | none => exact h
    | some level => exact ⟨congrArg (fun i : RuleInfo => { i with severity := level.name }) h.info_eq, h.verdictAt?_eq⟩
  · exact h

/-- Rules that agree do so under any entries of the severities. -/
theorem AgreesAt.foldl_regradeBy {l : Look} (entries : List (String × String)) {r r' : Rule} (h : AgreesAt l r r') :
    AgreesAt l (entries.foldl Catalog.regradeBy r) (entries.foldl Catalog.regradeBy r') := by
  induction entries generalizing r r' with
  | nil => exact h
  | cons entry rest ih => exact ih (h.regradeBy entry)

/-- The careful rules of the catalog agree with the rules one by one. -/
theorem agreesAt_active (s : RuleSettings) {l : Look} (hl : SoundLook l) :
    List.Forall₂ (AgreesAt l) (active s) (Catalog.active s) := by
  unfold active Catalog.active
  rw [Catalog.foldl_applySeverity, Catalog.foldl_applySeverity]
  apply List.rel_filter
  · intro r r' h
    simp only [h.info_eq]
  · exact List.rel_map (fun _ _ h => h.foldl_regradeBy _) (agreesAt_all s hl)

/-! ## Calls of careful rules -/

/-- Rules that agree take part in the same looks. -/
theorem AgreesAt.takesPart_eq {l : Look} {r r' : Rule} (h : AgreesAt l r r') : r.takesPart l = r'.takesPart l := by
  have hverdict := h.verdictAt?_eq r.info
  rw [← Rule.isSome_verdictAt?, ← Rule.isSome_verdictAt? r', hverdict, h.info_eq]

/-- Asking one of them is asking the other. -/
theorem AgreesAt.ask_eq {l : Look} {r r' : Rule} (h : AgreesAt l r r') (s : CheckerState) :
    Checker.ask Answers.own s r l = Checker.ask Answers.own s r' l := by
  have hverdict : r.verdictAt? l = r'.verdictAt? l := by
    have hboth := h.verdictAt?_eq r.info
    rw [h.info_eq] at hboth
    rw [← hboth, ← h.info_eq]
  unfold Checker.ask Answers.own
  rw [h.info_eq, hverdict]

/-- Rules that agree at a look find the same there. -/
theorem runAll_eq_of_agreesAt {l : Look} {rs rs' : List Rule} (h : List.Forall₂ (AgreesAt l) rs rs')
    (s : CheckerState) : Checker.runAll Answers.own rs l s = Checker.runAll Answers.own rs' l s := by
  unfold Checker.runAll
  induction h generalizing s with
  | nil => rfl
  | cons hr _ ih =>
    rw [List.foldl_cons, List.foldl_cons, hr.takesPart_eq, hr.ask_eq, ih]

/-! ## No rule of the catalog fails -/

/-- No rule of the catalog gives a verdict of failure. -/
theorem failure?_eq_none_of_mem_all {s : RuleSettings} {r : Rule} (hr : r ∈ Catalog.all s) {i : RuleInfo} {l : Look}
    {v : Verdict} (h : (Rule.mk i r.behaviour).verdictAt? l = some v) : v.failure? = none := by
  simp only [Catalog.all, List.mem_cons, List.not_mem_nil, or_false] at hr
  rcases hr with rfl | rfl | rfl | rfl | rfl | rfl | rfl | rfl | rfl | rfl | rfl | rfl | rfl | rfl | rfl
  -- a rule that takes part in a look says what it has found and nothing else
  all_goals cases l <;> cases h <;> rfl

end ModuleLint.Careful
