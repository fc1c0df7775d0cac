import ModuleLint.Document.Reader
import ModuleLint.Document.Schema

/-!
# Reading what the schema speaks of

The reader of documents knows nothing of the schema, but each part of a document that the schema speaks of has a
reader of its own. `Reads` says that a value can be read where a schema applies, whatever is there already.
An object can be read if its members can (`Readable`): there is one lemma for each shape, which follows the
fields that its reader tries. Keys that stand for a field without being spelled like it, numbers that do not
fit and the like are kept out by `isRegular`.
-/

set_option autoImplicit false

namespace ModuleLint.Document

open ModuleLint.Json (Value Numeral)

/-! ## Regular values -/

/-- The names of all fields of a document and its parts. -/
def fieldNames : List String :=
  ["module", "source", "name", "range", "variables", "functions", "procedures", "export", "parameters",
    "body", "byValue", "hasDefault", "start", "end", "line", "column", "type", "value", "literalType",
    "operator", "left", "right", "target", "expression", "condition", "counter", "collection", "arguments",
    "thenStatements", "elseIfClauses", "elseStatements", "statements"]

/-- Whether a key that stands for a field is spelled like it. -/
def isPlainKey (key : String) : Bool :=
  fieldNames.all fun field => !matchesKey field key || key == field

/-- Whether an object repeats no key and spells its keys like the fields they stand for. -/
def hasPlainKeys (members : List (String × Value)) : Bool :=
  decide (members.map Prod.fst).Nodup && members.all fun m => isPlainKey m.1

/-- Whether a number is written as a whole number of less than 64 bits, where zero has no sign. -/
def isPlainWord (n : Numeral) : Bool :=
  n.isPlain && decide (n.digits < Nat.pow 2 64) && !(n.negative && n.digits == 0)

mutual

/-- Whether every number inside a constant fits into a double. -/
def fitsDoubles : Value → Bool
  | .number n => n.nearest?.isSome
  | .list items => itemsFitDoubles items
  | .object members => membersFitDoubles members
  | _ => true

def itemsFitDoubles : List Value → Bool
  | [] => true
  | v :: rest => fitsDoubles v && itemsFitDoubles rest

def membersFitDoubles : List (String × Value) → Bool
  | [] => true
  | (_, v) :: rest => fitsDoubles v && membersFitDoubles rest

end

/-- Whether the constants of an entry fit into doubles. Only entries have constants. -/
def hasFittingConstants (s : Schema) (members : List (String × Value)) : Bool :=
  match s with
  | .shape .entry => members.all fun m => m.1 != "value" || fitsDoubles m.2
  | _ => true

/-- The schema of the part under a key. -/
def property? (properties : List (String × Schema)) (key : String) : Option Schema :=
  (properties.find? fun p => p.1 == key).map (·.2)

mutual

/-- Whether the parts of a value that a schema speaks of are regular: the keys of objects, the numbers
of lines and columns, and the constants of entries. -/
def isRegular (s : Schema) : Value → Bool
  | .number n =>
    match s.resolved with
    | .natural => isPlainWord n
    | _ => true
  | .list items =>
    match s.resolved with
    | .items element => areRegular element items
    | _ => true
  | .object members =>
    match s.resolved with
    | .record _ properties =>
      hasPlainKeys members && hasFittingConstants s members && areRegularMembers properties members
    | _ => true
  | _ => true

def areRegular (element : Shape) : List Value → Bool
  | [] => true
  | v :: rest => isRegular (.shape element) v && areRegular element rest

def areRegularMembers (properties : List (String × Schema)) : List (String × Value) → Bool
  | [] => true
  | (key, v) :: rest =>
    (match property? properties key with
      | some s => isRegular s v
      | none => true) && areRegularMembers properties rest

end

/-! ## What can be read -/

/-- Whether a value can be read where a schema applies, whatever is there already. -/
def Reads : Schema → Value → Prop
  | .text _, v => ∃ t, v = .text t
  | .flag, v => ∃ b, v = .bool b
  | .natural, v => ∃ n w, v = .number n ∧ n.word? = some w
  | .shape .position, v => ∀ old, (assignObject assignPosition old v).isSome = true
  | .shape .range, v => ∀ old, (assignRangeSlot old v).isSome = true
  | .shape .variable, v => ∀ old, (assignObject assignVariable old v).isSome = true
  | .shape .parameter, v => ∀ old, (assignObject assignParameter old v).isSome = true
  | .shape .routine, v => ∀ old, (assignObject assignRoutine old v).isSome = true
  | .shape .module, v => ∀ old, ∃ m, assignSlot assignModule {} old v = some (some m)
  | .shape .statements, v => ∀ old, (assignEntries old v).isSome = true
  | .shape .entry, v => ∀ old, (assignEntry old v).isSome = true
  | .shape .clause, v => ∀ old, (assignClause old v).isSome = true
  | .items .variable, v => ∀ old, (assignList (assignObject assignVariable) {} old v).isSome = true
  | .items .parameter, v => ∀ old, (assignList (assignObject assignParameter) {} old v).isSome = true
  | .items .routine, v => ∀ old, (assignList (assignObject assignRoutine) {} old v).isSome = true
  | .items .entry, v => ∀ old, (assignEntries old v).isSome = true
  | .items .clause, v => ∀ old, (assignClauses old v).isSome = true
  -- no field is a list of anything else, and of records that are no shapes there is the document only
  | .items _, _ => True
  | .record .., _ => True

/-- The fields that a schema speaks of. -/
def Schema.properties : Schema → List (String × Schema)
  | .record _ properties => properties
  | _ => []

/-- What is known of the members of an object without violations: their keys are plain, and those that
the schema speaks of can be read. -/
structure Readable (properties : List (String × Schema)) (members : List (String × Value)) : Prop where
  plain : ∀ key v, (key, v) ∈ members → isPlainKey key = true
  reads : ∀ key v s, (key, v) ∈ members → property? properties key = some s → Reads s v

/-- A member that the schema speaks of can be read. -/
theorem Readable.at {properties : List (String × Schema)} {members : List (String × Value)}
    (h : Readable properties members) {key field : String} {v : Value} {s : Schema}
    (hmem : (key, v) ∈ members) (hkey : key = field) (hs : property? properties field = some s) :
    Reads s v := by
  subst hkey
  exact h.reads key v s hmem hs

/-- The other members can be read too. -/
theorem Readable.tail {properties : List (String × Schema)} {m : String × Value}
    {rest : List (String × Value)} (h : Readable properties (m :: rest)) : Readable properties rest :=
  { plain := fun key v hmem => h.plain key v (List.mem_cons_of_mem m hmem)
    reads := fun key v s hmem => h.reads key v s (List.mem_cons_of_mem m hmem) }

/-- A plain key stands for the field that is spelled like it. -/
theorem eq_of_isPlainKey {key field : String} (h : isPlainKey key = true) (hfield : field ∈ fieldNames)
    (hmatch : matchesKey field key = true) : key = field := by
  have hone := List.all_eq_true.mp h field hfield
  simpa [hmatch] using hone

/-- A reading that goes on after a reading. -/
theorem isSome_bind {α β : Type} {x : Option α} {f : α → Option β} (hx : x.isSome = true)
    (hf : ∀ a, (f a).isSome = true) : (x.bind f).isSome = true := by
  obtain ⟨a, rfl⟩ := Option.isSome_iff_exists.mp hx
  exact hf a

/-- One field of a reader that tries field after field: where its key is spelled like the field, the part can
be read, and otherwise one of the later fields applies. -/
theorem isSome_field {α β : Type} {field key : String} {x : Option α} {f : α → β} {later : Option β}
    (hplain : isPlainKey key = true) (hfield : field ∈ fieldNames)
    (hx : key = field → x.isSome = true) (hlater : later.isSome = true) :
    (if matchesKey field key = true then x.map f else later).isSome = true := by
  cases hmatch : matchesKey field key with
  | true =>
    have hkey := eq_of_isPlainKey hplain hfield hmatch
    simp only [if_true, Option.isSome_map, hx hkey]
  | false => simpa using hlater

/-- A reader tries its fields one by one. Only the one that the key is spelled like has to read the value. -/
theorem isSome_field_then {α β γ : Type} {field key : String} {x : Option α} {f : α → β}
    {next : β → Option γ} {later : Option γ} (hnext : ∀ b, (next b).isSome = true)
    (hplain : isPlainKey key = true) (hfield : field ∈ fieldNames)
    (hx : key = field → x.isSome = true) (hlater : later.isSome = true) :
    (if matchesKey field key = true then (x.map f).bind next else later).isSome = true := by
  cases hmatch : matchesKey field key with
  | true =>
    have hkey := eq_of_isPlainKey hplain hfield hmatch
    have hmap : (x.map f).isSome = true := by rw [Option.isSome_map, hx hkey]
    simpa using isSome_bind hmap hnext
  | false => simpa using hlater

/-! ### Single values -/

/-- A text can be read. -/
theorem Reads.text {k : Nat} {v : Value} (h : Reads (.text k) v) (old : String) :
    (assignText old v).isSome = true := by
  obtain ⟨t, rfl⟩ := h
  rfl

/-- A flag can be read. -/
theorem Reads.flag {v : Value} (h : Reads .flag v) (old : Bool) : (assignFlag old v).isSome = true := by
  obtain ⟨b, rfl⟩ := h
  rfl

/-- A natural number can be read as a word. -/
theorem Reads.word {v : Value} (h : Reads .natural v) (old : UInt64) :
    (assignWord old v).isSome = true := by
  obtain ⟨n, w, rfl, hw⟩ := h
  simp only [assignWord, hw, Option.isSome_some]

/-- A plain number that is not negative is a word. -/
theorem exists_word {n : Numeral} (hplain : isPlainWord n = true) (hsign : n.isBelowZero = false) :
    ∃ w, n.word? = some w := by
  simp only [isPlainWord, Bool.and_eq_true, decide_eq_true_eq, Bool.not_eq_true'] at hplain
  obtain ⟨⟨hwritten, hsmall⟩, hzero⟩ := hplain
  have hpositive : n.negative = false := by
    cases hnegative : n.negative with
    | false => rfl
    | true => simp_all [Numeral.isBelowZero]
  refine ⟨UInt64.ofNat n.digits, ?_⟩
  simp [Numeral.word?, hwritten, hpositive, hsmall]

mutual

/-- A constant can be read if its numbers fit. -/
theorem isSome_readConstant : ∀ (v : Value), fitsDoubles v = true → (readConstant v).isSome = true
  | .null, _ => rfl
  | .bool _, _ => rfl
  | .text _, _ => rfl
  | .number n, h => by
    simpa only [readConstant, fitsDoubles, Option.isSome_map] using h
  | .list items, h => by
    have hitems := isSome_readConstants items h
    simpa only [readConstant, Option.isSome_map] using hitems
  | .object members, h => by
    have hmembers := isSome_readFields members h
    simpa only [readConstant, Option.isSome_map] using hmembers

/-- A list of constants can be read if all their numbers fit. -/
theorem isSome_readConstants : ∀ (items : List Value), itemsFitDoubles items = true →
    (readConstants items).isSome = true
  | [], _ => rfl
  | v :: rest, h => by
    obtain ⟨hv, hrest⟩ := Bool.and_eq_true_iff.mp h
    have hlater := isSome_readConstants rest hrest
    rw [readConstants]
    exact isSome_bind (isSome_readConstant v hv) fun c => isSome_bind hlater fun cs => rfl

/-- The fields of a constant object can be read if all their numbers fit. -/
theorem isSome_readFields : ∀ (members : List (String × Value)), membersFitDoubles members = true →
    (readFields members).isSome = true
  | [], _ => rfl
  | (key, v) :: rest, h => by
    obtain ⟨hv, hrest⟩ := Bool.and_eq_true_iff.mp h
    have hlater := isSome_readFields rest hrest
    rw [readFields]
    exact isSome_bind (isSome_readConstant v hv) fun c => isSome_bind hlater fun cs => rfl

end

/-! ### Lists and objects -/

/-- An object can be read if each of its members can. -/
theorem isSome_assignMembers {α : Type} {assign : α → String → Value → Option α}
    {members : List (String × Value)}
    (h : ∀ key v, (key, v) ∈ members → ∀ old, (assign old key v).isSome = true) (old : α) :
    (assignMembers assign old members).isSome = true := by
  induction members generalizing old with
  | nil => rfl
  | cons m rest ih =>
    obtain ⟨key, v⟩ := m
    rw [assignMembers]
    refine isSome_bind (h key v (List.mem_cons_self ..) old) fun new => ?_
    exact ih (fun key v hmem => h key v (List.mem_cons_of_mem _ hmem)) new

/-- A list can be read if each of its items can. -/
theorem isSome_assignItems {α : Type} {assign : α → Value → Option α} {items : List Value}
    (h : ∀ v ∈ items, ∀ old, (assign old v).isSome = true) (fresh : α) (old : List α) :
    (assignItems assign fresh old items).isSome = true := by
  induction items generalizing old with
  | nil => rfl
  | cons v rest ih =>
    have hrest := ih (fun w hw => h w (List.mem_cons_of_mem _ hw)) old.tail
    rw [assignItems]
    exact isSome_bind (h v (List.mem_cons_self ..) _) fun item => isSome_bind hrest fun items => rfl

/-- The same for a list that keeps what an earlier one has left. -/
theorem isSome_assignList {α : Type} {assign : α → Value → Option α} {items : List Value}
    (h : ∀ v ∈ items, ∀ old, (assign old v).isSome = true) (fresh : α) (old : Kept α) :
    (assignList assign fresh old (.list items)).isSome = true := by
  rw [assignList, Option.isSome_map]
  exact isSome_assignItems h fresh old.items

/-- A list of entries. -/
theorem isSome_assignEntries {items : List Value} (h : ∀ v ∈ items, Reads (.shape .entry) v)
    (old : Kept EntryDraft) : (assignEntries old (.list items)).isSome = true := by
  have hitems : ∀ old, (assignEntryItems old items).isSome = true := by
    induction items with
    | nil => intro old; rfl
    | cons v rest ih =>
      intro old
      have hrest := ih (fun w hw => h w (List.mem_cons_of_mem _ hw)) old.tail
      rw [assignEntryItems]
      exact isSome_bind (h v (List.mem_cons_self ..) _) fun e => isSome_bind hrest fun es => rfl
  rw [assignEntries, Option.isSome_map]
  exact hitems old.items

/-- A list of clauses. -/
theorem isSome_assignClauses {items : List Value} (h : ∀ v ∈ items, Reads (.shape .clause) v)
    (old : Kept ClauseDraft) : (assignClauses old (.list items)).isSome = true := by
  have hitems : ∀ old, (assignClauseItems old items).isSome = true := by
    induction items with
    | nil => intro old; rfl
    | cons v rest ih =>
      intro old
      have hrest := ih (fun w hw => h w (List.mem_cons_of_mem _ hw)) old.tail
      rw [assignClauseItems]
      exact isSome_bind (h v (List.mem_cons_self ..) _) fun c => isSome_bind hrest fun cs => rfl
  rw [assignClauses, Option.isSome_map]
  exact hitems old.items

/-! ### Shapes -/

section Shapes

variable {members : List (String × Value)}

/-- A position has a line and a column. -/
theorem reads_position (h : Readable Shape.position.schema.properties members) :
    Reads (.shape .position) (.object members) := by
  refine isSome_assignMembers fun key v hmem old => ?_
  have hplain := h.plain key v hmem
  unfold assignPosition
  apply isSome_field hplain (by decide)
  · exact fun hkey => (h.at hmem hkey rfl).word _
  apply isSome_field hplain (by decide)
  · exact fun hkey => (h.at hmem hkey rfl).word _
  rfl

/-- A range has a start and an end. -/
theorem reads_range (h : Readable Shape.range.schema.properties members) :
    Reads (.shape .range) (.object members) := by
  intro old
  rw [assignRangeSlot, assignSlot, Option.isSome_map]
  refine isSome_assignMembers (fun key v hmem old => ?_) _
  have hplain := h.plain key v hmem
  unfold assignRange
  apply isSome_field hplain (by decide)
  · exact fun hkey => h.at hmem hkey rfl old.start
  apply isSome_field hplain (by decide)
  · exact fun hkey => h.at hmem hkey rfl old.stop
  rfl

/-- A variable has a name, an export flag and a range. -/
theorem reads_variable (h : Readable Shape.variable.schema.properties members) :
    Reads (.shape .variable) (.object members) := by
  refine isSome_assignMembers fun key v hmem old => ?_
  have hplain := h.plain key v hmem
  unfold assignVariable
  apply isSome_field hplain (by decide)
  · exact fun hkey => (h.at hmem hkey rfl).text _
  apply isSome_field hplain (by decide)
  · exact fun hkey => (h.at hmem hkey rfl).flag _
  apply isSome_field hplain (by decide)
  · exact fun hkey => h.at hmem hkey rfl old.range
  rfl

/-- A parameter has a name, two flags and a range. -/
theorem reads_parameter (h : Readable Shape.parameter.schema.properties members) :
    Reads (.shape .parameter) (.object members) := by
  refine isSome_assignMembers fun key v hmem old => ?_
  have hplain := h.plain key v hmem
  unfold assignParameter
  apply isSome_field hplain (by decide)
  · exact fun hkey => (h.at hmem hkey rfl).text _
  apply isSome_field hplain (by decide)
  · exact fun hkey => (h.at hmem hkey rfl).flag _
  apply isSome_field hplain (by decide)
  · exact fun hkey => (h.at hmem hkey rfl).flag _
  apply isSome_field hplain (by decide)
  · exact fun hkey => h.at hmem hkey rfl old.range
  rfl

/-- A routine has a name, an export flag, parameters, a body and a range. -/
theorem reads_routine (h : Readable Shape.routine.schema.properties members) :
    Reads (.shape .routine) (.object members) := by
  refine isSome_assignMembers fun key v hmem old => ?_
  have hplain := h.plain key v hmem
  unfold assignRoutine
  apply isSome_field hplain (by decide)
  · exact fun hkey => (h.at hmem hkey rfl).text _
  apply isSome_field hplain (by decide)
  · exact fun hkey => (h.at hmem hkey rfl).flag _
  apply isSome_field hplain (by decide)
  · exact fun hkey => h.at hmem hkey rfl old.range
  apply isSome_field hplain (by decide)
  · exact fun hkey => h.at hmem hkey rfl old.parameters
  apply isSome_field hplain (by decide)
  · exact fun hkey => h.at hmem hkey rfl old.body
  rfl

/-- A module has a name, lists of variables and routines, and a range. -/
theorem reads_module (h : Readable Shape.module.schema.properties members) :
    Reads (.shape .module) (.object members) := by
  intro old
  rw [assignSlot]
  have hsome : (assignMembers assignModule (old.getD {}) members).isSome = true := by
    refine isSome_assignMembers (fun key v hmem old => ?_) _
    have hplain := h.plain key v hmem
    unfold assignModule
    apply isSome_field hplain (by decide)
    · exact fun hkey => (h.at hmem hkey rfl).text _
    apply isSome_field hplain (by decide)
    · exact fun hkey => h.at hmem hkey rfl old.range
    apply isSome_field hplain (by decide)
    · exact fun hkey => h.at hmem hkey rfl old.declarations
    apply isSome_field hplain (by decide)
    · exact fun hkey => h.at hmem hkey rfl old.functions
    apply isSome_field hplain (by decide)
    · exact fun hkey => h.at hmem hkey rfl old.procedures
    rfl
  obtain ⟨m, hm⟩ := Option.isSome_iff_exists.mp hsome
  exact ⟨m, by rw [hm]; rfl⟩

/-- The fields of an entry that hold no other entries. -/
theorem isSome_assignInfo (h : Readable Shape.entry.schema.properties members)
    (hfits : ∀ v, ("value", v) ∈ members → fitsDoubles v = true) {key : String} {v : Value}
    (hmem : (key, v) ∈ members) (old : EntryInfo) : (assignInfo old key v).isSome = true := by
  have hplain := h.plain key v hmem
  unfold assignInfo
  apply isSome_field hplain (by decide)
  · exact fun hkey => (h.at hmem hkey rfl).text _
  apply isSome_field hplain (by decide)
  · exact fun hkey => (h.at hmem hkey rfl).text _
  apply isSome_field hplain (by decide)
  · exact fun hkey => (h.at hmem hkey rfl).flag _
  apply isSome_field hplain (by decide)
  · exact fun hkey => h.at hmem hkey rfl old.range
  apply isSome_field hplain (by decide)
  · exact fun hkey => isSome_readConstant v (hfits v (hkey ▸ hmem))
  apply isSome_field hplain (by decide)
  · exact fun hkey => (h.at hmem hkey rfl).text _
  apply isSome_field hplain (by decide)
  · exact fun hkey => (h.at hmem hkey rfl).text _
  rfl

/-- All fields of an entry: those that hold other entries are tried first. -/
theorem isSome_assignParts (h : Readable Shape.entry.schema.properties members)
    (hfits : ∀ v, ("value", v) ∈ members → fitsDoubles v = true) (old : EntryParts) :
    (assignParts old members).isSome = true := by
  induction members generalizing old with
  | nil => rfl
  | cons m rest ih =>
    obtain ⟨key, v⟩ := m
    have hmem : (key, v) ∈ (key, v) :: rest := List.mem_cons_self ..
    have hplain := h.plain key v hmem
    rw [assignParts]
    have hrest : ∀ new, (assignParts new rest).isSome = true :=
      ih h.tail fun w hw => hfits w (List.mem_cons_of_mem _ hw)
    apply isSome_field_then hrest hplain (by decide)
    · exact fun hkey => h.at hmem hkey rfl old.left
    apply isSome_field_then hrest hplain (by decide)
    · exact fun hkey => h.at hmem hkey rfl old.right
    apply isSome_field_then hrest hplain (by decide)
    · exact fun hkey => h.at hmem hkey rfl old.target
    apply isSome_field_then hrest hplain (by decide)
    · exact fun hkey => h.at hmem hkey rfl old.expression
    apply isSome_field_then hrest hplain (by decide)
    · exact fun hkey => h.at hmem hkey rfl old.condition
    apply isSome_field_then hrest hplain (by decide)
    · exact fun hkey => h.at hmem hkey rfl old.counter
    apply isSome_field_then hrest hplain (by decide)
    · exact fun hkey => h.at hmem hkey rfl old.start
    apply isSome_field_then hrest hplain (by decide)
    · exact fun hkey => h.at hmem hkey rfl old.stop
    apply isSome_field_then hrest hplain (by decide)
    · exact fun hkey => h.at hmem hkey rfl old.collection
    apply isSome_field_then hrest hplain (by decide)
    · exact fun hkey => h.at hmem hkey rfl old.arguments
    apply isSome_field_then hrest hplain (by decide)
    · exact fun hkey => h.at hmem hkey rfl old.thenStatements
    apply isSome_field_then hrest hplain (by decide)
    · exact fun hkey => h.at hmem hkey rfl old.clauses
    apply isSome_field_then hrest hplain (by decide)
    · exact fun hkey => h.at hmem hkey rfl old.elseStatements
    apply isSome_field_then hrest hplain (by decide)
    · exact fun hkey => h.at hmem hkey rfl old.statements
    refine isSome_bind ?_ hrest
    rw [Option.isSome_map]
    exact isSome_assignInfo h hfits hmem old.info

/-- An entry can be read if its members can. -/
theorem reads_entry (h : Readable Shape.entry.schema.properties members)
    (hfits : hasFittingConstants (.shape .entry) members = true) :
    Reads (.shape .entry) (.object members) := by
  intro old
  rw [assignEntry, Option.isSome_map]
  refine isSome_assignParts h (fun v hv => ?_) old.parts
  have hone := List.all_eq_true.mp hfits ("value", v) hv
  simpa using hone

/-- A clause has a condition and statements. -/
theorem reads_clause (h : Readable Shape.clause.schema.properties members) :
    Reads (.shape .clause) (.object members) := by
  intro old
  rw [assignClause]
  induction members generalizing old with
  | nil => rfl
  | cons m rest ih =>
    obtain ⟨key, v⟩ := m
    obtain ⟨condition, statements⟩ := old
    have hmem : (key, v) ∈ (key, v) :: rest := List.mem_cons_self ..
    have hplain := h.plain key v hmem
    rw [assignClauseMembers]
    have hrest : ∀ new, (assignClauseMembers new rest).isSome = true := ih h.tail
    apply isSome_field_then hrest hplain (by decide)
    · exact fun hkey => h.at hmem hkey rfl condition
    apply isSome_field_then hrest hplain (by decide)
    · exact fun hkey => h.at hmem hkey rfl statements
    exact hrest _

end Shapes

end ModuleLint.Document
