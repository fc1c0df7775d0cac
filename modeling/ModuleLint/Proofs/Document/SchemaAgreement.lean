import ModuleLint.Document.Loader
import ModuleLint.Proofs.Document.Reading

/-!
# The schema and the reader agree

Two descriptions of one format stand side by side: the schema that texts are compared with, and the reader that
fills drafts key by key. On regular texts (`Loader.isRegularText`) they agree: what has no violations can be
read (`reads_of_no_violations`, which follows the recursion of the schema through values of any depth). So a
strict loader accepts just what is valid.
-/

set_option autoImplicit false

namespace ModuleLint.Document

open ModuleLint.Json (Value Numeral)

/-! ## Values without violations -/

section Resolved

variable {s : Schema}

/-- A schema that is not a record or a list is not a named shape either. -/
theorem eq_of_resolved {r : Schema} (hs : s.resolved = r) (hr : r.type ≠ .object) (hlist : r.type ≠ .array) :
    s = r := by
  cases s with
  | shape sh =>
    subst hs
    cases sh with
    | statements => exact absurd rfl hlist
    | _ => exact absurd rfl hr
  | _ => exact hs

/-- A list can be read if its items can. -/
theorem reads_list {element : Shape} {items : List Value} (hs : s.resolved = .items element)
    (h : ∀ v ∈ items, Reads (.shape element) v) : Reads s (.list items) := by
  cases s with
  | items el =>
    cases hs
    cases element with
    | «variable» => exact isSome_assignList h {}
    | parameter => exact isSome_assignList h {}
    | routine => exact isSome_assignList h {}
    | entry => exact isSome_assignEntries h
    | clause => exact isSome_assignClauses h
    | _ => trivial
  | shape sh =>
    cases sh with
    | statements =>
      cases hs
      exact isSome_assignEntries h
    | _ => cases hs
  | _ => cases hs

/-- An object can be read if its members can, shape by shape. -/
theorem reads_object {required : List String} {properties : List (String × Schema)}
    {members : List (String × Value)} (hs : s.resolved = .record required properties)
    (h : Readable properties members) (hfits : hasFittingConstants s members = true) :
    Reads s (.object members) := by
  cases s with
  | record required properties => trivial
  | shape sh =>
    cases sh with
    | position => cases hs; exact reads_position h
    | range => cases hs; exact reads_range h
    | «variable» => cases hs; exact reads_variable h
    | parameter => cases hs; exact reads_parameter h
    | routine => cases hs; exact reads_routine h
    | module => cases hs; exact reads_module h
    | statements => cases hs
    | entry => cases hs; exact reads_entry h hfits
    | clause => cases hs; exact reads_clause h
  | _ => cases hs

end Resolved

/-- The keys of members that are not repeated are looked up as they are. -/
theorem propertySchema?_eq (properties : List (String × Schema)) {key : String}
    {later : List (String × Value)} (h : key ∉ later.map Prod.fst) :
    propertySchema? properties key later = property? properties key := by
  have hnone : later.any (fun m => m.1 == key) = false := by
    rw [List.any_eq_false]
    intro m hm hkey
    exact h (List.mem_map.mpr ⟨m, hm, by simpa using hkey⟩)
  simp only [propertySchema?, hnone, Bool.false_eq_true, if_false, property?]

mutual

/-- What does not violate the schema and is regular can be read. -/
theorem reads_of_no_violations : ∀ (v : Value) (path : List String) (s : Schema),
    violationsAt path s v = [] → isRegular s v = true → Reads s v
  | .null, path, s, h, _ => by simp [violationsAt] at h
  | .bool b, path, s, h, _ => by
    rw [violationsAt] at h
    split at h
    next hs =>
      rw [eq_of_resolved hs (by simp [Schema.type]) (by simp [Schema.type])]
      exact ⟨b, rfl⟩
    next => simp at h
  | .text t, path, s, h, _ => by
    rw [violationsAt] at h
    split at h
    next hs =>
      rw [eq_of_resolved hs (by simp [Schema.type]) (by simp [Schema.type])]
      exact ⟨t, rfl⟩
    next => simp at h
  | .number n, path, s, h, hregular => by
    rw [violationsAt] at h
    split at h
    next hs =>
      simp only [isRegular, hs] at hregular
      have hsign : n.isBelowZero = false := by
        cases hbelow : n.isBelowZero with
        | false => rfl
        | true =>
          simp only [hbelow, if_true] at h
          split at h <;> simp at h
      obtain ⟨w, hw⟩ := exists_word hregular hsign
      rw [eq_of_resolved hs (by simp [Schema.type]) (by simp [Schema.type])]
      exact ⟨n, w, rfl, hw⟩
    next => simp at h
  | .list items, path, s, h, hregular => by
    rw [violationsAt] at h
    split at h
    next element hs =>
      simp only [isRegular, hs] at hregular
      exact reads_list hs (reads_of_no_violations_items items path 0 element h hregular)
    next => simp at h
  | .object members, path, s, h, hregular => by
    rw [violationsAt] at h
    split at h
    next required properties hs =>
      obtain ⟨-, hmembers⟩ := List.append_eq_nil_iff.mp h
      simp only [isRegular, hs, Bool.and_eq_true] at hregular
      obtain ⟨⟨hkeys, hfits⟩, hbelow⟩ := hregular
      exact reads_object hs (readable_of_no_violations members path properties hmembers hkeys hbelow) hfits
    next => simp at h

/-- The same for the items of a list. -/
theorem reads_of_no_violations_items : ∀ (items : List Value) (path : List String) (index : Nat)
    (element : Shape), violationsOfItems path index element items = [] →
    areRegular element items = true → ∀ v ∈ items, Reads (.shape element) v
  | [], _, _, _, _, _ => by simp
  | v :: rest, path, index, element, h, hregular => by
    obtain ⟨hv, hrest⟩ := List.append_eq_nil_iff.mp h
    obtain ⟨hvregular, hrestregular⟩ := Bool.and_eq_true_iff.mp hregular
    have hfirst := reads_of_no_violations v _ _ hv hvregular
    have hlater := reads_of_no_violations_items rest path (index + 1) element hrest hrestregular
    exact List.forall_mem_cons.mpr ⟨hfirst, hlater⟩

/-- The same for the members of an object. -/
theorem readable_of_no_violations : ∀ (members : List (String × Value)) (path : List String)
    (properties : List (String × Schema)), violationsOfMembers path properties members = [] →
    hasPlainKeys members = true → areRegularMembers properties members = true →
    Readable properties members
  | [], _, _, _, _, _ => ⟨by simp, by simp⟩
  | (key, v) :: rest, path, properties, h, hkeys, hregular => by
    obtain ⟨hv, hrest⟩ := List.append_eq_nil_iff.mp h
    obtain ⟨hvregular, hrestregular⟩ := Bool.and_eq_true_iff.mp hregular
    simp only [hasPlainKeys, Bool.and_eq_true, decide_eq_true_eq, List.map_cons, List.nodup_cons,
      List.all_cons] at hkeys
    obtain ⟨⟨hnew, hnodup⟩, hplain, hrestplain⟩ := hkeys
    have hlater := readable_of_no_violations rest path properties hrest
      (by simp [hasPlainKeys, hnodup, hrestplain]) hrestregular
    rw [propertySchema?_eq properties hnew] at hv
    constructor
    · intro k w hmem
      rcases List.mem_cons.mp hmem with heq | hmem
      · cases heq
        exact hplain
      · exact hlater.plain k w hmem
    · intro k w s hmem hs
      rcases List.mem_cons.mp hmem with heq | hmem
      · cases heq
        rw [hs] at hv hvregular
        exact reads_of_no_violations v _ s hv hvregular
      · exact hlater.reads k w s hmem hs

end

/-! ## Documents -/

section Documents

variable {members : List (String × Value)}

/-- A document has a module and a source. -/
theorem isSome_assignDocument (h : Readable schema.properties members) (old : Draft) :
    (assignMembers assignDocument old members).isSome = true := by
  refine isSome_assignMembers (fun key v hmem old => ?_) old
  have hplain := h.plain key v hmem
  unfold assignDocument
  apply isSome_field hplain (by decide)
  · intro hkey
    obtain ⟨m, hm⟩ := h.at hmem hkey rfl old.module?
    rw [hm]
    rfl
  apply isSome_field hplain (by decide)
  · intro hkey
    obtain ⟨t, rfl⟩ := h.at hmem hkey rfl
    rfl
  rfl

/-- A member keeps the module of a document or gives it one. -/
theorem isSome_module?_assignDocument (h : Readable schema.properties members) {key : String} {v : Value}
    (hmem : (key, v) ∈ members) {old new : Draft} (hnew : assignDocument old key v = some new)
    (hmodule : old.module?.isSome = true ∨ key = "module") : new.module?.isSome = true := by
  unfold assignDocument at hnew
  cases hmatch : matchesKey "module" key with
  | true =>
    have hkey := eq_of_isPlainKey (h.plain key v hmem) (by decide) hmatch
    obtain ⟨m, hm⟩ := h.at hmem hkey rfl old.module?
    simp only [hmatch, if_true, hm, Option.map_some, Option.some.injEq] at hnew
    rw [← hnew]
    rfl
  | false =>
    have hold : old.module?.isSome = true := by
      rcases hmodule with hold | rfl
      · exact hold
      · exact absurd hmatch (by decide)
    simp only [hmatch, Bool.false_eq_true, if_false] at hnew
    split at hnew
    · obtain ⟨source, -, rfl⟩ := Option.map_eq_some_iff.mp hnew
      exact hold
    · cases hnew
      exact hold

/-- A document with a module member yields a module. -/
theorem isSome_module?_assignMembers (h : Readable schema.properties members) {old new : Draft}
    (hnew : assignMembers assignDocument old members = some new)
    (hmodule : old.module?.isSome = true ∨ "module" ∈ members.map Prod.fst) :
    new.module?.isSome = true := by
  induction members generalizing old with
  | nil =>
    cases hnew
    simpa using hmodule
  | cons m rest ih =>
    obtain ⟨key, v⟩ := m
    obtain ⟨next, hnext, hrest⟩ := Option.bind_eq_some_iff.mp hnew
    refine ih h.tail hrest ?_
    by_cases hlater : "module" ∈ rest.map Prod.fst
    · exact .inr hlater
    · refine .inl (isSome_module?_assignDocument h (List.mem_cons_self ..) hnext ?_)
      rcases hmodule with hold | hmem
      · exact .inl hold
      · rcases List.mem_cons.mp hmem with hkey | hmem
        · exact .inr hkey.symm
        · exact absurd hmem hlater

end Documents

/-- What is regular and has no violations is a document with a module. -/
theorem exists_module_of_no_violations {v : Value} (h : violations v = [])
    (hregular : isRegular schema v = true) :
    ∃ d m, ofValue? v = some d ∧ d.module? = some m := by
  cases v with
  | object members =>
    have hall : missingKeys [] ["module"] members ++ violationsOfMembers [] schema.properties members = [] := by
      rw [violations, violationsAt] at h
      exact h
    have hparts : (hasPlainKeys members && hasFittingConstants schema members
        && areRegularMembers schema.properties members) = true := by
      rw [isRegular] at hregular
      exact hregular
    obtain ⟨hmissing, hmembers⟩ := List.append_eq_nil_iff.mp hall
    simp only [Bool.and_eq_true] at hparts
    obtain ⟨⟨hkeys, -⟩, hbelow⟩ := hparts
    have hreadable := readable_of_no_violations members [] schema.properties hmembers hkeys hbelow
    have hmodule : "module" ∈ members.map Prod.fst := by
      cases hany : members.any (fun m => m.1 == "module") with
      | true =>
        obtain ⟨m, hm, hkey⟩ := List.any_eq_true.mp hany
        exact List.mem_map.mpr ⟨m, hm, by simpa using hkey⟩
      | false => simp [missingKeys, hany] at hmissing
    obtain ⟨d, hd⟩ := Option.isSome_iff_exists.mp (isSome_assignDocument hreadable {})
    have hsome := isSome_module?_assignMembers hreadable hd (.inr hmodule)
    obtain ⟨m, hm⟩ := Option.isSome_iff_exists.mp hsome
    refine ⟨d.finish, m.finish, ?_, ?_⟩
    · rw [ofValue?, assignObject, hd]
      rfl
    · rw [Draft.finish, hm]
      rfl
  | _ => simp [violations, violationsAt, schema, Schema.resolved] at h

/-- There are no texts just if there are no violations. -/
theorem violationTexts_eq_nil_iff {v : Value} : violationTexts v = [] ↔ violations v = [] := by
  have hlength : (violationTexts v).length = (violations v).length := by
    rw [violationTexts, List.length_mergeSort, List.length_map]
  rw [← List.length_eq_zero_iff, hlength, List.length_eq_zero_iff]

end ModuleLint.Document

namespace ModuleLint.Loader

/-- Whether a text that can be read as JSON at all is one value and nothing else, which is regular. -/
def isRegularText (data : String) : Bool :=
  match Json.readFirst data.toList with
  | some (value, rest) => (Json.skipLayout rest).isEmpty && Document.isRegular Document.schema value
  | none => true

/-- A strict loader rejects what violates the schema, with the violations as details. -/
theorem decode_of_invalid {options : LoaderOptions} {data source name : String} {texts : List String}
    (hstrict : options.strict = true) (hvalid : validate? data = some texts) (htexts : texts ≠ []) :
    (decode options data source name).error
      = some { source := source, cause := .schema, details := describe texts } := by
  obtain ⟨⟨value, rest⟩, hread, rfl⟩ := Option.map_eq_some_iff.mp hvalid
  unfold decode
  simp only [hread, hstrict, if_true]
  cases hviolations : Document.violationTexts value with
  | nil => exact absurd hviolations htexts
  | cons first more => rfl

/-- A valid text is decoded in the same way whether the loader is strict or not. -/
theorem decode_of_valid {options : LoaderOptions} {data source name : String}
    (hvalid : validate? data = some []) :
    decode options data source name = decodeText data.toList source name [] := by
  obtain ⟨⟨value, rest⟩, hread, hnone⟩ := Option.map_eq_some_iff.mp hvalid
  unfold decode
  simp only [hread, hnone]

/-- A regular text without violations is decoded. -/
theorem decodeText_of_valid {data source name : String} {noted : List Telemetry.Record}
    (hregular : isRegularText data = true) (hvalid : validate? data = some []) :
    (decodeText data.toList source name noted).error = none := by
  obtain ⟨⟨value, rest⟩, hread, hnone⟩ := Option.map_eq_some_iff.mp hvalid
  simp only [isRegularText, hread, Bool.and_eq_true] at hregular
  obtain ⟨d, m, hd, hm⟩ := Document.exists_module_of_no_violations
    (Document.violationTexts_eq_nil_iff.mp hnone) hregular.2
  have hwhole : Json.readWhole data.toList = some value := by
    simp only [Json.readWhole, hread, Option.bind_eq_bind, Option.bind_some, hregular.1, if_true]
  simp only [decodeText, hwhole, Option.bind_some, hd, hm]

/-- On regular texts a strict loader accepts just what is valid, complains about the schema just where there
are violations, and yields the same module as a lax one. -/
theorem strict_accepts_iff_valid (limit : UInt64) (data source name : String)
    (hregular : isRegularText data = true) :
    let strict := decode { maxSize := limit, strict := true } data source name
    let lax := decode { maxSize := limit, strict := false } data source name
    (strict.error = none ↔ validate? data = some [])
      ∧ ((∃ e, strict.error = some e ∧ e.cause = .schema)
        ↔ ∃ texts, validate? data = some texts ∧ texts ≠ [])
      ∧ (strict.error = none → lax.error = none ∧ strict.module = lax.module) := by
  intro strict lax
  cases hvalid : validate? data with
  | none =>
    have hread : Json.readFirst data.toList = none := Option.map_eq_none_iff.mp hvalid
    have herror : strict.error = some { source := source, cause := .malformed, details := [] } := by
      simp only [strict, decode, hread, fail]
    simp [herror]
  | some texts =>
    by_cases htexts : texts = []
    · subst htexts
      have hsame : strict = lax := (decode_of_valid hvalid).trans (decode_of_valid hvalid).symm
      have herror : strict.error = none := by
        simp only [strict, decode_of_valid hvalid]
        exact decodeText_of_valid hregular hvalid
      simp [← hsame, herror]
    · have herror : strict.error
          = some { source := source, cause := .schema, details := describe texts } :=
        decode_of_invalid rfl hvalid htexts
      simp [herror, htexts]

/-- A text without violations passes the check. -/
theorem validate?_eq_some_nil {data : String}
    (h : (Json.readFirst data.toList).map (fun x => Document.violations x.1) = some []) :
    validate? data = some [] := by
  obtain ⟨⟨value, rest⟩, hread, hnone⟩ := Option.map_eq_some_iff.mp h
  rw [validate?, hread]
  exact congrArg some (Document.violationTexts_eq_nil_iff.mpr hnone)

/-- A text with a position, and with a number that would not do for a line. -/
def regularText : String :=
  "\x7b\"module\":\x7b\"range\":\x7b\"start\":\x7b\"line\":1,\"column\":0\x7d,\"end\":\x7b\"line\":2,\"column\":0\x7d\x7d,\"Size\":-0\x7d\x7d"

/-- The text below is regular and has no violations. -/
theorem valid_regularText : isRegularText regularText = true
    ∧ (Json.readFirst regularText.toList).map (fun x => Document.violations x.1) = some [] := by
  decide +kernel

/-- A strict loader accepts it. -/
theorem strict_accepts_iff_valid_regularText :
    isRegularText regularText = true
      ∧ (decode { maxSize := 0, strict := true } regularText "" "m").error = none
      ∧ (decode { maxSize := 0, strict := true } regularText "" "m").module
        = (decode { maxSize := 0, strict := false } regularText "" "m").module := by
  obtain ⟨hregular, hnone⟩ := valid_regularText
  obtain ⟨haccepts, -, hsame⟩ := strict_accepts_iff_valid 0 regularText "" "m" hregular
  have herror := haccepts.mpr (validate?_eq_some_nil hnone)
  exact ⟨hregular, herror, (hsame herror).2⟩

end ModuleLint.Loader
