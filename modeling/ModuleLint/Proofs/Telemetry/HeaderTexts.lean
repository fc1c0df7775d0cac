import Mathlib.Data.List.TakeDrop
import Mathlib.Data.String.Basic
import ModuleLint.Proofs.Text.Splitting
import ModuleLint.Telemetry.Headers

/-!
# Headers are read as they are written

A text of headers is written from segments with commas between them (`written`). A segment is a key and a value with
an equals sign between them and white space around each, or a text that is no pair. Reading such a text gives the
pairs back, and of several values of a key the last one (`parse_written`). The cut at the first equals sign is made
after the ends of a segment are trimmed, and both halves are then trimmed again. All this comes to trimming the two
halves of the segment (`pair?_append_cons`).
-/

set_option autoImplicit false

namespace ModuleLint.Telemetry.Headers

/-- A text with white space around it. The text itself neither begins nor ends with white space. -/
structure Padded where
  before : List Char
  core : List Char
  after : List Char
  blank_before : ∀ c ∈ before, Text.isBlank c = true
  blank_after : ∀ c ∈ after, Text.isBlank c = true
  head_core : ∀ c ∈ core.head?, Text.isBlank c = false
  last_core : ∀ c ∈ core.getLast?, Text.isBlank c = false

/-- The text together with the white space around it. -/
def Padded.chars (p : Padded) : List Char := p.before ++ p.core ++ p.after

/-- What stands between two commas: a key and a value, or something without an equals sign. -/
inductive Segment where
  | pair (key value : Padded) (key_plain : ',' ∉ key.core ∧ '=' ∉ key.core) (value_plain : ',' ∉ value.core)
  | other (text : List Char) (plain : ',' ∉ text ∧ '=' ∉ text)

namespace Segment

/-- A segment as it is written. -/
def chars : Segment → List Char
  | pair key value _ _ => key.chars ++ '=' :: value.chars
  | other text _ => text

/-- The key and the value of a segment that has them. -/
def header? : Segment → Option (String × String)
  | pair key value _ _ => some (String.ofList key.core, String.ofList value.core)
  | other _ _ => none

end Segment

/-- Segments written one after another, with commas between them. -/
def written (segments : List Segment) : String := String.ofList ([','].intercalate (segments.map Segment.chars))

/-! ## One segment -/

/-- A character that is neither blank nor in the core does not occur. -/
theorem Padded.not_mem_chars {p : Padded} {c : Char} (hblank : Text.isBlank c = false) (hcore : c ∉ p.core) :
    c ∉ p.chars := by
  intro hc
  have hkept : ¬ Text.isBlank c = true := by simp [hblank]
  rcases List.mem_append.mp hc with hc | hc
  · rcases List.mem_append.mp hc with hc | hc
    · exact hkept (p.blank_before c hc)
    · exact hcore hc
  · exact hkept (p.blank_after c hc)

/-- Trimming a padded text gives its core. -/
theorem Padded.trim_chars (p : Padded) : Text.trim (String.ofList p.chars) = String.ofList p.core := by
  unfold Text.trim
  rw [String.toList_ofList]
  exact congrArg String.ofList (Text.trimEnds_padded p.blank_before p.blank_after p.head_core p.last_core)

/-- No segment holds a comma, so the text is split at the commas between them. -/
theorem Segment.comma_not_mem_chars (s : Segment) : ',' ∉ s.chars := by
  cases s with
  | pair key value hkey hvalue =>
    have hcomma : Text.isBlank ',' = false := by decide
    simp only [chars, List.mem_append, List.mem_cons, not_or]
    exact ⟨Padded.not_mem_chars hcomma hkey.1, by decide, Padded.not_mem_chars hcomma hvalue⟩
  | other text hplain => exact hplain.1

/-- A segment is cut at its first equals sign, and both parts are trimmed. -/
theorem pair?_append_cons {key value : List Char} (hkey : '=' ∉ key) :
    pair? (String.ofList (key ++ '=' :: value))
      = some (Text.trim (String.ofList key), Text.trim (String.ofList value)) := by
  have hsign : Text.isBlank '=' = false := by decide
  have hbefore : ∀ c ∈ key.dropWhile Text.isBlank, (c != '=') = true := by
    intro c hc
    rw [bne_iff_ne]
    rintro rfl
    exact hkey ((List.dropWhile_sublist _).subset hc)
  have htrim : (Text.trim (String.ofList (key ++ '=' :: value))).toList
      = key.dropWhile Text.isBlank ++ '=' :: value.rdropWhile Text.isBlank := by
    unfold Text.trim
    rw [String.toList_ofList, String.toList_ofList, Text.trimEnds_append_cons hsign]
  have hspan : (key.dropWhile Text.isBlank ++ '=' :: value.rdropWhile Text.isBlank).span (· != '=')
      = (key.dropWhile Text.isBlank, '=' :: value.rdropWhile Text.isBlank) := by
    rw [List.span_eq_takeWhile_dropWhile, List.takeWhile_append_of_pos hbefore, List.dropWhile_append_of_pos hbefore]
    simp
  unfold pair?
  rw [htrim, hspan]
  simp only [Text.trim, String.toList_ofList, Text.trimEnds_dropWhile, Text.trimEnds_rdropWhile]

/-- A text without an equals sign is no pair. -/
theorem pair?_eq_none {text : List Char} (htext : '=' ∉ text) : pair? (String.ofList text) = none := by
  have hrest : (Text.trim (String.ofList text)).toList.dropWhile (· != '=') = [] := by
    rw [List.dropWhile_eq_nil_iff]
    intro c hc
    rw [bne_iff_ne]
    rintro rfl
    rw [Text.trim, String.toList_ofList, String.toList_ofList] at hc
    exact htext (Text.mem_of_mem_trimEnds hc)
  unfold pair?
  rw [List.span_eq_takeWhile_dropWhile, hrest]

/-- A segment is read as the header that it writes, if it writes one. -/
theorem pair?_chars (s : Segment) : pair? (String.ofList s.chars) = s.header? := by
  cases s with
  | pair key value hkey hvalue =>
    have hsign : '=' ∉ key.chars := Padded.not_mem_chars (by decide) hkey.2
    rw [Segment.chars, pair?_append_cons hsign, key.trim_chars, value.trim_chars, Segment.header?]
  | other text hplain => exact pair?_eq_none hplain.2

/-- A written text is read back segment by segment. -/
theorem filterMap_pair?_split_written (segments : List Segment) :
    (Text.split ',' (written segments)).filterMap pair? = segments.filterMap Segment.header? := by
  have hplain : ∀ piece ∈ segments.map Segment.chars, ',' ∉ piece := by
    intro piece hpiece
    obtain ⟨s, -, rfl⟩ := List.mem_map.mp hpiece
    exact s.comma_not_mem_chars
  unfold Text.split written
  rw [String.toList_ofList, List.filterMap_map]
  by_cases hnil : segments = []
  · -- the empty text is cut into one piece, which is no pair
    subst hnil
    rfl
  · rw [Text.splitAt_intercalate (mt List.map_eq_nil_iff.mp hnil) hplain, List.filterMap_map]
    apply List.filterMap_congr
    intro s _
    rw [Function.comp_apply, Function.comp_apply, pair?_chars]

/-! ## Headers by their keys -/

/-- The first header of a key counts. -/
theorem lookup_cons_eq (key value k : String) (headers : List (String × String)) :
    List.lookup k ((key, value) :: headers) = if k = key then some value else headers.lookup k := by
  by_cases hk : k = key
  · rw [hk, List.lookup_cons_self, if_pos rfl]
  · rw [List.lookup_cons, beq_eq_false_iff_ne.mpr hk, if_neg hk]

/-- A value is put in front of the headers, in place of the first one, or among those after it. -/
theorem set_cons (key value : String) (header : String × String) (rest : List (String × String)) :
    (key < header.1 ∧ set key value (header :: rest) = (key, value) :: header :: rest)
    ∨ (key = header.1 ∧ set key value (header :: rest) = (key, value) :: rest)
    ∨ (header.1 < key ∧ set key value (header :: rest) = header :: set key value rest) := by
  rw [set]
  by_cases hlt : key < header.1
  · exact .inl ⟨hlt, if_pos hlt⟩
  · rw [if_neg hlt]
    by_cases hsame : key = header.1
    · exact .inr (.inl ⟨hsame, if_pos (beq_iff_eq.mpr hsame)⟩)
    · exact .inr (.inr ⟨lt_of_le_of_ne (not_lt.mp hlt) (Ne.symm hsame), if_neg (mt beq_iff_eq.mp hsame)⟩)

/-- One value is set, and all others stay. -/
theorem lookup_set (key value k : String) (headers : List (String × String)) :
    (set key value headers).lookup k = if k = key then some value else headers.lookup k := by
  induction headers with
  | nil => exact lookup_cons_eq key value k []
  | cons header rest ih =>
    rcases set_cons key value header rest with ⟨-, hset⟩ | ⟨hsame, hset⟩ | ⟨hlt, hset⟩
    · rw [hset, lookup_cons_eq]
    · rw [hset, lookup_cons_eq, lookup_cons_eq header.1 header.2, ← hsame]
      by_cases hk : k = key
      · rw [if_pos hk, if_pos hk]
      · rw [if_neg hk, if_neg hk, if_neg hk]
    · rw [hset, lookup_cons_eq header.1 header.2, lookup_cons_eq header.1 header.2, ih]
      by_cases hk : k = key
      · rw [if_neg (hk ▸ ne_of_gt hlt), if_pos hk, if_pos hk]
      · rw [if_neg hk, if_neg hk]

/-- After a header has been set there is one. -/
theorem set_ne_nil (key value : String) (headers : List (String × String)) : set key value headers ≠ [] := by
  intro hnil
  have hlookup := lookup_set key value key headers
  rw [hnil, if_pos rfl] at hlookup
  cases hlookup

/-- Setting a header adds no other one. -/
theorem mem_set {key value : String} {headers : List (String × String)} {h : String × String}
    (hmem : h ∈ set key value headers) : h.1 = key ∨ h ∈ headers := by
  induction headers with
  | nil => exact .inl (congrArg Prod.fst (List.mem_singleton.mp hmem))
  | cons header rest ih =>
    rcases set_cons key value header rest with ⟨-, hset⟩ | ⟨-, hset⟩ | ⟨-, hset⟩
    · rw [hset] at hmem
      exact (List.mem_cons.mp hmem).imp_left (congrArg Prod.fst)
    · rw [hset] at hmem
      exact (List.mem_cons.mp hmem).imp (congrArg Prod.fst) (List.mem_cons_of_mem _)
    · rw [hset] at hmem
      rcases List.mem_cons.mp hmem with rfl | hmem
      · exact .inr List.mem_cons_self
      · exact (ih hmem).imp_right (List.mem_cons_of_mem _)

/-- The keys stay in increasing order. -/
theorem pairwise_set (key value : String) {headers : List (String × String)}
    (h : headers.Pairwise fun a b => a.1 < b.1) : (set key value headers).Pairwise fun a b => a.1 < b.1 := by
  induction headers with
  | nil => exact List.pairwise_singleton _ _
  | cons header rest ih =>
    obtain ⟨hheader, hrest⟩ := List.pairwise_cons.mp h
    rcases set_cons key value header rest with ⟨hlt, hset⟩ | ⟨hsame, hset⟩ | ⟨hlt, hset⟩
    · rw [hset]
      refine List.pairwise_cons.mpr ⟨?_, h⟩
      intro other hother
      rcases List.mem_cons.mp hother with rfl | hother
      · exact hlt
      · exact lt_trans hlt (hheader other hother)
    · rw [hset]
      refine List.pairwise_cons.mpr ⟨?_, hrest⟩
      rw [hsame]
      exact hheader
    · rw [hset]
      refine List.pairwise_cons.mpr ⟨?_, ih hrest⟩
      intro other hother
      rcases mem_set hother with hkey | hold
      · rw [hkey]
        exact hlt
      · exact hheader other hold

/-- The headers of some pairs, set one after another. -/
def ofPairs (pairs : List (String × String)) : List (String × String) :=
  pairs.foldl (fun headers p => set p.1 p.2 headers) []

/-- Pairs are set one after another. -/
theorem ofPairs_concat (pairs : List (String × String)) (p : String × String) :
    ofPairs (pairs ++ [p]) = set p.1 p.2 (ofPairs pairs) := by
  unfold ofPairs
  rw [List.foldl_append]
  rfl

/-- A header has the value of the last pair with its key. -/
theorem lookup_ofPairs (pairs : List (String × String)) (k : String) :
    (ofPairs pairs).lookup k = pairs.reverse.lookup k := by
  induction pairs using List.reverseRecOn with
  | nil => rfl
  | append_singleton pairs p ih =>
    rw [ofPairs_concat, lookup_set, ih, List.reverse_append, List.reverse_singleton, List.singleton_append]
    exact (lookup_cons_eq p.1 p.2 k _).symm

/-- The headers are in the order of their keys, each once. -/
theorem pairwise_ofPairs (pairs : List (String × String)) : (ofPairs pairs).Pairwise fun a b => a.1 < b.1 := by
  induction pairs using List.reverseRecOn with
  | nil => exact List.Pairwise.nil
  | append_singleton pairs p ih =>
    rw [ofPairs_concat]
    exact pairwise_set p.1 p.2 ih

/-- There are no headers when there are no pairs. -/
theorem ofPairs_eq_nil_iff (pairs : List (String × String)) : ofPairs pairs = [] ↔ pairs = [] := by
  rcases List.eq_nil_or_concat' pairs with rfl | ⟨front, p, rfl⟩
  · exact ⟨fun _ => rfl, fun _ => rfl⟩
  · rw [ofPairs_concat]
    simp [set_ne_nil]

/-- What is read from a written text is the map of its pairs: its keys are in increasing order, so there is one header
for each, the value of a key is that of the last pair with it, and there are no headers only if there are no pairs. -/
theorem parse_written (segments : List Segment) :
    (∀ key, (parse (written segments)).lookup key = (segments.filterMap Segment.header?).reverse.lookup key)
    ∧ (parse (written segments)).Pairwise (fun a b => a.1 < b.1)
    ∧ (parse (written segments) = [] ↔ segments.filterMap Segment.header? = []) := by
  have hparse : parse (written segments) = ofPairs (segments.filterMap Segment.header?) := by
    rw [← filterMap_pair?_split_written]
    rfl
  rw [hparse]
  exact ⟨lookup_ofPairs _, pairwise_ofPairs _, ofPairs_eq_nil_iff _⟩

example : parse " token = a=b ,none, ,kind=x,token=\tc " = [("kind", "x"), ("token", "c")] := by decide +kernel

end ModuleLint.Telemetry.Headers
