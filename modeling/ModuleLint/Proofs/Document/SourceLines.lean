import ModuleLint.Proofs.Document.WellFormed
import ModuleLint.Proofs.Text.Splitting
import ModuleLint.Rule.Violation

/-!
# The lines of a source text

A source text is written line by line with line breaks between the lines, each of them a line feed or a carriage return
and a line feed (`Text.joined`). Cutting it up gives the lines back, whichever breaks are used (`Text.lines_joined`), so
in the module that is decoded from a document with this text the lines have the numbers that they have in the text.
Carriage returns inside of a line belong to it.
-/

set_option autoImplicit false

namespace ModuleLint

namespace Text

/-- What may stand between two lines. -/
inductive LineBreak where
  | feed
  | returnFeed
deriving Repr, DecidableEq

/-- A line break as it is written. -/
def LineBreak.text : LineBreak → String
  | feed => "\n"
  | returnFeed => "\r\n"

/-- A line of a source text: it has no line feed in it and does not end in a carriage return. -/
structure SourceLine where
  text : String
  feed_not_mem : '\n' ∉ text.toList
  last_ne_return : text.toList.getLast? ≠ some '\r'

/-- A line and those that follow it, with the breaks before them. -/
def joined (first : SourceLine) : List (LineBreak × SourceLine) → String
  | [] => first.text
  | (lineBreak, line) :: rest => first.text ++ lineBreak.text ++ joined line rest

/-! ## One line -/

/-- A carriage return at the end is dropped. -/
theorem dropReturn_concat (line : List Char) : dropReturn (line ++ ['\r']) = line := by
  unfold dropReturn
  rw [List.reverse_append]
  exact List.reverse_reverse line

/-- A line does not end with a carriage return. -/
theorem SourceLine.dropReturn_text (line : SourceLine) : dropReturn line.text.toList = line.text.toList := by
  have hlast := line.last_ne_return
  rw [List.getLast?_eq_head?_reverse] at hlast
  unfold dropReturn
  split
  · rename_i rest hrest
    rw [hrest] at hlast
    exact absurd rfl hlast
  · rfl

/-- A line and the break after it come before the rest, however the break is written. -/
theorem lines_of_break (line : SourceLine) (lineBreak : LineBreak) (rest : List Char) :
    (splitAt '\n' (line.text.toList ++ lineBreak.text.toList ++ rest)).map dropReturn
      = line.text.toList :: (splitAt '\n' rest).map dropReturn := by
  cases lineBreak with
  | feed =>
    have happend : line.text.toList ++ LineBreak.feed.text.toList ++ rest = line.text.toList ++ '\n' :: rest := by
      simp [LineBreak.text]
    rw [happend, splitAt_append_cons line.feed_not_mem, List.map_cons, line.dropReturn_text]
  | returnFeed =>
    have happend : line.text.toList ++ LineBreak.returnFeed.text.toList ++ rest
        = (line.text.toList ++ ['\r']) ++ '\n' :: rest := by
      simp [LineBreak.text]
    have hfeed : '\n' ∉ line.text.toList ++ ['\r'] := by
      simp [line.feed_not_mem]
    rw [happend, splitAt_append_cons hfeed, List.map_cons, dropReturn_concat]

/-! ## All lines -/

/-- Lines that are joined by either kind of break are split again. -/
theorem map_dropReturn_splitAt_joined (first : SourceLine) (rest : List (LineBreak × SourceLine)) :
    (splitAt '\n' (joined first rest).toList).map dropReturn
      = first.text.toList :: rest.map fun p => p.2.text.toList := by
  induction rest generalizing first with
  | nil =>
    rw [joined, splitAt_of_not_mem first.feed_not_mem, List.map_singleton, first.dropReturn_text]
    rfl
  | cons p rest ih =>
    obtain ⟨lineBreak, line⟩ := p
    rw [joined, String.toList_append, String.toList_append, lines_of_break, ih line]
    rfl

/-- The lines of a text that was joined are those it was joined from. -/
theorem lines_joined {first : SourceLine} {rest : List (LineBreak × SourceLine)} (h : joined first rest ≠ "") :
    lines (joined first rest) = first.text :: rest.map fun p => p.2.text := by
  have hne : ¬ (joined first rest).toList.isEmpty = true := by
    rw [List.isEmpty_iff, String.toList_eq_nil_iff]
    exact h
  unfold lines linesOf
  rw [if_neg hne, map_dropReturn_splitAt_joined, List.map_cons, List.map_map, String.ofList_toList]
  congr 1
  exact List.map_congr_left fun p _ => String.ofList_toList

/-- Only a single empty line is written as the empty text. -/
theorem joined_eq_empty {first : SourceLine} {rest : List (LineBreak × SourceLine)} (h : joined first rest = "") :
    first.text = "" ∧ rest = [] := by
  cases rest with
  | nil => exact ⟨h, rfl⟩
  | cons p rest =>
    obtain ⟨lineBreak, line⟩ := p
    have hbreak : lineBreak.text = "" := by
      rw [joined, String.append_eq_empty_iff, String.append_eq_empty_iff] at h
      exact h.1.2
    cases lineBreak <;> exact absurd hbreak (by decide)

end Text

/-- The line with a number, counted from one. -/
theorem Module.snippet_of_getElem? {m : Module} {i : Nat} {text : String} (h : m.source[i]? = some text)
    {line : UInt64} (hline : line.toNat = i + 1) : m.snippet line = Text.trim text := by
  have hne : ¬ (line == 0) = true := by
    rw [beq_iff_eq]
    rintro rfl
    cases hline
  unfold Module.snippet
  rw [if_neg hne, hline, Nat.add_sub_cancel, h]

/-- A number of no line has no snippet. -/
theorem Module.snippet_of_out_of_range {m : Module} {line : UInt64}
    (h : line.toNat = 0 ∨ m.source.length < line.toNat) : m.snippet line = "" := by
  unfold Module.snippet
  by_cases hzero : line = 0
  · rw [if_pos (beq_iff_eq.mpr hzero)]
  · have hpos : line.toNat ≠ 0 := fun hnat => hzero (UInt64.toNat_inj.mp hnat)
    rw [if_neg (mt beq_iff_eq.mp hzero), List.getElem?_eq_none (by omega)]

namespace Loader

/-- A module that is decoded from a document has the lines of the source text of the document. -/
theorem source_decode {options : LoaderOptions} {data source name : String} {d : Document} {text : String}
    (hdocument : (Json.readWhole data.toList).bind Document.ofValue? = some d) (hsource : d.source? = some text)
    (herror : (decode options data source name).error = none) :
    (decode options data source name).module.source = Text.lines text := by
  obtain ⟨d', entry, -, hdocument', -, -, hmodule, -⟩ := exists_entry_of_decode herror
  have heq : d' = d := Option.some.inj (hdocument'.symm.trans hdocument)
  rw [hmodule, heq, hsource]
  rfl

/-- A text that is written from lines, with a line feed or a carriage return and a line feed after each but the last, is
cut into these lines, unless it is empty. In a module that is decoded from a document with this source text, the snippet
for each number from one to the number of lines is the line with that number, without the white space around it, and for
all other numbers it is empty. -/
theorem snippets_of_joined_lines (first : Text.SourceLine) (rest : List (Text.LineBreak × Text.SourceLine)) :
    let texts := first.text :: rest.map fun p => p.2.text
    (Text.joined first rest ≠ "" → Text.lines (Text.joined first rest) = texts)
    ∧ ∀ (options : LoaderOptions) (data source name : String) (d : Document),
        (Json.readWhole data.toList).bind Document.ofValue? = some d →
        d.source? = some (Text.joined first rest) →
        (decode options data source name).error = none →
        (∀ i text, texts[i]? = some text → ∀ line : UInt64, line.toNat = i + 1 →
          (decode options data source name).module.snippet line = Text.trim text)
        ∧ ∀ line : UInt64, line.toNat = 0 ∨ texts.length < line.toNat →
            (decode options data source name).module.snippet line = "" := by
  intro texts
  refine ⟨Text.lines_joined, ?_⟩
  intro options data source name d hdocument hsource herror
  have hlines := source_decode hdocument hsource herror
  by_cases hempty : Text.joined first rest = ""
  · -- the single line is empty, and so is its snippet, although the module has no lines at all
    obtain ⟨hfirst, rfl⟩ := Text.joined_eq_empty hempty
    have hnone : (decode options data source name).module.source = [] := by
      rw [hlines, hempty]
      rfl
    have hsnippet : ∀ line, (decode options data source name).module.snippet line = "" := by
      intro line
      apply Module.snippet_of_out_of_range
      rw [hnone, List.length_nil]
      omega
    refine ⟨fun i text htext line hline => ?_, fun line _ => hsnippet line⟩
    have hmem : text ∈ [first.text] := List.mem_of_getElem? htext
    rw [hsnippet, List.mem_singleton.mp hmem, hfirst]
    rfl
  · rw [Text.lines_joined hempty] at hlines
    constructor
    · intro i text htext line hline
      exact Module.snippet_of_getElem? (hlines ▸ htext) hline
    · intro line hline
      exact Module.snippet_of_out_of_range (hlines ▸ hline)

/-- A document whose source text starts and ends with an empty line, has both kinds of line breaks and a carriage return
inside of a line. -/
def mixedBreaksText : String :=
  "\x7b\"module\":\x7b\x7d,\"source\":\"\\n x\\ry \\r\\n\"\x7d"

/-- A source with both kinds of breaks, an empty line at each end and a carriage return inside a line. -/
theorem snippets_of_joined_lines_mixedBreaks :
    ∃ (first : Text.SourceLine) (rest : List (Text.LineBreak × Text.SourceLine)) (d : Document),
      first.text :: rest.map (fun p => p.2.text) = ["", " x\ry ", ""]
      ∧ rest.map Prod.fst = [.feed, .returnFeed]
      ∧ (Json.readWhole mixedBreaksText.toList).bind Document.ofValue? = some d
      ∧ d.source? = some (Text.joined first rest)
      ∧ (decode {} mixedBreaksText "" "m").error = none
      ∧ Text.lines (Text.joined first rest) = ["", " x\ry ", ""]
      ∧ (decode {} mixedBreaksText "" "m").module.snippet 2 = Text.trim " x\ry "
      ∧ (decode {} mixedBreaksText "" "m").module.snippet 4 = "" := by
  let empty : Text.SourceLine := ⟨"", by decide, by decide⟩
  let middle : Text.SourceLine := ⟨" x\ry ", by decide, by decide⟩
  let rest : List (Text.LineBreak × Text.SourceLine) := [(.feed, middle), (.returnFeed, empty)]
  have hsource : (((Json.readWhole mixedBreaksText.toList).bind Document.ofValue?).bind Document.source?)
      = some (Text.joined empty rest) := by decide +kernel
  have hmodule : (((Json.readWhole mixedBreaksText.toList).bind Document.ofValue?).bind Document.module?).isSome
      = true := by decide +kernel
  have herror : (decode {} mixedBreaksText "" "m").error = none := error_eq_none_of_lax rfl hmodule
  obtain ⟨d, hdocument, hsource⟩ := Option.bind_eq_some_iff.mp hsource
  obtain ⟨hlines, hsnippets⟩ := snippets_of_joined_lines empty rest
  obtain ⟨hinside, houtside⟩ := hsnippets {} mixedBreaksText "" "m" d hdocument hsource herror
  refine ⟨empty, rest, d, rfl, rfl, hdocument, hsource, herror, hlines (by decide), ?_, ?_⟩
  · exact hinside 1 " x\ry " rfl 2 rfl
  · exact houtside 4 (.inr (by decide))

end Loader

end ModuleLint
