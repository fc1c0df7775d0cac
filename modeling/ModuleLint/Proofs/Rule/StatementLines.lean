import Mathlib.Data.List.Infix
import Mathlib.Data.List.Zip
import ModuleLint.Proofs.Text.ByteOrder
import ModuleLint.Rule.RoutineShape

/-!
# Statements on a source line

A source line is a sequence of semicolons, string literals and runs of other characters, perhaps with a comment or a
literal that is not closed at its end (`Line`). Every text is such a line (`exists_line`). The statements counted on a
line are its semicolons, whatever its literals and its comment say, and it makes no difference whether characters or
their bytes in UTF-8 are gone through (`statements_are_semicolons`).

The count is carried through a line token by token. A literal has as many quotes inside as it takes to leave the scan
where it was, and a run holds no mark at all. Only at its end may a run meet a slash that is not its own, that of a
comment, and then nothing is left to be counted.
-/

set_option autoImplicit false

namespace ModuleLint.RoutineShape

/-- A part of a source line. -/
inductive Token where
  | semicolon
  | literal (text : List Char)
  | run (text : List Char)
deriving Repr, DecidableEq

/-- A text with every double quote written twice. -/
def doubled (text : List Char) : List Char := text.flatMap fun c => if c = '"' then ['"', '"'] else [c]

/-- A part of a line as it is written. -/
def Token.chars : Token → List Char
  | semicolon => [';']
  | literal text => '"' :: doubled text ++ ['"']
  | run text => text

/-- What may stand at the end of a line: a comment, or a literal that is not closed. -/
inductive Ending where
  | nothing
  | comment (text : List Char)
  | unclosed (text : List Char)
deriving Repr, DecidableEq

/-- The end of a line as it is written. -/
def Ending.chars : Ending → List Char
  | nothing => []
  | comment text => '/' :: '/' :: text
  | unclosed text => '"' :: doubled text

/-- Runs hold neither quotes nor semicolons, and in runs that follow one another no two slashes stand side by side. -/
structure Lexical (tokens : List Token) : Prop where
  plain : ∀ text, Token.run text ∈ tokens → '"' ∉ text ∧ ';' ∉ text
  apart : ∀ texts : List (List Char), texts.map Token.run <:+: tokens → ¬ ['/', '/'] <:+: texts.flatten

/-- A source line by its parts. -/
structure Line where
  tokens : List Token
  ending : Ending
  lexical : Lexical tokens

namespace Line

/-- The text of a line. -/
def text (l : Line) : String := String.ofList (l.tokens.flatMap Token.chars ++ l.ending.chars)

/-- The number of semicolons among the parts of a line. -/
def semicolons (l : Line) : Nat := l.tokens.count .semicolon

end Line

/-! ## Tokens in a row -/

section Lexical

variable {t : Token} {tokens : List Token} {c : Char} {text : List Char}

/-- Runs in a row are written as one text. -/
theorem flatMap_chars_run (texts : List (List Char)) : (texts.map Token.run).flatMap Token.chars = texts.flatten := by
  rw [List.flatMap_map]
  exact List.flatMap_id

/-- What is left after the first token is lexical. -/
theorem Lexical.tail (h : Lexical (t :: tokens)) : Lexical tokens where
  plain text htext := h.plain text (List.mem_cons_of_mem t htext)
  apart texts htexts := h.apart texts (List.infix_cons htexts)

/-- Runs at the front begin with the first one, if there are any. -/
theorem prefix_run_cons {texts : List (List Char)} (h : texts.map Token.run <+: .run text :: tokens) :
    texts = [] ∨ ∃ rest, texts = text :: rest ∧ rest.map Token.run <+: tokens := by
  cases texts with
  | nil => exact .inl rfl
  | cons first rest =>
    obtain ⟨hfirst, hrest⟩ := List.cons_prefix_cons.mp h
    exact .inr ⟨rest, by rw [Token.run.inj hfirst], hrest⟩

/-- A run and those that follow it have no two slashes side by side. -/
theorem Lexical.apart_ahead (h : Lexical (.run text :: tokens)) {rest : List (List Char)}
    (hrest : rest.map Token.run <+: tokens) : ¬ ['/', '/'] <:+: text ++ rest.flatten := by
  have hprefix : (text :: rest).map Token.run <+: .run text :: tokens := List.cons_prefix_cons.mpr ⟨rfl, hrest⟩
  exact h.apart (text :: rest) hprefix.isInfix

/-- A run may lose its first character. -/
theorem Lexical.shorten (h : Lexical (.run (c :: text) :: tokens)) : Lexical (.run text :: tokens) where
  plain other hother := by
    rcases List.mem_cons.mp hother with heq | hother
    · obtain ⟨hquote, hsemicolon⟩ := h.plain (c :: text) List.mem_cons_self
      obtain rfl := Token.run.inj heq
      exact ⟨fun hc => hquote (List.mem_cons_of_mem c hc), fun hc => hsemicolon (List.mem_cons_of_mem c hc)⟩
    · exact h.tail.plain other hother
  apart texts htexts hslashes := by
    rcases List.infix_cons_iff.mp htexts with hprefix | hinfix
    · rcases prefix_run_cons hprefix with rfl | ⟨rest, rfl, hrest⟩
      · simp at hslashes
      · exact h.apart_ahead hrest (List.infix_cons hslashes)
    · exact h.tail.apart texts hinfix hslashes

/-- After a slash that begins a run, no slash of the same run or of the runs after it comes next. -/
theorem Lexical.head?_ne_slash (h : Lexical (.run ('/' :: text) :: tokens)) {texts : List (List Char)}
    (htexts : texts.map Token.run <+: .run text :: tokens) : texts.flatten.head? ≠ some '/' := by
  intro hslash
  rcases prefix_run_cons htexts with rfl | ⟨rest, rfl, hrest⟩
  · cases hslash
  · obtain ⟨more, hmore⟩ := List.head?_eq_some_iff.mp hslash
    have hahead : ('/' :: text) ++ rest.flatten = ['/', '/'] ++ more := congrArg ('/' :: ·) hmore
    refine h.apart_ahead hrest ?_
    rw [hahead]
    exact (List.prefix_append _ more).isInfix

/-- A literal or a semicolon may stand before any tokens. -/
theorem Lexical.cons (h : Lexical tokens) (ht : ∀ text, t ≠ .run text) : Lexical (t :: tokens) where
  plain text htext := by
    rcases List.mem_cons.mp htext with heq | htext
    · exact absurd heq.symm (ht text)
    · exact h.plain text htext
  apart texts htexts := by
    rcases List.infix_cons_iff.mp htexts with hprefix | hinfix
    · cases texts with
      | nil => simp
      | cons first rest => exact absurd (List.cons_prefix_cons.mp hprefix).1.symm (ht first)
    · exact h.apart texts hinfix

/-- A character may stand before other tokens as a run of its own, unless it is a slash and another one follows. -/
theorem Lexical.cons_run (h : Lexical tokens) (hquote : c ≠ '"') (hsemicolon : c ≠ ';')
    (hslash : c = '/' → (tokens.flatMap Token.chars).head? ≠ some '/') : Lexical (.run [c] :: tokens) where
  plain text htext := by
    rcases List.mem_cons.mp htext with heq | htext
    · obtain rfl := Token.run.inj heq
      simp [Ne.symm hquote, Ne.symm hsemicolon]
    · exact h.plain text htext
  apart texts htexts hslashes := by
    rcases List.infix_cons_iff.mp htexts with hprefix | hinfix
    · rcases prefix_run_cons hprefix with rfl | ⟨rest, rfl, hrest⟩
      · simp at hslashes
      · rw [List.flatten_cons, List.singleton_append] at hslashes
        rcases List.infix_cons_iff.mp hslashes with hstart | hlater
        · obtain ⟨rfl, more, hmore⟩ := List.cons_prefix_cons.mp hstart
          obtain ⟨others, rfl⟩ := hrest
          refine hslash rfl ?_
          rw [List.flatMap_append, flatMap_chars_run, ← hmore]
          rfl
        · exact h.apart rest hrest.isInfix hlater
    · exact h.apart texts hinfix hslashes

end Lexical

/-! ## The count along a line -/

/-- A literal is passed over up to its closing quote, doubled quotes included. -/
theorem countFrom_doubled (text rest : List Char) :
    countFrom true (doubled text ++ rest) = countFrom true rest := by
  induction text with
  | nil => rfl
  | cons c text ih =>
    unfold doubled at ih ⊢
    rw [List.flatMap_cons, List.append_assoc]
    by_cases hc : c = '"'
    · simp [hc, countFrom, ih]
    · simp [hc, countFrom, ih]

/-- Nothing is counted in a comment or in a literal that is not closed. -/
theorem countFrom_ending (e : Ending) : countFrom false e.chars = 0 := by
  cases e with
  | nothing => rfl
  | comment text => rfl
  | unclosed text =>
    have hopen := countFrom_doubled text []
    rw [List.append_nil] at hopen
    simp [Ending.chars, countFrom, hopen]

/-- A slash that is no slash of a run begins a comment, and no semicolon comes before that. -/
theorem count_eq_zero_of_slash {tokens : List Token} {e : Ending}
    (hruns : ∀ texts : List (List Char), texts.map Token.run <+: tokens → texts.flatten.head? ≠ some '/')
    (hslash : (tokens.flatMap Token.chars ++ e.chars).head? = some '/') : tokens.count .semicolon = 0 := by
  induction tokens with
  | nil => rfl
  | cons t rest ih =>
    cases t with
    | semicolon => simp [Token.chars] at hslash
    | literal text => simp [Token.chars] at hslash
    | run text =>
      cases text with
      | nil =>
        rw [List.count_cons_of_ne (by simp)]
        refine ih (fun texts htexts => ?_) hslash
        exact hruns ([] :: texts) (List.cons_prefix_cons.mpr ⟨rfl, htexts⟩)
      | cons c text =>
        refine absurd ?_ (hruns [c :: text] (List.cons_prefix_cons.mpr ⟨rfl, List.nil_prefix⟩))
        simpa [Token.chars] using hslash

/-- Nothing is counted in a run. -/
theorem countFrom_run {text : List Char} {tokens : List Token} {e : Ending} (h : Lexical (.run text :: tokens))
    (hrest : countFrom false (tokens.flatMap Token.chars ++ e.chars) = tokens.count .semicolon) :
    countFrom false (text ++ (tokens.flatMap Token.chars ++ e.chars)) = tokens.count .semicolon := by
  induction text with
  | nil => exact hrest
  | cons c text ih =>
    obtain ⟨hquote, hsemicolon⟩ := h.plain (c :: text) List.mem_cons_self
    have hcquote : ¬ (c == '"') = true := by
      rw [beq_iff_eq]
      rintro rfl
      exact hquote List.mem_cons_self
    have hcsemicolon : ¬ (c == ';') = true := by
      rw [beq_iff_eq]
      rintro rfl
      exact hsemicolon List.mem_cons_self
    rw [List.cons_append, countFrom, if_neg hcquote, if_neg Bool.false_ne_true]
    by_cases hslashes : (c == '/' && (text ++ (tokens.flatMap Token.chars ++ e.chars)).head? == some '/') = true
    · -- the count stops here, and the semicolons after this point are none
      rw [if_pos hslashes]
      rw [Bool.and_eq_true, beq_iff_eq, beq_iff_eq] at hslashes
      obtain ⟨rfl, hnext⟩ := hslashes
      have hnext : ((Token.run text :: tokens).flatMap Token.chars ++ e.chars).head? = some '/' := by
        rwa [List.flatMap_cons, List.append_assoc]
      have hzero := count_eq_zero_of_slash (fun texts htexts => h.head?_ne_slash htexts) hnext
      rw [List.count_cons_of_ne (by simp)] at hzero
      exact hzero.symm
    · rw [if_neg hslashes, if_neg hcsemicolon]
      exact ih h.shorten

/-- The count along a line is that of its semicolons. -/
theorem countFrom_tokens {tokens : List Token} (h : Lexical tokens) (e : Ending) :
    countFrom false (tokens.flatMap Token.chars ++ e.chars) = tokens.count .semicolon := by
  induction tokens with
  | nil => exact countFrom_ending e
  | cons t rest ih =>
    rw [List.flatMap_cons, List.append_assoc]
    cases t with
    | semicolon => simp [Token.chars, countFrom, ih h.tail]
    | literal text =>
      rw [List.count_cons_of_ne (by simp), ← ih h.tail]
      simp [Token.chars, countFrom, countFrom_doubled]
    | run text =>
      rw [List.count_cons_of_ne (by simp)]
      exact countFrom_run h (ih h.tail)

/-! ## Every text is a line -/

/-- A text without quotes is written as it is. -/
theorem doubled_eq_self {text : List Char} (h : '"' ∉ text) : doubled text = text := by
  induction text with
  | nil => rfl
  | cons c text ih =>
    rw [List.mem_cons, not_or] at h
    unfold doubled at ih ⊢
    rw [List.flatMap_cons, if_neg (Ne.symm h.1), ih h.2]
    rfl

/-- Every text is cut into tokens and an ending, by induction on its length. -/
theorem exists_tokens (cs : List Char) :
    ∃ tokens e, Lexical tokens ∧ tokens.flatMap Token.chars ++ Ending.chars e = cs := by
  have hnil : Lexical [] := ⟨by simp, by simp⟩
  induction hn : cs.length using Nat.strong_induction_on generalizing cs with
  | _ n ih =>
    cases cs with
    | nil => exact ⟨[], .nothing, hnil, rfl⟩
    | cons c rest =>
      rw [List.length_cons] at hn
      by_cases hquote : c = '"'
      · subst hquote
        by_cases hclosed : '"' ∈ rest
        · obtain ⟨text, after, rfl, htext⟩ := List.eq_append_cons_of_mem hclosed
          obtain ⟨tokens, e, htokens, rfl⟩ := ih after.length (by simp at hn; omega) after rfl
          refine ⟨.literal text :: tokens, e, htokens.cons (by simp), ?_⟩
          simp [Token.chars, doubled_eq_self htext]
        · exact ⟨[], .unclosed rest, hnil, by simp [Ending.chars, doubled_eq_self hclosed]⟩
      by_cases hcomment : c = '/' ∧ rest.head? = some '/'
      · obtain ⟨rfl, hnext⟩ := hcomment
        obtain ⟨text, rfl⟩ := List.head?_eq_some_iff.mp hnext
        exact ⟨[], .comment text, hnil, rfl⟩
      obtain ⟨tokens, e, htokens, rfl⟩ := ih rest.length (by omega) rest rfl
      by_cases hsemicolon : c = ';'
      · subst hsemicolon
        exact ⟨.semicolon :: tokens, e, htokens.cons (by simp), rfl⟩
      · refine ⟨.run [c] :: tokens, e, htokens.cons_run hquote hsemicolon fun hc hnext => ?_, rfl⟩
        exact hcomment ⟨hc, by rw [List.head?_append, hnext]; rfl⟩

/-- Every text is the text of a line. -/
theorem exists_line (s : String) : ∃ l : Line, l.text = s := by
  obtain ⟨tokens, e, htokens, hchars⟩ := exists_tokens s.toList
  refine ⟨⟨tokens, e, htokens⟩, ?_⟩
  unfold Line.text
  rw [hchars, String.ofList_toList]

/-! ## The count over bytes -/

/-- Counts the semicolons of a line over its bytes, as `countFrom` does over its characters. -/
def countBytes : Bool → List UInt8 → Nat
  | _, [] => 0
  | inString, b :: rest =>
    if b == '"'.toUInt8 then countBytes (!inString) rest
    else if inString then countBytes inString rest
    else if b == '/'.toUInt8 && rest.head? == some '/'.toUInt8 then 0
    else if b == ';'.toUInt8 then countBytes inString rest + 1
    else countBytes inString rest

section Bytes

variable {c mark : Char}

/-- A character of the lower range is kept by its byte. -/
theorem toNat_toUInt8 (hc : c.toNat < 128) : c.toUInt8.toNat = c.toNat := by
  have hmod : c.toUInt8.toNat = c.toNat % 256 := UInt32.toNat_toUInt8 c.val
  omega

/-- Characters of the lower range are compared by their bytes. -/
theorem toUInt8_beq (hc : c.toNat < 128) (hmark : mark.toNat < 128) : (c.toUInt8 == mark.toUInt8) = (c == mark) := by
  rw [Bool.eq_iff_iff, beq_iff_eq, beq_iff_eq]
  constructor
  · intro heq
    have hsame := congrArg UInt8.toNat heq
    rw [toNat_toUInt8 hc, toNat_toUInt8 hmark] at hsame
    exact Char.toNat_inj.mp hsame
  · exact congrArg Char.toUInt8

/-- A character of the lower range is written as one byte. -/
theorem utf8EncodeChar_of_lt (hc : c.toNat < 128) : String.utf8EncodeChar c = [c.toUInt8] := by
  apply String.utf8EncodeChar_eq_singleton
  rw [Char.utf8Size_eq_one_iff, UInt32.le_iff_toNat_le]
  exact Nat.le_of_lt_succ hc

/-- All bytes of a longer character are out of the range of the marks. -/
theorem le_of_mem_utf8EncodeChar (hc : 128 ≤ c.toNat) {b : UInt8} (hb : b ∈ String.utf8EncodeChar c) :
    128 ≤ b.toNat := by
  have hlong : ¬ c.val.toNat ≤ 127 := Nat.not_le.mpr hc
  simp only [String.utf8EncodeChar, if_neg hlong] at hb
  generalize c.val.toNat = v at hb
  split_ifs at hb
  all_goals simp only [List.mem_cons, List.not_mem_nil, or_false] at hb
  · rcases hb with rfl | rfl <;> rw [UInt8.toNat_ofNat'] <;> omega
  · rcases hb with rfl | rfl | rfl <;> rw [UInt8.toNat_ofNat'] <;> omega
  · rcases hb with rfl | rfl | rfl | rfl <;> rw [UInt8.toNat_ofNat'] <;> omega

/-- A byte of the upper range is none of the marks. -/
theorem beq_toUInt8_eq_false {b : UInt8} (hb : 128 ≤ b.toNat) (hmark : mark.toNat < 128) :
    (b == mark.toUInt8) = false := by
  rw [beq_eq_false_iff_ne]
  rintro rfl
  rw [toNat_toUInt8 hmark] at hb
  omega

/-- A character of the upper range is none of the marks. -/
theorem beq_mark_eq_false (hc : 128 ≤ c.toNat) (hmark : mark.toNat < 128) : (c == mark) = false := by
  rw [beq_eq_false_iff_ne]
  rintro rfl
  omega

/-- Bytes of the upper range are passed over. -/
theorem countBytes_append {bs : List UInt8} (hbs : ∀ b ∈ bs, 128 ≤ b.toNat) (inString : Bool) (rest : List UInt8) :
    countBytes inString (bs ++ rest) = countBytes inString rest := by
  induction bs with
  | nil => rfl
  | cons b bs ih =>
    have hb := hbs b List.mem_cons_self
    have hrest := ih fun b hb => hbs b (List.mem_cons_of_mem _ hb)
    rw [List.cons_append, countBytes]
    simp only [beq_toUInt8_eq_false hb (show '"'.toNat < 128 by decide),
      beq_toUInt8_eq_false hb (show '/'.toNat < 128 by decide), beq_toUInt8_eq_false hb (show ';'.toNat < 128 by decide)]
    cases inString with
    | true => exact hrest
    | false => exact hrest

/-- A mark is the first byte when it is the first character. -/
theorem head?_flatMap_beq (cs : List Char) (hmark : mark.toNat < 128) :
    ((cs.flatMap String.utf8EncodeChar).head? == some mark.toUInt8) = (cs.head? == some mark) := by
  cases cs with
  | nil => rfl
  | cons c rest =>
    rw [List.flatMap_cons, List.head?_cons, Option.some_beq_some]
    rcases Nat.lt_or_ge c.toNat 128 with hc | hc
    · rw [utf8EncodeChar_of_lt hc, List.singleton_append, List.head?_cons, Option.some_beq_some, toUInt8_beq hc hmark]
    · obtain ⟨b, bs, hbytes⟩ := List.exists_cons_of_ne_nil (String.utf8EncodeChar_ne_nil (c := c))
      have hb : 128 ≤ b.toNat := le_of_mem_utf8EncodeChar hc (hbytes ▸ List.mem_cons_self)
      rw [hbytes, List.cons_append, List.head?_cons, Option.some_beq_some, beq_toUInt8_eq_false hb hmark,
        beq_mark_eq_false hc hmark]

/-- The count over bytes follows the count over characters, one character at a time. -/
theorem countBytes_flatMap (inString : Bool) (cs : List Char) :
    countBytes inString (cs.flatMap String.utf8EncodeChar) = countFrom inString cs := by
  have hquote : '"'.toNat < 128 := by decide
  have hslash : '/'.toNat < 128 := by decide
  have hsemicolon : ';'.toNat < 128 := by decide
  induction cs generalizing inString with
  | nil => rfl
  | cons c rest ih =>
    rw [List.flatMap_cons, countFrom]
    rcases Nat.lt_or_ge c.toNat 128 with hc | hc
    · rw [utf8EncodeChar_of_lt hc, List.singleton_append, countBytes, toUInt8_beq hc hquote, toUInt8_beq hc hslash,
        toUInt8_beq hc hsemicolon, head?_flatMap_beq rest hslash, ih, ih]
    · rw [countBytes_append fun b => le_of_mem_utf8EncodeChar hc, ih]
      simp only [beq_mark_eq_false hc hquote, beq_mark_eq_false hc hslash, beq_mark_eq_false hc hsemicolon]
      cases inString with
      | true => rfl
      | false => rfl

end Bytes

/-- Going through the bytes of a line comes to the same as going through its characters. -/
theorem countBytes_bytes (s : String) : countBytes false (Text.bytes s) = countStatements s := by
  rw [Text.bytes_eq_flatMap, countBytes_flatMap]
  rfl

/-! ## The rule -/

/-- The statements counted in a line are its semicolons. -/
theorem countStatements_text (l : Line) : countStatements l.text = l.semicolons := by
  unfold countStatements Line.text
  rw [String.toList_ofList]
  exact countFrom_tokens l.lexical l.ending

/-- Lines are numbered from the first. -/
theorem numberedLines_eq (m : Module) : numberedLines m = m.source.zipIdx.map Prod.swap := by
  unfold numberedLines
  rw [List.zipIdx_eq_zip_range', List.zip_swap, List.range_eq_range']

/-- What the rule says about a module, line by line. -/
theorem onModule_eq (info : RuleInfo) {m : Module} {lines : List Line} (hm : m.source = lines.map Line.text) :
    oneStatementPerLine.behaviour.onModule info (some m)
      = Verdict.of ((lines.zipIdx.filter fun p => decide (2 ≤ p.1.semicolons)).map fun p =>
          info.violationAt (some m) (UInt64.ofNat (p.2 + 1)) 1 (statementsComplaint p.1.semicolons)) := by
  unfold oneStatementPerLine
  simp only
  rw [numberedLines_eq, hm, List.zipIdx_map, List.filterMap_map, List.filterMap_map, ← List.filterMap_eq_map,
    List.filterMap_filter]
  refine congrArg Verdict.of (List.filterMap_congr ?_)
  rintro ⟨l, i⟩ -
  simp only [Function.comp_apply, Prod.map_apply, Prod.swap_prod_mk, id_eq, countStatements_text, decide_eq_true_eq]
  rfl

/-- Every text is the text of a line. Over the bytes of a line as over its characters, the statements counted are its
semicolons. So of a module written line by line, the rule reports the lines with at least two semicolons, in order and
by their numbers from one on, and nothing else. -/
theorem statements_are_semicolons :
    (∀ s : String, ∃ l : Line, l.text = s)
    ∧ (∀ l : Line, countBytes false (Text.bytes l.text) = l.semicolons ∧ countStatements l.text = l.semicolons)
    ∧ ∀ (info : RuleInfo) (m : Module) (lines : List Line),
        oneStatementPerLine.behaviour.onModule info (some { m with source := lines.map Line.text })
          = Verdict.of ((lines.zipIdx.filter fun p => decide (2 ≤ p.1.semicolons)).map fun p =>
              info.violationAt (some { m with source := lines.map Line.text }) (UInt64.ofNat (p.2 + 1)) 1
                (statementsComplaint p.1.semicolons)) := by
  refine ⟨exists_line, fun l => ?_, fun info m lines => onModule_eq info rfl⟩
  rw [countBytes_bytes, countStatements_text]
  exact ⟨rfl, rfl⟩

example : countStatements "a = \"x;\"\"//\"; b = a / 2; // c;" = 2 := by decide +kernel

end ModuleLint.RoutineShape
