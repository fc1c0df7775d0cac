import ModuleLint.Text.Quoted

/-!
# Quoted texts in JSON

Texts are written between double quotes. Quotes, backslashes, control characters and the two line
separators of Unicode are always escaped; what else is escaped, and which controls have a letter of
their own, is a matter of style.
-/

set_option autoImplicit false

namespace ModuleLint.Json

/-- How texts are written. -/
structure QuoteStyle where
  escapesMarkup : Bool
  hasShortControls : Bool
deriving Repr, DecidableEq

/-- Reports can be embedded in web pages, so markup characters are escaped, and backspace and form
feed have letters of their own. -/
def QuoteStyle.report : QuoteStyle := { escapesMarkup := true, hasShortControls := true }

/-- Log lines leave markup characters alone, and only line ends and tabs have letters of their
own. -/
def QuoteStyle.log : QuoteStyle := { escapesMarkup := false, hasShortControls := false }

/-- The escape of a character by its number. -/
def numericEscape (c : Char) : List Char := '\\' :: 'u' :: Text.hexPadded 4 c.toNat

/-- Whether a character is escaped by its number in a style. -/
def QuoteStyle.escapesByNumber (style : QuoteStyle) (c : Char) : Bool :=
  c.toNat < 0x20 || c.toNat == 0x2028 || c.toNat == 0x2029
    || (style.escapesMarkup && (c == '<' || c == '>' || c == '&'))

/-- One character of a quoted text. -/
def QuoteStyle.quoteChar (style : QuoteStyle) (c : Char) : List Char :=
  if c == '"' || c == '\\' then ['\\', c]
  else if c == '\n' then ['\\', 'n']
  else if c == '\r' then ['\\', 'r']
  else if c == '\t' then ['\\', 't']
  else if style.hasShortControls && c.toNat == 8 then ['\\', 'b']
  else if style.hasShortControls && c.toNat == 12 then ['\\', 'f']
  else if style.escapesByNumber c then numericEscape c
  else [c]

/-- A text between double quotes. -/
def quoted (style : QuoteStyle) (s : String) : String :=
  String.ofList ('"' :: s.toList.flatMap style.quoteChar ++ ['"'])

end ModuleLint.Json
