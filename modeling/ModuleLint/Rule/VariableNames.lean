import ModuleLint.Rule.Basic
import ModuleLint.Text.Search

/-!
# Rules about the names of variables
-/

set_option autoImplicit false

namespace ModuleLint.VariableNames

/-- A rule that looks at each declaration of a variable and complains about some names. -/
def rule (info : RuleInfo) (isBad : String → Bool) (complaint : String → String) : Rule :=
  { info := info
    behaviour :=
      { onVariable := some fun info d site =>
          Verdict.of (if isBad d.name
            then [info.violation site.module? d.span (complaint d.name)] else []) } }

/-- Abbreviations that tell nothing. -/
def abbreviations : List String :=
  ["к", "ч", "с", "п", "р", "д", "в", "н", "т", "м",
    "кол", "кл", "ст", "стр", "ном", "сум", "об", "колво",
    "тчк", "знч", "спр", "док", "рег", "отч", "обр"]

/-- Words of the domain that make a long name speak. -/
def domainWords : List String :=
  ["количество", "сумма", "цена", "наименование", "код",
    "идентификатор", "дата", "время", "период", "статус"]

/-- Names of more characters than this need a word of the domain. -/
def speakingLength : Nat := 10

/-- Whether a name in lower case is an abbreviation, alone or as its first or last word. -/
def isAbbreviated (lowered : String) : Bool :=
  abbreviations.any fun short =>
    lowered == short || Text.startsWith lowered (short ++ "_")
      || Text.endsWith lowered ("_" ++ short)

/-- Whether a name is an abbreviation, or long without a word of the domain. -/
def isCryptic (name : String) : Bool :=
  let lowered := Text.lower name
  isAbbreviated lowered ||
    (name.length > speakingLength && !domainWords.any (Text.containsText lowered))

/-- What is said about a name that does not state its purpose. -/
def crypticComplaint (name : String) : String :=
  "variable '" ++ name ++ "' does not convey its purpose; use full domain terms"

/-- Names state their purpose. -/
def meaningful : Rule :=
  rule
    { code := "VAR-01"
      name := "Meaningful variable name"
      description := "A variable name should state its purpose in domain terms"
      severity := Severity.warning.name }
    isCryptic crypticComplaint

/-- Whether a name is empty, starts with a lower case letter, or has a blank or an underscore. -/
def isNotCamelCase (name : String) : Bool :=
  match name.toList with
  | [] => true
  | c :: rest => Text.isLowercase c || (c :: rest).any fun c => c == ' ' || c == '_'

/-- What is said about a name whose words are not written together. -/
def camelCaseComplaint (name : String) : String :=
  "variable '" ++ name ++ "' must be CamelCase: words written together, each capitalised"

/-- Words are written together, each with a capital. -/
def camelCase : Rule :=
  rule
    { code := "VAR-02"
      name := "CamelCase for compound names"
      description := "Compound names are written together, each word starting with a capital letter"
      severity := Severity.warning.name }
    isNotCamelCase camelCaseComplaint

/-- Whether a name starts with an underscore. -/
def hasUnderscore (name : String) : Bool := Text.startsWith name "_"

/-- What is said about a name that starts with an underscore. -/
def underscoreComplaint (name : String) : String :=
  "variable '" ++ name ++ "' starts with an underscore; remove it"

/-- Names do not start with an underscore. -/
def noUnderscore : Rule :=
  rule
    { code := "VAR-03"
      name := "No leading underscore"
      description := "Variable names must not start with an underscore"
      severity := Severity.error.name }
    hasUnderscore underscoreComplaint

/-- Whether a name has one character and does not count loops. -/
def isTooShort (counters : List String) (name : String) : Bool :=
  name.length == 1 && !(counters.map Text.lower).contains (Text.lower name)

/-- What is said about a name of one character. -/
def shortComplaint (name : String) : String :=
  "variable '" ++ name ++ "' is a single character; give it a meaningful name"

/-- Names have more than one character, unless they count loops. -/
def minimumLength (counters : List String) : Rule :=
  rule
    { code := "VAR-04"
      name := "Minimum name length"
      description := "Variable names must be longer than one character, loop counters excepted"
      severity := Severity.warning.name }
    (isTooShort counters) shortComplaint

/-- Words that suggest a flag. -/
def flagWords : List String :=
  ["флаг", "признак", "состояние", "режим", "тип", "value", "flag", "status", "mode", "type"]

/-- Beginnings of names that tell the state in which a flag is true. -/
def flagStarts : List String :=
  ["Есть", "Нет", "Можно", "Нельзя", "Нужно", "Требуется",
    "Разрешено", "Запрещено", "ЭтоАктивно", "ЭтоВыбрано",
    "ЭтоЗавершено", "Признак", "Флаг", "Состояние"]

/-- Whether a name suggests a flag but does not tell when it is true. -/
def isVagueFlag (name : String) : Bool :=
  flagWords.any (Text.containsText (Text.lower name)) && !flagStarts.any (Text.startsWith name)

/-- What is said about a flag that does not tell when it is true. -/
def flagComplaint (name : String) : String :=
  "flag variable '" ++ name ++ "' should be named after its true state, e.g. ЕстьОшибки"

/-- Flags are named after the state in which they are true. -/
def flagNames : Rule :=
  rule
    { code := "VAR-05"
      name := "Flag variable names"
      description :=
        "Flag variables are named after their true state, e.g. ЕстьОшибки or ЭтоТоварТара"
      severity := Severity.info.name }
    isVagueFlag flagComplaint

end ModuleLint.VariableNames
