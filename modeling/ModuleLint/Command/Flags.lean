import ModuleLint.Text.Number
import ModuleLint.Text.Quoted
import ModuleLint.Text.Truth

/-!
# Flags

Arguments that start with a hyphen are flags, all others are operands, and both may be mixed. A
long flag has two hyphens and a name; its value follows an equals sign or is the next argument.
Letters after a single hyphen are short flags, where the rest of the argument is the value of the
first letter that needs one. Two hyphens alone end the flags. Switches need no value.
-/

set_option autoImplicit false

namespace ModuleLint.Command

/-- What values a flag takes. -/
inductive FlagKind where
  | switch
  | text
  | integer
deriving Repr, DecidableEq

/-- A flag with its names. -/
structure Flag where
  name : String
  short : Option Char := none
  kind : FlagKind
deriving Repr, DecidableEq

/-- Why a value is not one for a flag. -/
inductive ValueFault where
  | notBoolean
  | notInteger (fault : Text.IntegerFault)
deriving Repr, DecidableEq

/-- A fault of a command line. -/
inductive UsageError where
  | badFlag (argument : String)
  | unknownFlag (name : String)
  | unknownLetter (letter : Char) (letters : String)
  | missingValue (argument : String)
  | missingLetterValue (letter : Char) (letters : String)
  | invalidValue (value : String) (flag : Flag) (fault : ValueFault)
  | unknownCommand (name parent : String) (similar : List String)
  | operandCount (least most received : Nat)
deriving Repr, DecidableEq

/-- A flag as it is named in messages. -/
def Flag.title (f : Flag) : String :=
  match f.short with
  | some c => "-" ++ String.singleton c ++ ", --" ++ f.name
  | none => "--" ++ f.name

/-- A character in single quotes. A character outside of ASCII is not shown as it is. -/
def quotedLetter (c : Char) : String :=
  let shown := if c.toNat < 0x80 then c else 'Ã'
  if shown == '\'' then "'\\''"
  else if shown == '"' then "'\"'"
  else "'" ++ String.ofList (Text.quoteChar shown) ++ "'"

/-- The text of a value that a flag does not take. -/
def ValueFault.message (value : String) : ValueFault → String
  | .notBoolean => "strconv.ParseBool: parsing " ++ Text.quoted value ++ ": invalid syntax"
  | .notInteger .malformed =>
    "strconv.ParseInt: parsing " ++ Text.quoted value ++ ": invalid syntax"
  | .notInteger .outOfRange =>
    "strconv.ParseInt: parsing " ++ Text.quoted value ++ ": value out of range"

/-- Commands that were perhaps meant. -/
def similarText (names : List String) : String :=
  if names.isEmpty then ""
  else "\n\nDid you mean this?\n" ++ String.join (names.map fun name => "\t" ++ name ++ "\n")

/-- The text of a fault. -/
def UsageError.message : UsageError → String
  | .badFlag argument => "bad flag syntax: " ++ argument
  | .unknownFlag name => "unknown flag: --" ++ name
  | .unknownLetter c letters =>
    "unknown shorthand flag: " ++ quotedLetter c ++ " in -" ++ letters
  | .missingValue argument => "flag needs an argument: " ++ argument
  | .missingLetterValue c letters =>
    "flag needs an argument: " ++ quotedLetter c ++ " in -" ++ letters
  | .invalidValue value f fault =>
    "invalid argument " ++ Text.quoted value ++ " for " ++ Text.quoted f.title ++ " flag: "
      ++ fault.message value
  | .unknownCommand name parent similar =>
    "unknown command " ++ Text.quoted name ++ " for " ++ Text.quoted parent ++ similarText similar
  | .operandCount least most received =>
    "accepts between " ++ toString least ++ " and " ++ toString most ++ " arg(s), received "
      ++ toString received

/-- The flags that were set, in their order, and the operands. -/
structure Arguments where
  values : List (String × String) := []
  operands : List String := []
deriving Repr, DecidableEq

/-- Sets a flag, if the value is one for it. -/
def Flag.set (f : Flag) (value : String) : Except UsageError (String × String) :=
  match f.kind with
  | .text => .ok (f.name, value)
  | .switch =>
    if (Text.truth? value).isSome then .ok (f.name, value)
    else .error (.invalidValue value f .notBoolean)
  | .integer =>
    match Text.parseInteger value with
    | .ok _ => .ok (f.name, value)
    | .error fault => .error (.invalidValue value f (.notInteger fault))

/-- The value of a switch that has none. -/
def switchedOn : String := "true"

/-- Reads a long flag: what is set, and how many further arguments are used up. -/
def readLong (flags : List Flag) (argument : String) (next? : Option String) :
    Except UsageError ((String × String) × Nat) := do
  let body := argument.toList.drop 2
  if body.head? == some '-' || body.head? == some '=' then throw (.badFlag argument)
  let name := String.ofList (body.takeWhile (· != '='))
  match flags.find? fun f => f.name == name with
  | none => throw (.unknownFlag name)
  | some f =>
    if body.contains '=' then
      pure (← f.set (String.ofList ((body.dropWhile (· != '=')).drop 1)), 0)
    else if f.kind == .switch then pure (← f.set switchedOn, 0)
    else match next? with
      | some value => pure (← f.set value, 1)
      | none => throw (.missingValue argument)

/-- Reads the letters of an argument: what is set, and how many further arguments are used up. -/
def readLetters (flags : List Flag) (next? : Option String) :
    List Char → Except UsageError (List (String × String) × Nat)
  | [] => .ok ([], 0)
  | c :: rest =>
    match flags.find? fun f => f.short == some c with
    | none => .error (.unknownLetter c (String.ofList (c :: rest)))
    | some f => do
      if rest.head? == some '=' && rest.length > 1 then
        pure ([← f.set (String.ofList (rest.drop 1))], 0)
      else if f.kind == .switch then
        let first ← f.set switchedOn
        let (others, used) ← readLetters flags next? rest
        pure (first :: others, used)
      else if !rest.isEmpty then pure ([← f.set (String.ofList rest)], 0)
      else match next? with
        | some value => pure ([← f.set value], 1)
        | none => throw (.missingLetterValue c (String.ofList [c]))

/-- Whether an argument is a flag or a group of letters. A hyphen alone is an operand. -/
def looksLikeFlag (argument : String) : Bool :=
  argument.toList.head? == some '-' && argument.length > 1

/-- Reads arguments. -/
def readArguments (flags : List Flag) (arguments : List String) : Except UsageError Arguments :=
  match arguments with
  | [] => .ok {}
  | argument :: rest =>
    if argument == "--" then .ok { operands := rest }
    else if looksLikeFlag argument then do
      let (values, used) ←
        if (argument.toList.drop 1).head? == some '-' then do
          let (value, used) ← readLong flags argument rest.head?
          pure ([value], used)
        else readLetters flags rest.head? (argument.toList.drop 1)
      let others ← readArguments flags (rest.drop used)
      pure { others with values := values ++ others.values }
    else do
      let others ← readArguments flags rest
      pure { others with operands := argument :: others.operands }
termination_by arguments.length
decreasing_by
  · simp only [List.length_cons, List.length_drop]; omega
  · simp only [List.length_cons]; omega

namespace Arguments

/-- The last value of a flag. -/
def value? (a : Arguments) (name : String) : Option String := a.values.reverse.lookup name

/-- The value of a flag with a text. -/
def text (a : Arguments) (name fallback : String) : String := (a.value? name).getD fallback

/-- Whether a switch is on. -/
def isOn (a : Arguments) (name : String) : Bool :=
  ((a.value? name).bind Text.truth?).getD false

/-- The value of a flag with a number. -/
def number (a : Arguments) (name : String) : Int :=
  ((a.value? name).bind Text.integer?).getD 0

end Arguments

end ModuleLint.Command
