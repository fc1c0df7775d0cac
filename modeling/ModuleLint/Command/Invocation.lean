import ModuleLint.Command.Flags
import ModuleLint.Text.Case
import ModuleLint.Text.EditDistance

/-!
# Invocations

A command line names a command among its flags and operands. Before the command is known, only the
flags that all commands share are known too, and any other flag is taken to have a value.
-/

set_option autoImplicit false

namespace ModuleLint.Command

/-- The name of the program. -/
def programName : String := "bslint"

/-- The commands. -/
inductive Verb where
  | check
  | rules
  | validate
  | version
  | help
  | completion
deriving Repr, DecidableEq

namespace Verb

/-- All commands. -/
def all : List Verb := [check, rules, validate, version, help, completion]

/-- The name of a command. -/
def name : Verb → String
  | check => "check"
  | rules => "rules"
  | validate => "validate"
  | version => "version"
  | help => "help"
  | completion => "completion"

/-- The commands that can be suggested. -/
def suggested : List Verb := [check, rules, validate, version, completion]

end Verb

/-- The flags that all commands share. -/
def sharedFlags : List Flag :=
  [{ name := "config", kind := .text }, { name := "verbose", short := some 'v', kind := .switch },
    { name := "quiet", short := some 'q', kind := .switch },
    { name := "no-color", kind := .switch }]

/-- The flag that asks for help. -/
def helpFlag : Flag := { name := "help", short := some 'h', kind := .switch }

/-- The flags of a command alone. -/
def Verb.ownFlags : Verb → List Flag
  | .check =>
    [{ name := "format", short := some 'f', kind := .text },
      { name := "output", short := some 'o', kind := .text }, { name := "fail-on", kind := .text },
      { name := "workers", short := some 'w', kind := .integer },
      { name := "metrics-out", kind := .text }]
  | .rules => [{ name := "all", kind := .switch }]
  | .validate => [{ name := "print-schema", kind := .switch }]
  | _ => []

/-- All flags of a command. -/
def Verb.flags (v : Verb) : List Flag := v.ownFlags ++ sharedFlags ++ [helpFlag]

/-- Whether the argument after this one is taken for its value when the command is not known yet. -/
def takesNext (argument : String) : Bool :=
  let cs := argument.toList
  if cs.contains '=' then false
  else match cs with
    | '-' :: '-' :: name =>
      !sharedFlags.any fun f => f.name == String.ofList name && f.kind == .switch
    | ['-', c] => c.toNat < 0x80 && !sharedFlags.any fun f => f.short == some c && f.kind == .switch
    | _ => false

/-- Whether an argument is a word and no flag. -/
def isWord (argument : String) : Bool :=
  !argument.isEmpty && argument.toList.head? != some '-'

/-- The first word of a command line that is neither a flag nor the value of one. -/
def firstWord? (arguments : List String) : Option String :=
  match arguments with
  | [] => none
  | argument :: rest =>
    if argument == "--" then none
    else if takesNext argument then
      (if rest.length ≤ 1 then none else firstWord? (rest.drop 1))
    else if isWord argument then some argument
    else firstWord? rest
termination_by arguments.length
decreasing_by
  · simp only [List.length_cons, List.length_drop]; omega
  · simp only [List.length_cons]; omega

/-- The command line without its first word. -/
def withoutWord (word : String) (arguments : List String) : List String :=
  match arguments with
  | [] => []
  | argument :: rest =>
    if argument == "--" then argument :: rest
    else if takesNext argument then
      argument :: (rest.take 1 ++ withoutWord word (rest.drop 1))
    else if argument == word then rest
    else argument :: withoutWord word rest
termination_by arguments.length
decreasing_by
  · simp only [List.length_cons, List.length_drop]; omega
  · simp only [List.length_cons]; omega

/-- The bytes of a text, each as a character. -/
def byteText (s : String) : String :=
  String.ofList (s.toUTF8.toList.map fun b => Char.ofNat b.toNat)

/-- How many edits a mistyped command may be away from one to be taken for it. -/
def similarDistance : Nat := 2

/-- The commands that were perhaps meant: those that a few edits make of it, and those that it is
the start of. -/
def similarTo (name : String) : List String :=
  let typed := Text.lower name
  (Verb.suggested.map Verb.name).filter fun known =>
    Text.distance (byteText typed) known ≤ similarDistance || typed.toList.isPrefixOf known.toList

/-- What all commands can be told. -/
structure SharedOptions where
  configPath : String
  verbose : Bool
  quiet : Bool
  noColor : Bool
deriving Repr, DecidableEq

/-- What a check can be told. -/
structure CheckOptions where
  format : String
  output : String
  failOn : String
  workers : Int
  metricsFile : String
deriving Repr, DecidableEq

/-- What is asked of the program. -/
inductive Invocation where
  | help
  | check (shared : SharedOptions) (options : CheckOptions) (paths : List String)
  | rules (shared : SharedOptions) (all : Bool)
  | printSchema
  | validate (shared : SharedOptions) (path? : Option String)
  | version
deriving Repr, DecidableEq

/-- The options that all commands share. -/
def Arguments.shared (a : Arguments) : SharedOptions :=
  { configPath := a.text "config" "", verbose := a.isOn "verbose", quiet := a.isOn "quiet"
    noColor := a.isOn "no-color" }

/-- The options of a check. -/
def Arguments.check (a : Arguments) : CheckOptions :=
  { format := a.text "format" "text", output := a.text "output" ""
    failOn := a.text "fail-on" "ERROR", workers := a.number "workers"
    metricsFile := a.text "metrics-out" "" }

/-- A command without operands. -/
def withoutOperands (v : Verb) (a : Arguments) (i : Invocation) : Except UsageError Invocation :=
  match a.operands with
  | [] => .ok i
  | operand :: _ => .error (.unknownCommand operand (programName ++ " " ++ v.name) [])

/-- What the arguments of a command ask for. -/
def Verb.invocation (v : Verb) (a : Arguments) : Except UsageError Invocation :=
  if a.isOn "help" then .ok .help
  else match v with
    | .check => .ok (.check a.shared a.check a.operands)
    | .rules => withoutOperands v a (.rules a.shared (a.isOn "all"))
    | .validate =>
      if a.operands.length > 1 then .error (.operandCount 0 1 a.operands.length)
      else if a.isOn "print-schema" then .ok .printSchema
      else .ok (.validate a.shared a.operands.head?)
    | .version => withoutOperands v a .version
    | .help => .ok .help
    | .completion => .ok .help

/-- Reads a command line. Without a command there is only help. -/
def Invocation.parse (arguments : List String) : Except UsageError Invocation :=
  match firstWord? arguments with
  | none => do
    let _ ← readArguments (sharedFlags ++ [helpFlag]) arguments
    pure .help
  | some word =>
    match Verb.all.find? fun v => v.name == word with
    | none => .error (.unknownCommand word programName (similarTo word))
    | some v => do
      let a ← readArguments v.flags (withoutWord word arguments)
      v.invocation a

end ModuleLint.Command
