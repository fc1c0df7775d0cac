import ModuleLint.Text.Lines

/-!
# Directories

A directory is known by the files below it, each with its path and its contents. Paths are
relative to it. A path is followed step by step, and each step but the last one has to lead to a
directory. Of what lies outside, only the directories that every system has and the device that
holds nothing are known.
-/

set_option autoImplicit false

namespace ModuleLint

/-- What stands in the way of using a file. -/
inductive FileObstacle where
  | missing
  | notDirectory
  | isDirectory
  | forbidden
  | nameTooLong
  | invalidPath
deriving Repr, DecidableEq

/-- The text of an obstacle. -/
def FileObstacle.message : FileObstacle → String
  | .missing => "no such file or directory"
  | .notDirectory => "not a directory"
  | .isDirectory => "is a directory"
  | .forbidden => "permission denied"
  | .nameTooLong => "file name too long"
  | .invalidPath => "invalid argument"

/-- What was tried with a file. -/
inductive FileAction where
  | opening
  | reading
deriving Repr, DecidableEq

/-- The word for an action. -/
def FileAction.word : FileAction → String
  | .opening => "open"
  | .reading => "read"

/-- A file that cannot be used. -/
structure FileError where
  action : FileAction
  path : String
  obstacle : FileObstacle
deriving Repr, DecidableEq

/-- The text of a file that cannot be used. -/
def FileError.message (e : FileError) : String :=
  e.action.word ++ " " ++ e.path ++ ": " ++ e.obstacle.message

/-- The files below a directory, by their paths. -/
structure Directory where
  files : List (List String × String)
deriving Repr, DecidableEq, Inhabited

/-- Where a path leads to: to a place below the directory, to some directory above it, to one that
every system has, or to the device that holds nothing. -/
inductive Place where
  | inside (names : List String)
  | outside
  | root
  | system (name : String)
  | emptyDevice
deriving Repr, DecidableEq

namespace Directory

/-- The names that a path stands for when nothing needs to exist: a point is no step, and two points
take the last one back. -/
def cleanSteps (steps : List String) : List String :=
  steps.foldl (fun names name =>
    if name == "" || name == "." then names
    else if name == ".." then names.dropLast
    else names ++ [name]) []

/-- The directory with the given files; paths are written with slashes. -/
def ofFiles (files : List (String × String)) : Directory :=
  { files := files.map fun (path, text) => (cleanSteps (Text.split '/' path), text) }

/-- The contents of the file at a place. -/
def contents? (d : Directory) : Place → Option String
  | .inside names => (d.files.find? fun f => f.1 == names).map (·.2)
  | .emptyDevice => some ""
  | _ => none

/-- Whether a place is the directory itself, one below it or one outside. -/
def holds (d : Directory) : Place → Bool
  | .inside names => names.isEmpty || d.files.any fun f => names.isPrefixOf f.1 && f.1 != names
  | .emptyDevice => false
  | _ => true

/-- The directories below the root that every system has. -/
def systemNames : List String :=
  ["bin", "dev", "etc", "home", "lib", "proc", "root", "run", "sys", "tmp", "usr", "var"]

/-- The greatest number of bytes of a name. -/
def nameLimit : Nat := 255

/-- The number of bytes from which on a path is too long. -/
def pathLimit : Nat := 4096

/-- The directory above a place. -/
def above : Place → Place
  | .inside [] => .outside
  | .inside names => .inside names.dropLast
  | .outside => .outside
  | _ => .root

/-- The place of a name in another place, if that is known to be there or can be. -/
def child? : Place → String → Option Place
  | .inside names, name => some (.inside (names ++ [name]))
  | .root, name => if systemNames.contains name then some (.system name) else none
  | .system dir, name => if dir == "dev" && name == "null" then some .emptyDevice else none
  | _, _ => none

/-- One step from a place, which has to be a directory. -/
def step (d : Directory) (place : Place) (name : String) : Except FileObstacle Place :=
  if d.holds place then
    if name == "" || name == "." then .ok place
    else if name == ".." then .ok (above place)
    else if name.utf8ByteSize > nameLimit then .error .nameTooLong
    else match child? place name with
      | some place => .ok place
      | none => .error .missing
  else if (d.contents? place).isSome then .error .notDirectory
  else .error .missing

/-- Follows the steps of a path from a place. -/
def follow (d : Directory) : Place → List String → Except FileObstacle Place
  | place, [] => .ok place
  | place, name :: rest => do d.follow (← d.step place name) rest

/-- The place that a path starts from and its steps. A path without any character leads nowhere. -/
def steps (path : String) : Except FileObstacle (Place × List String) :=
  if path.isEmpty then .error .missing
  else if path.toList.contains (Char.ofNat 0) then .error .invalidPath
  else if path.utf8ByteSize ≥ pathLimit then .error .nameTooLong
  else
    let start := if path.toList.head? == some '/' then Place.root else .inside []
    .ok (start, Text.split '/' path)

/-- The place that a path leads to. -/
def find (d : Directory) (path : String) : Except FileObstacle Place := do
  let (start, names) ← steps path
  d.follow start names

/-- Reads a file. -/
def read (d : Directory) (path : String) : Except FileError String :=
  match d.find path with
  | .error obstacle => .error ⟨.opening, path, obstacle⟩
  | .ok place =>
    match d.contents? place with
    | some text => .ok text
    | none =>
      if d.holds place then .error ⟨.reading, path, .isDirectory⟩
      else .error ⟨.opening, path, .missing⟩

/-- The place of a file that is to be written. The directory of the file has to be there, and a path
with a slash at its end names a directory. Some directory above takes any file. -/
def target (d : Directory) (path : String) : Except FileObstacle Place := do
  let (start, names) ← steps path
  let shown := (names.reverse.dropWhile (· == "")).reverse
  let parent ← d.follow start shown.dropLast
  let last := shown.getLastD "."
  if !d.holds parent then .error (if (d.contents? parent).isSome then .notDirectory else .missing)
  else if last == "." || last == ".." || names.getLast? == some "" then .error .isDirectory
  else if last.utf8ByteSize > nameLimit then .error .nameTooLong
  else if parent == .outside then .ok .outside
  else
    let place ← d.step parent last
    if d.holds place then .error .isDirectory else .ok place

/-- What stands in the way of writing a file, if something does. -/
def obstacle? (d : Directory) (path : String) : Option FileError :=
  match d.target path with
  | .error obstacle => some ⟨.opening, path, obstacle⟩
  | .ok _ => none

/-- The directory after a file was written. -/
def write (d : Directory) (path text : String) : Directory :=
  match d.target path with
  | .ok (.inside names) => { files := (names, text) :: d.files.filter fun f => f.1 != names }
  | _ => d

end Directory

end ModuleLint
