import Lisplet.Source

/-!
# Files by name

A name is taken apart at its slashes, and its parts are followed from directory
to directory: a dot stays where it is, two dots go back, and any other part has
to be in the directory. A name that begins with a slash starts at the root, and
any other name at the working directory. Only directories can be gone through,
and only what is not a directory can be read.

Standard input has names too. What was read from it once is not there any more.
-/

namespace Lisplet.CommandLine

/-- Why a file cannot be read. -/
inductive FileError where
  /-- There is nothing of that name. -/
  | missing
  /-- The name leads on from something that is not a directory. -/
  | notDirectory
  /-- The name leads to a directory. -/
  | isDirectory
  /-- The name, or a part of it, is longer than names may be. -/
  | nameTooLong
  /-- The file may not be read. -/
  | denied
  deriving DecidableEq, Repr

/-- The wording of an error with a file. -/
def FileError.message (name : String) : FileError → String
  | missing => s!"open {name}: no such file or directory"
  | notDirectory => s!"open {name}: not a directory"
  | isDirectory => s!"read {name}: is a directory"
  | nameTooLong => s!"open {name}: file name too long"
  | denied => s!"open {name}: permission denied"

/-- What stands in a directory under a name. -/
inductive Entry where
  | file (bytes : List UInt8)
  /-- Standard input. -/
  | standard
  | directory (entries : List (String × Entry))

/-- The most bytes that a part of a name may have. -/
def partLimit : Nat := 255

/-- The most bytes that a name may have. -/
def nameLimit : Nat := 4095

/-- Follow the parts of a name. What they have led to so far is `here`, and the
directories around it come innermost first. -/
def follow (outer : List Entry) (here : Entry) : List String → Except FileError Entry
  | [] => .ok here
  | part :: rest =>
    match here with
    | .directory entries =>
      if part = "" ∨ part = "." then follow outer here rest
      else if part = ".." then
        match outer with
        | parent :: others => follow others parent rest
        | [] => follow [] here rest
      else if partLimit < part.utf8ByteSize then .error .nameTooLong
      else
        match entries.lookup part with
        | some entry => follow (here :: outer) entry rest
        | none => .error .missing
    | _ => .error .notDirectory

/-- A tree of directories with a place in it. -/
structure Files where
  /-- The directory that holds all others. -/
  root : Entry
  /-- The parts of the name of the working directory. -/
  working : List String

namespace Files

/-- What a name leads to. -/
def find (files : Files) (name : String) : Except FileError Entry :=
  if name.isEmpty then .error .missing
  else if nameLimit < name.utf8ByteSize then .error .nameTooLong
  else
    let parts := name.splitOn "/"
    follow [] files.root (if name.front = '/' then parts else files.working ++ parts)

/-- The contents of files, or what is wrong with the first that cannot be read.
What is on standard input is read from it once. -/
def read (files : Files) (standard : List UInt8) : List String → Except String (List Source)
  | [] => .ok []
  | name :: rest =>
    match files.find name with
    | .ok (.file bytes) => (files.read standard rest).map ({ bytes } :: ·)
    | .ok .standard => (files.read [] rest).map ({ bytes := standard } :: ·)
    | .ok (.directory _) => .error (FileError.isDirectory.message name)
    | .error error => .error (error.message name)

end Files

end Lisplet.CommandLine
