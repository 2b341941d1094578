import Lisplet.Text.Quoted

/-!
# Arguments of the command

Flags come first and end at the first argument that is not one, or after `--`. A
flag is a name after one or two dashes. A switch is on when it is given, or takes
a truth value after an equals sign; a flag with a value takes it after an equals
sign or from the next argument. The remaining arguments are names of files.
-/

namespace Lisplet.CommandLine

/-- What the command was asked to do. -/
structure Options where
  /-- A program given in place of files; empty if there is none. -/
  expression : String := ""
  /-- Show the tree of each program instead of running it. -/
  outline : Bool := false
  /-- Go on after errors. -/
  resume : Bool := false
  /-- Show the log. -/
  trace : Bool := false
  /-- Show the bindings of the root scope at the end. -/
  bindings : Bool := false
  /-- The files to run. -/
  files : List String := []
  deriving DecidableEq, Repr

/-- Flags that are on or off. -/
inductive Switch where
  | outline
  | resume
  | bindings
  | trace
  deriving DecidableEq, Repr

/-- The switch with the given name. -/
def Switch.ofName? : String → Option Switch
  | "ast" => some outline
  | "continue" => some resume
  | "env" => some bindings
  | "v" => some trace
  | _ => none

/-- Turn a switch on or off. -/
def Options.set (options : Options) (value : Bool) : Switch → Options
  | .outline => { options with outline := value }
  | .resume => { options with resume := value }
  | .bindings => { options with bindings := value }
  | .trace => { options with trace := value }

/-- Why the arguments are not taken. -/
inductive UsageError where
  /-- Help was asked for. -/
  | help
  | badFlag (argument : String)
  | undefinedFlag (name : String)
  | missingValue (name : String)
  | notBool (value name : String)
  deriving DecidableEq, Repr

/-- The wording of a usage error; there is none for help. -/
def UsageError.message? : UsageError → Option String
  | help => none
  | badFlag argument => some ("bad flag syntax: " ++ argument)
  | undefinedFlag name => some ("flag provided but not defined: -" ++ name)
  | missingValue name => some ("flag needs an argument: -" ++ name)
  | notBool value name =>
    some ("invalid boolean value " ++ Text.quote value ++ " for -" ++ name ++ ": parse error")

/-- Asking for help is no failure. -/
def UsageError.code : UsageError → Nat
  | help => 0
  | _ => 2

/-- How the command is used. -/
def usage : String :=
  "Usage of slisp:\n" ++
  "  -ast\n    \tprint the parsed tree instead of evaluating it\n" ++
  "  -continue\n    \tkeep evaluating top-level forms after an error\n" ++
  "  -e string\n    \tevaluate the given expression\n" ++
  "  -env\n    \tprint the root bindings after evaluation\n" ++
  "  -v\ttrace evaluation to stderr\n"

/-- What an argument is where a flag may stand. -/
inductive Argument where
  /-- Not a flag. -/
  | operand
  /-- The end of the flags. -/
  | terminator
  /-- Dashes without a name after them. -/
  | malformed
  /-- A flag, and the value after its equals sign. -/
  | flag (name : String) (value : Option String)
  deriving DecidableEq, Repr

/-- A flag from its text after the dashes. -/
def Argument.ofName : List Char → Argument
  | [] => malformed
  | '-' :: _ => malformed
  | '=' :: _ => malformed
  | name =>
    match name.dropWhile (· != '=') with
    | [] => flag (String.ofList name) none
    | _ :: value => flag (String.ofList (name.takeWhile (· != '='))) (some (String.ofList value))

/-- What an argument is. -/
def Argument.of (argument : String) : Argument :=
  match argument.toList with
  | ['-', '-'] => terminator
  | '-' :: '-' :: name => ofName name
  | ['-'] => operand
  | '-' :: name => ofName name
  | _ => operand

/-- The truth value of a text. -/
def bool? (text : String) : Option Bool :=
  if ["1", "t", "T", "true", "TRUE", "True"].contains text then some true
  else if ["0", "f", "F", "false", "FALSE", "False"].contains text then some false
  else none

/-- Read arguments after those that gave the options so far. -/
def readArguments (options : Options) : List String → Except UsageError Options
  | [] => .ok options
  | argument :: rest =>
    match Argument.of argument with
    | .operand => .ok { options with files := argument :: rest }
    | .terminator => .ok { options with files := rest }
    | .malformed => .error (.badFlag argument)
    | .flag "e" (some value) => readArguments { options with expression := value } rest
    | .flag "e" none =>
      match rest with
      | value :: more => readArguments { options with expression := value } more
      | [] => .error (.missingValue "e")
    | .flag name value =>
      match Switch.ofName? name with
      | some switch =>
        match value with
        | none => readArguments (options.set true switch) rest
        | some text =>
          match bool? text with
          | some on => readArguments (options.set on switch) rest
          | none => .error (.notBool text name)
      | none =>
        if name == "help" || name == "h" then .error .help else .error (.undefinedFlag name)

end Lisplet.CommandLine
