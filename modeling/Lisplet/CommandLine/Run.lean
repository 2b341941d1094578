import Lisplet.CommandLine.Files
import Lisplet.CommandLine.Flags
import Lisplet.Session

/-!
# The command

The command runs programs in one session and shows the value of every form that
is not nil. Errors go to the second channel, and so does the log if it was asked
for. Without the flag to go on, the first error ends the run. The exit code tells
whether there was any.
-/

namespace Lisplet.CommandLine

/-- What a run of the command leaves behind. -/
structure Outcome where
  /-- The text on standard output. -/
  output : String := ""
  /-- The text on standard error. -/
  errors : String := ""
  /-- The exit code. -/
  code : Nat := 0
  deriving DecidableEq, Repr

/-- The beginning of every line the command itself writes on standard error. -/
def lineLabel : String := "slisp: "

/-- A run of the command as far as it has come. -/
structure Progress where
  /-- The session the programs run in. -/
  session : Session
  /-- The text on standard output so far. -/
  output : String := ""
  /-- The text on standard error so far. -/
  errors : String := ""
  /-- Whether anything has failed. -/
  failed : Bool := false
  /-- Why the run broke off, if it did. -/
  broken : Option String := none

namespace Progress

/-- Write a text on standard output. -/
def print (progress : Progress) (text : String) : Progress :=
  { progress with output := progress.output ++ text }

/-- Write a line on standard error because of a failure. -/
def fail (progress : Progress) (text : String) : Progress :=
  { progress with errors := progress.errors ++ text ++ "\n", failed := true }

/-- Break off. -/
def breakOff (progress : Progress) (reason : String) : Progress :=
  { progress with broken := some reason }

/-- Whether the run is over before its end. -/
def halted (options : Options) (progress : Progress) : Bool :=
  progress.broken.isSome || (progress.failed && !options.resume)

/-- Move what a session wrote and logged to the channels. -/
def drain (options : Options) (progress : Progress) : Progress :=
  let logged := String.join (progress.session.world.log.toList.map (lineLabel ++ ·))
  { progress with
    output := progress.output ++ progress.session.written
    errors := if options.trace then progress.errors ++ logged else progress.errors
    session := progress.session.forget }

/-- Why an evaluation that does not end in a value or a problem broke off. -/
def reason : Stop → String
  | .problem problem => problem.text
  | .fault fault => fault.message
  | .exhausted => "evaluation nested too deeply"

/-- Evaluate a form and show its value. -/
def evaluateForm (options : Options) (depth : Nat) (progress : Progress) (form : Node) : Progress :=
  let (result, session) :=
    progress.session.act (attempt depth progress.session.root form)
  let progress := drain options { progress with session }
  match result with
  | .error stop => progress.breakOff (reason stop)
  | .ok (.error problem) => progress.fail problem.text
  | .ok (.ok value) =>
    if value.kind == .nil then progress
    else if value.hasText then progress.print (value.displayText ++ "\n")
    else progress.breakOff Fault.unknownNode.message

/-- Evaluate forms until the run is halted. -/
def evaluateForms (options : Options) (depth : Nat) (progress : Progress) : List Node → Progress
  | [] => progress
  | form :: rest =>
    let progress := evaluateForm options depth progress form
    if progress.halted options then progress else evaluateForms options depth progress rest

/-- Read a program and run it, or show its tree. -/
def runSource (options : Options) (depth : Nat) (progress : Progress) (source : Source) : Progress :=
  match Program.read source with
  | .error error => progress.fail error.diagnostic.text
  | .ok program =>
    if options.outline then progress.print (program.outline 0)
    else evaluateForms options depth progress (program.items?.getD [])

/-- Run programs until the run is halted. -/
def runSources (options : Options) (depth : Nat) (progress : Progress) : List Source → Progress
  | [] => progress
  | source :: rest =>
    let progress := runSource options depth progress source
    if progress.halted options then progress else runSources options depth progress rest

/-- Show the bindings of the root scope. -/
def listBindings (progress : Progress) : Progress :=
  let bindings := progress.session.world.store.listing progress.session.root
  progress.print (String.join (bindings.map fun (name, value) => name ++ ": " ++ value.text ++ "\n"))

/-- What is left behind at the end. -/
def outcome (options : Options) (progress : Progress) : Outcome :=
  match progress.broken with
  | some reason =>
    { output := progress.output, errors := progress.errors ++ "panic: " ++ reason ++ "\n", code := 2 }
  | none =>
    let progress := if options.bindings then progress.listBindings else progress
    { output := progress.output, errors := progress.errors, code := if progress.failed then 1 else 0 }

end Progress

/-- Run programs in a new session. -/
def runAll (options : Options) (depth : Nat) (sources : List Source) : Outcome :=
  (Progress.runSources options depth { session := .start none .accepting } sources).outcome options

/-- What is left behind when the arguments are not taken. -/
def refuse (error : UsageError) : Outcome :=
  { errors := (error.message?.map (· ++ "\n")).getD "" ++ usage, code := error.code }

/-- What is left behind when a program cannot be fetched. -/
def unreadable (reason : String) : Outcome :=
  { errors := lineLabel ++ "reading source: " ++ reason ++ "\n", code := 1 }

/-- Where the programs come from. -/
inductive Input where
  /-- The program is given in the arguments. -/
  | expression (text : String)
  /-- The programs are in files. -/
  | files (names : List String)
  /-- The program is on standard input. -/
  | standard
  deriving DecidableEq, Repr

/-- Where the options say the programs come from. -/
def Options.input (options : Options) : Input :=
  if !options.expression.isEmpty then .expression options.expression
  else if options.files.isEmpty then .standard
  else .files options.files

/-- The programs, or why there is one that cannot be fetched. -/
def Input.fetch (files : Files) (standard : List UInt8) : Input → Except String (List Source)
  | .expression text => .ok [.ofString text]
  | .files names => files.read standard names
  | .standard => .ok [{ bytes := standard }]

/-- Run the programs if all of them were fetched. -/
def runFetched (options : Options) (depth : Nat) : Except String (List Source) → Outcome
  | .ok sources => runAll options depth sources
  | .error reason => unreadable reason

/-- Run the command on its arguments, given what is in files and on standard
input. -/
def execute (depth : Nat) (files : Files) (standard : List UInt8) (args : List String) : Outcome :=
  match readArguments {} args with
  | .error error => refuse error
  | .ok options => runFetched options depth (options.input.fetch files standard)

end Lisplet.CommandLine
