import Lisplet.CommandLine.Run

/-!
# The program

Reads what the command needs, runs it, and writes what it leaves behind.
-/

namespace Lisplet.CommandLine

/-- How deeply evaluations may be nested. -/
def depthLimit : Nat := 10000000

/-- Why the system does not read a file. A file that is opened and cannot be read
then is reported without its name. -/
def FileError.ofSystem : IO.Error → FileError
  | .noFileOrDirectory .. => missing
  | .inappropriateType none .. => isDirectory
  | .inappropriateType .. => notDirectory
  | .invalidArgument .. => nameTooLong
  | _ => denied

/-- What is in files, or what is wrong with the first that cannot be read. -/
def fetchFiles : List String → IO (Except String (List Source))
  | [] => pure (.ok [])
  | name :: rest => do
    match ← (IO.FS.readBinFile name).toBaseIO with
    | .ok bytes => return (← fetchFiles rest).map ({ bytes := bytes.data.toList } :: ·)
    | .error error => return .error ((FileError.ofSystem error).message name)

/-- The programs, or why there is one that cannot be fetched. -/
def fetch : Input → IO (Except String (List Source))
  | .expression text => pure (.ok [.ofString text])
  | .files names => fetchFiles names
  | .standard => do
    let bytes ← (← IO.getStdin).readBinToEnd
    return .ok [{ bytes := bytes.data.toList }]

end Lisplet.CommandLine

open Lisplet.CommandLine in
/-- Run the command. -/
def main (args : List String) : IO UInt32 := do
  let outcome ← match readArguments {} args with
    | .error error => pure (refuse error)
    | .ok options => do pure (runFetched options depthLimit (← fetch options.input))
  IO.print outcome.output
  IO.eprint outcome.errors
  return UInt32.ofNat outcome.code
