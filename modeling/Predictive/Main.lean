import Predictive.Command.Run

/-!
# The command line

The program reads the files that a request names, runs the request and prints
its report. Help goes to the standard output and ends with exit code zero; a
misuse is answered on the error output with exit code two.
-/

namespace Predictive.Command

/-- How the program is called. -/
def usage : String :=
  "usage: predictive check FILE [-D]\n" ++
  "       predictive parse FILE (--text TEXT | --input FILE) [--trace] [-D]\n" ++
  "       predictive lex FILE (--text TEXT | --input FILE)\n"

/-- The names of the files that a request may open. -/
def requestFiles : Request → List String
  | .check file _ => [plainPath file]
  | .parse file (.file name) _ _ => [plainPath file, name]
  | .parse file (.text _) _ _ => [plainPath file]
  | .lex file (.file name) => [plainPath file, name]
  | .lex file (.text _) => [plainPath file]

/-- What opening a name gives at the moment. -/
def openEntry (name : String) : IO FileEntry := do
  try
    let bytes ← IO.FS.readBinFile name
    return .bytes bytes.toList
  catch fault =>
    match fault with
    | .inappropriateType .. => return .directory
    | .resourceVanished .. => return .directory
    | _ => return .missing

/-- What opening each of the names gives. -/
def openAll : List String → IO (List (String × FileEntry))
  | [] => return []
  | name :: rest => do
    let entry ← openEntry name
    let others ← openAll rest
    return (name, entry) :: others

end Predictive.Command

open Predictive.Command

/-- Run the request of the arguments and give the exit code. -/
def main (args : List String) : IO UInt32 := do
  match read args with
  | .error .help =>
    IO.print usage
    return 0
  | .error .misuse =>
    IO.eprint usage
    return 2
  | .ok request =>
    let entries ← openAll (requestFiles request)
    let report := run (fun name => (entries.lookup name).getD .missing) request
    IO.print (linesText report.out)
    IO.eprint (linesText report.err)
    return UInt32.ofNat report.exit
