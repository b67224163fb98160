import Predictive.Text.Quoted
import Predictive.Text.Utf8

/-!
# Files that a command reads

A command sees the file system as a function from names to what opening them
gives. The name of a rule file is read as a path: empty parts and parts that
name the current directory drop out, and the empty path is the current
directory. The name of an input file is taken as it is.
-/

namespace Predictive.Command

/-- What opening a name gives. -/
inductive FileEntry where
  | bytes (content : List UInt8)
  | directory
  | missing

/-- The files that a command can open. -/
abbrev Files := String → FileEntry

/-- Why a file has no text. -/
inductive FileFault where
  | missing (name : String)
  | directory (name : String)
  | undecodable (fault : Text.Utf8Fault)

namespace FileFault

/-- The kind of a fault in a report. -/
def kind : FileFault → String
  | missing _ => "FileNotFoundError"
  | directory _ => "IsADirectoryError"
  | undecodable _ => "UnicodeDecodeError"

/-- The wording of a fault. -/
def message : FileFault → String
  | missing name => "[Errno 2] No such file or directory: " ++ Text.quoted name
  | directory name => "[Errno 21] Is a directory: " ++ Text.quoted name
  | undecodable fault => fault.message

end FileFault

/-- The parts of a path between slashes. -/
def pathParts : List Char → List (List Char)
  | [] => [[]]
  | c :: rest =>
    match pathParts rest with
    | [] => [[]]
    | part :: others => if c = '/' then [] :: part :: others else (c :: part) :: others

/-- The slashes that lead a path: two are kept, any other number counts as one. -/
def pathRoot (cs : List Char) : List Char :=
  match (cs.takeWhile (· = '/')).length with
  | 0 => []
  | 2 => ['/', '/']
  | _ => ['/']

/-- The plain form of a path. -/
def plainPath (name : String) : String :=
  let parts := (pathParts name.toList).filter (fun part => part ≠ [] ∧ part ≠ ['.'])
  let root := pathRoot name.toList
  if parts = [] ∧ root = [] then "."
  else String.ofList (root ++ List.intercalate ['/'] parts)

/-- The bytes of a file. -/
def readBytes (files : Files) (name : String) : Except FileFault (List UInt8) :=
  match files name with
  | .bytes content => .ok content
  | .directory => .error (.directory name)
  | .missing => .error (.missing name)

/-- The text of a rule file. A byte-order mark at its front is no part of it. -/
def readRuleFile (files : Files) (name : String) : Except FileFault (List Char) :=
  match readBytes files (plainPath name) with
  | .error fault => .error fault
  | .ok content =>
    match Text.loadText content with
    | .ok text => .ok text
    | .error fault => .error (.undecodable fault)

/-- The text of an input file. A byte-order mark is a character of it. -/
def readInputFile (files : Files) (name : String) : Except FileFault (List Char) :=
  match readBytes files name with
  | .error fault => .error fault
  | .ok content =>
    match Text.decodeUtf8 content with
    | .ok text => .ok (Text.normalize text)
    | .error fault => .error (.undecodable fault)

end Predictive.Command
