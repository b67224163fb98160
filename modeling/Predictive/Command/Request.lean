import Predictive.Command.Effects

/-!
# Requests

A request names a command, a rule file and, where the command needs one, an
input, which is given as a text or by the name of a file but not as both. Each
command knows options of its own.
-/

namespace Predictive.Command

/-- The options of all commands. -/
def helpRule : OptionRule := ⟨["-h", "--help"], .help⟩

/-- The option that asks for a report of every stage. -/
def debugRule : OptionRule := ⟨["-D", "--debug"], .mark "debug"⟩

/-- The option that asks for the productions applied. -/
def traceRule : OptionRule := ⟨["--trace"], .mark "trace"⟩

/-- The two options that give the input. -/
def inputRules : List OptionRule := [⟨["--text"], .value "text"⟩, ⟨["--input"], .value "input"⟩]

/-- Where the input of a command comes from. -/
inductive Input where
  | text (value : String)
  | file (name : String)
deriving DecidableEq

/-- What is asked for, of a rule file. -/
inductive Request where
  | check (file : String) (debug : Bool)
  | parse (file : String) (input : Input) (trace debug : Bool)
  | lex (file : String) (input : Input)
deriving DecidableEq

/-- The effects of the arguments of a command, which need a subject. -/
def readEffects (rules : List OptionRule) (args : List String) : Except Stop (String × Effects) :=
  match classifyAll rules args with
  | .error stop => .error stop
  | .ok shapes =>
    match apply rules false shapes {} with
    | .error stop => .error stop
    | .ok e =>
      match e.subject with
      | none => .error .misuse
      | some subject => if e.leftOver then .error .misuse else .ok (subject, e)

/-- The input that the options give, which must be one. -/
def readInput (e : Effects) : Except Stop Input :=
  match e.values with
  | [] => .error .misuse
  | (name, value) :: _ => .ok (if name = "text" then .text value else .file value)

/-- The request of a named command. -/
def readCommand (name : String) (args : List String) : Except Stop Request :=
  if name = "check" then
    (readEffects [helpRule, debugRule] args).map
      (fun (file, e) => .check file ("debug" ∈ e.marks))
  else if name = "parse" then
    match readEffects ([helpRule] ++ inputRules ++ [traceRule, debugRule]) args with
    | .error stop => .error stop
    | .ok (file, e) =>
      (readInput e).map (.parse file · ("trace" ∈ e.marks) ("debug" ∈ e.marks))
  else if name = "lex" then
    match readEffects (helpRule :: inputRules) args with
    | .error stop => .error stop
    | .ok (file, e) => (readInput e).map (.lex file)
  else .error .misuse

/-- Read the arguments in front of the command's name, and the command behind
them. Only help is known there; anything else is a misuse in the end. -/
def readFrom (leftOver : Bool) : List (String × Shape) → Except Stop Request
  | [] => .error .misuse
  | (name, .plain) :: rest =>
    match readCommand name (rest.map Prod.fst) with
    | .error stop => .error stop
    | .ok request => if leftOver then .error .misuse else .ok request
  | (_, .divider) :: _ => .error .misuse
  | (_, .unknown) :: rest => readFrom true rest
  | (_, .option effect spelling equals (some attached)) :: rest =>
    match applyAttached [helpRule] effect spelling equals attached {} with
    | .error stop => .error stop
    | .ok _ => readFrom true rest
  | (_, .option _ _ _ none) :: _ => .error .help

/-- The request of an argument list. -/
def read (args : List String) : Except Stop Request :=
  match classifyAll [helpRule] args with
  | .error stop => .error stop
  | .ok shapes => readFrom false shapes

end Predictive.Command
