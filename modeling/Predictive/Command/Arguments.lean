import Predictive.Text.Property

/-!
# Command-line arguments

An argument list mixes options with other arguments. A long option may be
shortened as long as one option alone begins that way, and may carry its value
behind an equals sign; short options without values may share one dash. Behind
a lone `--` nothing is an option, and neither is a negative number, a text with
a space, or a single dash. All arguments are classified before any takes effect.
-/

namespace Predictive.Command

open Text (isDecimal)

/-- What an option does: ask for help, set a mark, or give a value. -/
inductive Effect where
  | help
  | mark (name : String)
  | value (name : String)
deriving DecidableEq

/-- An option with all its spellings. -/
structure OptionRule where
  spellings : List String
  effect : Effect
deriving DecidableEq

/-- Why arguments are no request. -/
inductive Stop where
  | help
  | misuse
deriving DecidableEq

/-- What an argument is: a plain one, the mark behind which all are plain, an
option under one of its spellings, or something that looks like an option. An
attached value follows an equals sign or stands behind a short option. -/
inductive Shape where
  | plain
  | divider
  | option (effect : Effect) (spelling : String) (equals : Bool) (attached : Option (List Char))
  | unknown
deriving DecidableEq

/-- All spellings with what they do. -/
def spelled (rules : List OptionRule) : List (String × Effect) :=
  rules.flatMap (fun rule => rule.spellings.map (·, rule.effect))

/-- The part of an argument in front of its first equals sign, and the part
behind it if there is one. -/
def partEquals (arg : List Char) : List Char × Option (List Char) :=
  (arg.takeWhile (· ≠ '='),
    match arg.dropWhile (· ≠ '=') with
    | [] => none
    | _ :: rest => some rest)

/-- A dash with digits, possibly with a decimal point in front of the last ones. A
newline may follow. -/
def isNegativeNumber (arg : List Char) : Bool :=
  let body := if arg.getLast? = some '\n' then arg.dropLast else arg
  match body with
  | '-' :: digits =>
    let whole := digits.takeWhile isDecimal
    match digits.dropWhile isDecimal with
    | [] => !whole.isEmpty
    | '.' :: places => !places.isEmpty && places.all isDecimal
    | _ => false
  | _ => false

/-- The options that a shortened or combined spelling can mean. -/
def candidates (rules : List OptionRule) (arg : List Char) : List Shape :=
  match arg with
  | '-' :: '-' :: _ =>
    let (front, attached) := partEquals arg
    (spelled rules).filterMap (fun (spelling, effect) =>
      if front.isPrefixOf spelling.toList then
        some (.option effect spelling attached.isSome attached)
      else none)
  | '-' :: letter :: rest =>
    (spelled rules).filterMap (fun (spelling, effect) =>
      if spelling.toList = ['-', letter] then some (.option effect spelling false (some rest))
      else if arg.isPrefixOf spelling.toList then some (.option effect spelling false none)
      else none)
  | _ => []

/-- Classify an argument in front of any divider. -/
def classify (rules : List OptionRule) (arg : String) : Except Stop Shape :=
  let cs := arg.toList
  if cs.head? ≠ some '-' then .ok .plain
  else
    match (spelled rules).lookup arg with
    | some effect => .ok (.option effect arg false none)
    | none =>
      if cs.length = 1 then .ok .plain
      else
        let (front, attached) := partEquals cs
        match attached.bind (fun _ => (spelled rules).lookup (String.ofList front)) with
        | some effect => .ok (.option effect (String.ofList front) true attached)
        | none =>
          match candidates rules cs with
          | [shape] => .ok shape
          | _ :: _ :: _ => .error .misuse
          | [] =>
            if isNegativeNumber cs || ' ' ∈ cs then .ok .plain else .ok .unknown

/-- Classify all arguments. -/
def classifyAll (rules : List OptionRule) : List String → Except Stop (List (String × Shape))
  | [] => .ok []
  | arg :: rest =>
    if arg = "--" then .ok ((arg, .divider) :: rest.map (·, .plain))
    else
      match classify rules arg with
      | .error stop => .error stop
      | .ok shape => (classifyAll rules rest).map ((arg, shape) :: ·)

end Predictive.Command
