import Predictive.Command.Arguments

/-!
# Effects of arguments

Classified arguments take effect from left to right: marks are set, values are
given, and the first plain argument is the subject. A request for help ends the
reading at once. Arguments that nothing accounts for are left over, which is a
misuse in the end.
-/

namespace Predictive.Command

/-- What has taken effect so far: marks set, values given, latest first, the one
argument that is asked for, and whether some argument was left over. -/
structure Effects where
  marks : List String := []
  values : List (String × String) := []
  subject : Option String := none
  leftOver : Bool := false
deriving DecidableEq

namespace Effects

/-- Set a mark. -/
def mark (e : Effects) (name : String) : Effects := { e with marks := name :: e.marks }

/-- Give a value. Values of different names exclude each other. -/
def give (e : Effects) (name value : String) : Except Stop Effects :=
  if e.values.any (fun given => given.1 ≠ name) then .error .misuse
  else .ok { e with values := (name, value) :: e.values }

/-- Leave an argument over. -/
def leave (e : Effects) : Effects := { e with leftOver := true }

end Effects

/-- The effects of letters behind a short option. An unknown letter ends them and
leaves the rest over. -/
def letterEffects (rules : List OptionRule) : List Char → Except Stop (List Effect × Bool)
  | [] => .ok ([], false)
  | letter :: rest =>
    if letter = '=' ∨ letter = '-' then .error .misuse
    else
      match (spelled rules).lookup (String.ofList ['-', letter]) with
      | none => .ok ([], true)
      | some effect => (letterEffects rules rest).map (fun (others, left) => (effect :: others, left))

/-- Let options without values take effect. -/
def applyMarks : List Effect → Effects → Except Stop Effects
  | [], e => .ok e
  | .help :: _, _ => .error .help
  | .mark name :: rest, e => applyMarks rest (e.mark name)
  | .value _ :: _, _ => .error .misuse

/-- Apply an option with an attached value. Only a short option without a value
lets letters follow. -/
def applyAttached (rules : List OptionRule) (effect : Effect) (spelling : String) (equals : Bool)
    (attached : List Char) (e : Effects) : Except Stop Effects :=
  match effect with
  | .value name => e.give name (String.ofList attached)
  | _ =>
    if equals ∨ attached = [] ∨ spelling.toList.take 2 = ['-', '-'] then .error .misuse
    else
      match letterEffects rules attached with
      | .error stop => .error stop
      | .ok (others, left) => applyMarks (effect :: others) (if left then e.leave else e)

/-- Let classified arguments take effect from left to right. The first plain
argument is the subject. A divider is accounted for when it stands in front of
the subject or right behind it, which the flag tells. -/
def apply (rules : List OptionRule) : Bool → List (String × Shape) → Effects → Except Stop Effects
  | _, [], e => .ok e
  | _, (_, .unknown) :: rest, e => apply rules false rest e.leave
  | _, (_, .option effect spelling equals (some attached)) :: rest, e =>
    match applyAttached rules effect spelling equals attached e with
    | .error stop => .error stop
    | .ok after => apply rules false rest after
  | _, (_, .option .help _ _ none) :: _, _ => .error .help
  | _, (_, .option (.mark name) _ _ none) :: rest, e => apply rules false rest (e.mark name)
  | _, (_, .option (.value name) _ _ none) :: (value, .plain) :: rest, e =>
    match e.give name value with
    | .error stop => .error stop
    | .ok after => apply rules false rest after
  | _, (_, .option (.value _) _ _ none) :: _, _ => .error .misuse
  | _, (arg, .plain) :: rest, e =>
    if e.subject.isSome then apply rules false rest e.leave
    else apply rules true rest { e with subject := some arg }
  | besideSubject, (_, .divider) :: rest, e =>
    if besideSubject ∨ (e.subject.isNone ∧ rest ≠ []) then apply rules false rest e
    else apply rules false rest e.leave

end Predictive.Command
