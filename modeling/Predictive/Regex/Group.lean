import Predictive.Regex.Piece

/-!
# Parts of groups

What stands between the opening of a group and its body: letters of flags, names
and numbers, conditions and comments. Groups that capture are numbered as they
open and can be named once.
-/

namespace Predictive.Regex

open Read

/-- Read the letters of flags that begin with a sign, up to one of the given ends.
The answer is the letters and the end. -/
def readFlagLetters (ends : List Char) (what : String) : Nat → Sign → Read (List Char × Char)
  | 0, _ => refuse (.missing what) 0
  | fuel + 1, s => do
    if s.escaped || !isFlagLetter s.char then
      if s.char.isAlpha && !s.escaped then refuse .unknownFlag s.text.length
      else refuse (.missing what) s.text.length
    if s.char = 'L' then
      refuse (.badInlineFlags "cannot use 'L' flag with a str pattern") 0
    match ← take with
    | none => refuse (.missing what) 0
    | some t =>
      if !t.escaped && t.char ∈ ends then return ([s.char], t.char)
      else
        let (others, stop) ← readFlagLetters ends what fuel t
        return (s.char :: others, stop)

/-- What a group of flags does: it changes the flags of the whole pattern, or
those of its own body. -/
inductive FlagGroup where
  | whole (letters : List Char)
  | own (flags : Flags)

/-- Read a group of flags whose first sign has been read. -/
def readFlags (flags : Flags) (s : Sign) : Read FlagGroup := do
  let r ← get
  let fuel := r.rest.length + 1
  let (added, stop) ←
    if s.isPlain '-' then pure ([], '-')
    else readFlagLetters [')', '-', ':'] "-, : or )" fuel s
  if 'a' ∈ added ∧ 'u' ∈ added then
    refuse (.badInlineFlags "flags 'a', 'u' and 'L' are incompatible") 0
  if stop = ')' then return .whole added
  if stop = ':' then return .own (flags.put added true)
  match ← take with
  | none => refuse (.missing "flag") 0
  | some t =>
    if t.escaped || !isFlagLetter t.char then
      if t.char.isAlpha && !t.escaped then refuse .unknownFlag t.text.length
      else refuse (.missing "flag") t.text.length
    let (cleared, _) ← readFlagLetters [':'] ":" fuel t
    if cleared.any isTypeLetter then
      refuse (.badInlineFlags "cannot turn off flags 'a', 'u' and 'L'") 0
    if cleared.any (· ∈ added) then refuse (.badInlineFlags "flag turned on and off") 1
    return .own ((flags.put added true).put cleared false)

/-- Open a group and give it a number, and a name if it has one. -/
def openGroup (name : Option String) : Read Nat := do
  let r ← get
  match name with
  | none => set { r with nextGroup := r.nextGroup + 1 }
  | some name =>
    match r.names.lookup name with
    | some earlier => refuse (.redefinedGroup name r.nextGroup earlier) (name.length + 1)
    | none =>
      set { r with nextGroup := r.nextGroup + 1, names := (name, r.nextGroup) :: r.names }
  return r.nextGroup

/-- The closing parenthesis of a group that began at an offset. -/
def closeGroup (start : Nat) : Read Unit := do
  if ← accept ')' then return ()
  else refuseAt .unterminatedGroup start

/-- The number of a named group. -/
def readGroupName (terminator : Char) : Read String := do
  let name ← takeName terminator "group name"
  if isName name then return name
  else refuse (.badGroupName name) (name.length + 1)

/-- Read the group that a condition mentions. -/
def readCondition : Read Nat := do
  let name ← takeName ')' "group name"
  let r ← get
  let index ←
    if isName name then
      match r.names.lookup name with
      | some index => pure index
      | none => refuse (.unknownGroupName name) (name.length + 1)
    else if name.toList.all isDigit then
      if valueOf 10 name.toList = 0 then refuse .badGroupNumber (name.length + 1)
      else
        let here ← offset
        set { r with mentioned :=
          r.mentioned ++ [(valueOf 10 name.toList, here - name.length - 1)] }
        pure (valueOf 10 name.toList)
    else refuse (.badGroupName name) (name.length + 1)
  if r.behind.isSome then checkReference index 0
  return index

/-- Pass over a comment behind its opening. -/
def skipComment (start : Nat) : Read Unit := do
  let r ← get
  let signs := r.rest.takeWhile (fun s => !s.isPlain ')')
  set { r with rest := (r.rest.drop signs.length).tail }
  if (r.rest.drop signs.length).isEmpty then refuseAt .unterminatedComment start

/-- Pass over a comment to the end of its line. -/
def skipLine : Read Unit := do
  let r ← get
  set { r with rest := (r.rest.dropWhile (fun (s : Sign) => !s.isPlain '\n')).tail }

/-- The blanks that a verbose pattern may hold. -/
def isPatternBlank (s : Sign) : Bool :=
  !s.escaped && s.char ∈ [' ', '\t', '\n', '\r', Char.ofNat 11, Char.ofNat 12]

/-- What a group adds to its sequence: a part, nothing, or flags for the whole
pattern. -/
inductive GroupPart where
  | piece (node : Node)
  | nothing
  | wholeFlags (letters : List Char)

end Predictive.Regex
