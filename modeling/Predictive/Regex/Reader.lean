import Predictive.Regex.CharSet
import Predictive.Regex.Group

/-!
# Reading regular expressions

Reading descends through alternatives, sequences and groups; fuel bounds the
descent by the number of signs. Flags are resolved on the way: a leading group
of flags changes those of the whole pattern, and a group may change them for its
own body.
-/

namespace Predictive.Regex

open Read

mutual

/-- Read alternatives up to a closing parenthesis or the end. Outside of all
groups the flags of the whole pattern apply. -/
def readBranches : Nat → Option Flags → Bool → Read Node
  | 0, _, _ => refuse .unexpectedEnd 0
  | fuel + 1, own, first => do
    let r ← get
    let pieces ← readSequence fuel (own.getD r.flags) (own.isNone && first) []
    if ← accept '|' then
      let others ← readBranches fuel own false
      return .alt (sequenceOf pieces) others
    else return sequenceOf pieces

/-- Read a sequence up to a bar, a closing parenthesis or the end. `leading` tells
that flags for the whole pattern may still come. -/
def readSequence : Nat → Flags → Bool → List Piece → Read (List Piece)
  | 0, _, _, pieces => return pieces
  | fuel + 1, flags, leading, pieces => do
    match ← ahead with
    | none => return pieces
    | some s =>
      if s.isPlain '|' || s.isPlain ')' then return pieces
      let _ ← take
      if flags.verbose && isPatternBlank s then readSequence fuel flags leading pieces
      else if flags.verbose && s.isPlain '#' then
        skipLine
        readSequence fuel flags leading pieces
      else if s.escaped then
        let piece ← readEscape flags s
        readSequence fuel flags leading (pieces ++ [piece])
      else if s.char = '[' then
        let node ← readSet flags s.offset
        readSequence fuel flags leading (pieces ++ [.plain node])
      else if s.char ∈ ['?', '*', '+', '\x7b'] then
        match ← readBounds? s with
        | none => readSequence fuel flags leading (pieces ++ [.plain (flags.char s.char.toNat)])
        | some bounds =>
          let repeated ← readRepetition s bounds pieces
          readSequence fuel flags leading repeated
      else if s.char = '.' then
        let test : CharTest := if flags.dotAll then .any else .notNewline
        readSequence fuel flags leading (pieces ++ [.plain (.one test)])
      else if s.char = '^' then
        readSequence fuel flags leading (pieces ++ [.anchored (.anchor flags.startAnchor)])
      else if s.char = '$' then
        readSequence fuel flags leading (pieces ++ [.anchored (.anchor flags.endAnchor)])
      else if s.char = '(' then
        match ← readGroup fuel flags s.offset with
        | .piece node => readSequence fuel flags leading (pieces ++ [.plain node])
        | .nothing => readSequence fuel flags leading pieces
        | .wholeFlags letters =>
          if leading && pieces.isEmpty then
            let r ← get
            let whole := r.flags.put letters true
            if r.flags.ascii ∧ 'u' ∈ letters then throw ⟨.incompatibleFlags, none⟩
            set { r with flags := whole }
            readSequence fuel whole leading pieces
          else refuseAt .lateGlobalFlags s.offset
      else readSequence fuel flags leading (pieces ++ [.plain (flags.char s.char.toNat)])

/-- Read a group behind its opening parenthesis, which stands at an offset. -/
def readGroup : Nat → Flags → Nat → Read GroupPart
  | 0, _, start => refuseAt .unterminatedGroup start
  | fuel + 1, flags, start => do
    if ← accept '?' then
      match ← take with
      | none => refuse .unexpectedEnd 0
      | some s =>
        if s.isPlain 'P' then
          if ← accept '<' then
            let name ← readGroupName '>'
            readCapture fuel flags start (some name)
          else if ← accept '=' then
            let name ← readGroupName ')'
            let r ← get
            match r.names.lookup name with
            | none => refuse (.unknownGroupName name) (name.length + 1)
            | some index =>
              checkReference index (name.length + 1)
              return .piece (.backReference index flags.letters)
          else
            match ← take with
            | none => refuse .unexpectedEnd 0
            | some t => refuse (.unknownExtension ("P" ++ t.text)) (t.text.length + 2)
        else if s.isPlain ':' then
          let body ← readBranches fuel (some flags) false
          closeGroup start
          return .piece body
        else if s.isPlain '#' then
          skipComment start
          return .nothing
        else if s.isPlain '=' || s.isPlain '!' then
          let body ← readBranches fuel (some flags) false
          closeGroup start
          return .piece (.lookAhead (s.char == '!') body)
        else if s.isPlain '<' then
          match ← take with
          | none => refuse .unexpectedEnd 0
          | some t =>
            if t.isPlain '=' || t.isPlain '!' then
              let r ← get
              set { r with behind := r.behind.or (some r.nextGroup) }
              let body ← readBranches fuel (some flags) false
              let after ← get
              set { after with behind := r.behind }
              closeGroup start
              let width := (body.width after.widths).fixed?
              modify (fun state => { state with varies := state.varies || width.isNone })
              return .piece (.lookBehind (t.char == '!') (width.getD 0) body)
            else refuse (.unknownExtension ("<" ++ t.text)) (t.text.length + 2)
        else if s.isPlain '(' then
          let index ← readCondition
          let present ← readSequence fuel flags false []
          let absent ← if ← accept '|' then
              let pieces ← readSequence fuel flags false []
              if ← sees '|' then refuse .tooManyBranches 0
              pure pieces
            else pure []
          closeGroup start
          return .piece (.ifGroup index (sequenceOf present) (sequenceOf absent))
        else if s.isPlain '>' then
          let body ← readBranches fuel (some flags) false
          closeGroup start
          return .piece (.atomic body)
        else if s.isPlain '-' || (!s.escaped && isFlagLetter s.char) then
          match ← readFlags flags s with
          | .whole letters => return .wholeFlags letters
          | .own inner =>
            let body ← readBranches fuel (some inner) false
            closeGroup start
            return .piece body
        else refuse (.unknownExtension s.text) (s.text.length + 1)
    else readCapture fuel flags start none

/-- Read the body of a group that captures. -/
def readCapture : Nat → Flags → Nat → Option String → Read GroupPart
  | 0, _, start, _ => refuseAt .unterminatedGroup start
  | fuel + 1, flags, start, name => do
    let index ← openGroup name
    let body ← readBranches fuel (some flags) false
    closeGroup start
    modify (fun r => { r with widths := (index, body.width r.widths) :: r.widths })
    return .piece (.group index body)

end

/-- Read a whole pattern. A look-behind without a single width is refused last. -/
def readPattern : Read Node := do
  let r ← get
  let node ← readBranches (4 * r.rest.length + 4) none true
  if (← ahead).isSome then refuse .unbalancedParenthesis 0
  let after ← get
  match after.mentioned.find? (fun mention => after.nextGroup ≤ mention.1) with
  | some (index, place) => refuseAt (.invalidGroup index) place
  | none => if after.varies then throw ⟨.variableLookBehind, none⟩ else return node

/-- The expression of a pattern under flags. -/
def ofPattern (pattern : List Char) (flags : Flags) : Except Fault Node :=
  match Sign.ofChars 0 pattern with
  | .error fault => .error fault
  | .ok signs =>
    (readPattern.run { rest := signs, finish := pattern.length, flags := flags }).map Prod.fst

end Predictive.Regex
