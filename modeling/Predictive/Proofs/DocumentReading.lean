import Predictive.Proofs.Scanning
import Predictive.RuleFile.Reader
import Predictive.RuleFile.Spelling

/-!
# Reading is exact

A reader goes through the lexemes with a cursor and stops at the first one that does
not fit. The form of rule files says part by part which lexemes spell what. Each
reader is compared with the relation for its part, in two directions. What a reader
gives is spelled by the lexemes between its two cursors. And where the lexemes ahead
spell a part, with a delimiter behind them, the reader gives that part and stops at
the delimiter.

The place at which the last lexeme ended only serves messages, so it is left open
throughout.
-/

namespace Predictive.RuleFile

section Bind

variable {ε α β : Type}

/-- A chain of two readers succeeds when both do. -/
theorem bind_eq_ok {first : Except ε α} {next : α → Except ε β} {b : β} :
    (first >>= next) = .ok b ↔ ∃ a, first = .ok a ∧ next a = .ok b := by
  cases first with
  | error fault => simp [bind, Except.bind]
  | ok a => simp [bind, Except.bind]

theorem map_eq_ok {first : Except ε α} {f : α → β} {b : β} :
    first.map f = .ok b ↔ ∃ a, first = .ok a ∧ f a = b := by
  cases first with
  | error fault => simp [Except.map]
  | ok a => simp [Except.map]

end Bind

namespace Cursor

variable {c after : Cursor} {kind : Kind} {l : Lexeme}

/-- The end behind all lexemes is of a kind of its own. -/
def Ends (c : Cursor) : Prop := c.finish.kind = .finish

/-- The cursor has read the given lexemes and stands behind them. -/
structure Passed (c : Cursor) (front : List Lexeme) (after : Cursor) : Prop where
  rest_eq : c.rest = front ++ after.rest
  finish_eq : after.finish = c.finish

theorem Passed.trans {middle : Cursor} {front back : List Lexeme} (first : c.Passed front middle)
    (second : middle.Passed back after) : c.Passed (front ++ back) after where
  rest_eq := by rw [first.rest_eq, second.rest_eq, List.append_assoc]
  finish_eq := second.finish_eq.trans first.finish_eq

theorem Passed.ends {front : List Lexeme} (passed : c.Passed front after) (ends : c.Ends) :
    after.Ends := by
  rw [Ends, passed.finish_eq]
  exact ends

/-- The lexeme ahead is the first one passed, or the one ahead afterwards. -/
theorem Passed.ahead_eq {front : List Lexeme} (passed : c.Passed front after) :
    c.ahead = front.headD after.ahead := by
  unfold ahead
  rw [passed.rest_eq, passed.finish_eq]
  cases front <;> rfl

theorem Passed.length_eq {front : List Lexeme} (passed : c.Passed front after) :
    c.rest.length = front.length + after.rest.length := by
  rw [passed.rest_eq, List.length_append]

/-- Before the end, the lexeme ahead is the one that a step passes. -/
theorem passed_skip (ends : c.Ends) (other : c.ahead.kind ≠ .finish) :
    c.Passed [c.ahead] c.skip := by
  cases rest : c.rest with
  | nil => simp [ahead, rest, show c.finish.kind = .finish from ends] at other
  | cons l others => exact ⟨by simp [ahead, skip, rest], rfl⟩

theorem eat_passed (ends : c.Ends) (other : kind ≠ .finish) (read : c.eat kind = .ok (l, after)) :
    l.kind = kind ∧ c.Passed [l] after := by
  unfold eat at read
  split at read
  · rename_i fits
    obtain ⟨rfl, rfl⟩ := Prod.mk.inj (Except.ok.inj read)
    exact ⟨fits, passed_skip ends (fits ▸ other)⟩
  · simp at read

theorem close_passed {what : Closed} (ends : c.Ends) (read : c.close what = .ok after) :
    c.ahead.kind = .semicolon ∧ c.Passed [c.ahead] after := by
  unfold close at read
  split at read
  · rename_i fits
    obtain rfl := Except.ok.inj read
    exact ⟨fits, passed_skip ends (by simp [fits])⟩
  · simp at read

section Ahead

variable {rest : List Lexeme} {finish : Lexeme} {stop : Nat}

theorem eat_of_kind (fits : l.kind = kind) :
    eat ⟨l :: rest, finish, stop⟩ kind = .ok (l, ⟨rest, finish, l.stop⟩) := by
  simp [eat, ahead, skip, fits]

theorem close_of_kind {what : Closed} (fits : l.kind = .semicolon) :
    close ⟨l :: rest, finish, stop⟩ what = .ok ⟨rest, finish, l.stop⟩ := by
  simp [close, ahead, skip, fits]

end Ahead

end Cursor

theorem Rule.Spelled.length_pos {front : List Lexeme} {rule : Rule} (spelled : rule.Spelled front) :
    0 < front.length := by
  cases spelled
  simp

namespace Document

variable {c after : Cursor}

/-- A document with directives behind those that it has. -/
def declareAll (d : Document) (directives : List Directive) : Document :=
  { d with
    tokens := d.tokens ++ directives.filterMap Directive.token?
    ignores := d.ignores ++ directives.filterMap Directive.ignore?
    start := (directives.filterMap Directive.start?).getLast?.or d.start }

theorem declareAll_nil (d : Document) : d.declareAll [] = d := by
  simp [declareAll]

/-- Directives declared one group behind the other are declared together. -/
theorem declareAll_append (d : Document) (first second : List Directive) :
    d.declareAll (first ++ second) = (d.declareAll first).declareAll second := by
  simp [declareAll, List.filterMap_append, List.getLast?_append, Option.or_assoc]

/-- What a reader of directives gives is spelled by the lexemes it passes, behind a
percent sign. -/
theorem readDirective_spelled {d read : Document} {sign : Lexeme} (opens : sign.kind = .percent)
    (ends : c.Ends) (reads : d.readDirective c = .ok (read, after)) :
    ∃ front directive, c.Passed front after ∧ Directive.Spelled (sign :: front) directive ∧
      read = d.declareAll [directive] := by
  unfold readDirective at reads
  split at reads
  · simp [bind_eq_ok, throw, throwThe, MonadExceptOf.throw] at reads
  · rename_i worded
    have word : c.ahead.kind = .identifier := Decidable.not_not.mp worded
    have first := Cursor.passed_skip ends (by simp [word])
    have skipEnds := first.ends ends
    dsimp only at reads
    split at reads
    · rename_i token
      simp only [bind_eq_ok] at reads
      obtain ⟨⟨name, c₁⟩, named, ⟨regex, c₂⟩, matched, c₃, closed, reads⟩ := reads
      obtain ⟨nameKind, second⟩ := Cursor.eat_passed skipEnds (by simp) named
      obtain ⟨regexKind, third⟩ := Cursor.eat_passed (second.ends skipEnds) (by simp) matched
      obtain ⟨closeKind, fourth⟩ := Cursor.close_passed (third.ends (second.ends skipEnds)) closed
      obtain ⟨rfl, rfl⟩ := Prod.mk.inj (Except.ok.inj reads)
      refine ⟨_, _, first.trans (second.trans (third.trans fourth)),
        .token opens ⟨word, token⟩ nameKind regexKind closeKind, ?_⟩
      simp [declareAll, Directive.token?, Directive.ignore?, Directive.start?]
    · split at reads
      · rename_i ignore
        simp only [bind_eq_ok] at reads
        obtain ⟨⟨regex, c₁⟩, matched, c₂, closed, reads⟩ := reads
        obtain ⟨regexKind, second⟩ := Cursor.eat_passed skipEnds (by simp) matched
        obtain ⟨closeKind, third⟩ := Cursor.close_passed (second.ends skipEnds) closed
        obtain ⟨rfl, rfl⟩ := Prod.mk.inj (Except.ok.inj reads)
        refine ⟨_, _, first.trans (second.trans third),
          .ignore opens ⟨word, ignore⟩ regexKind closeKind, ?_⟩
        simp [declareAll, Directive.token?, Directive.ignore?, Directive.start?]
      · split at reads
        · rename_i start
          simp only [bind_eq_ok] at reads
          obtain ⟨⟨name, c₁⟩, named, c₂, closed, reads⟩ := reads
          obtain ⟨nameKind, second⟩ := Cursor.eat_passed skipEnds (by simp) named
          obtain ⟨closeKind, third⟩ := Cursor.close_passed (second.ends skipEnds) closed
          obtain ⟨rfl, rfl⟩ := Prod.mk.inj (Except.ok.inj reads)
          refine ⟨_, _, first.trans (second.trans third),
            .start opens ⟨word, start⟩ nameKind closeKind, ?_⟩
          simp [declareAll, Directive.token?, Directive.ignore?, Directive.start?]
        · simp [throw, throwThe, MonadExceptOf.throw] at reads

/-- What the directives are read to is spelled by the lexemes passed. -/
theorem readDirectives_spelled {fuel : Nat} {d read : Document} (ends : c.Ends)
    (enough : c.rest.length < fuel) (reads : readDirectives fuel d c = .ok (read, after)) :
    ∃ front directives, c.Passed front after ∧ Directive.AllSpelled front directives ∧
      read = d.declareAll directives := by
  induction fuel generalizing d c with
  | zero => omega
  | succ fuel inductionHypothesis =>
    unfold readDirectives at reads
    split at reads
    · rename_i opens
      split at reads
      · simp at reads
      · rename_i middle c₁ one
        have sign := Cursor.passed_skip ends (by simp [opens])
        obtain ⟨front, directive, passed, spelled, rfl⟩ :=
          readDirective_spelled opens (sign.ends ends) one
        have whole := sign.trans passed
        have counted := whole.length_eq
        simp only [List.length_append, List.length_singleton] at counted
        obtain ⟨back, others, later, laterSpelled, rfl⟩ :=
          inductionHypothesis (whole.ends ends) (by omega) reads
        exact ⟨_, _, whole.trans later, .cons spelled laterSpelled,
          (declareAll_append d [directive] others).symm⟩
    · obtain ⟨rfl, rfl⟩ := Prod.mk.inj (Except.ok.inj reads)
      exact ⟨[], [], ⟨rfl, rfl⟩, .nil, (declareAll_nil d).symm⟩

/-- A literal is read exactly when it has a value that is not empty. -/
theorem readLiteral_eq_ok_iff {l : Lexeme} {element : Element} : readLiteral l = .ok element ↔
    ∃ value, Text.unquote l.text.toList = .ok value ∧ value ≠ [] ∧
      element = ⟨String.ofList value, true, l.span⟩ := by
  unfold readLiteral
  split
  · rename_i fault broken
    simp [broken]
  · rename_i empty
    simp [empty]
  · rename_i c cs value
    simp [value, eq_comm]

section Elements

variable {l finish : Lexeme} {rest : List Lexeme} {stop : Nat}

theorem readElements_name (named : l.kind = .identifier) :
    readElements (l :: rest) finish stop =
      (readElements rest finish l.stop).map (fun read =>
        (⟨l.text, false, l.span⟩ :: read.1, read.2)) := by
  simp only [readElements, named]
  cases readElements rest finish l.stop <;> rfl

theorem readElements_literal (quoted : l.kind = .doubleQuoted ∨ l.kind = .singleQuoted) :
    readElements (l :: rest) finish stop = readLiteral l >>= fun element =>
      (readElements rest finish l.stop).map (fun read => (element :: read.1, read.2)) := by
  rcases quoted with double | single
  · simp only [readElements, double]
    cases readLiteral l with
    | error fault => rfl
    | ok element => cases readElements rest finish l.stop <;> rfl
  · simp only [readElements, single]
    cases readLiteral l with
    | error fault => rfl
    | ok element => cases readElements rest finish l.stop <;> rfl

/-- What the elements are read to is spelled by the lexemes passed. -/
theorem readElements_spelled {lexemes : List Lexeme} {elements : List Element}
    (reads : readElements lexemes finish stop = .ok (elements, after)) :
    ∃ front, Cursor.Passed ⟨lexemes, finish, stop⟩ front after ∧
      Element.AllSpelled front elements := by
  induction lexemes generalizing stop elements after with
  | nil =>
    obtain ⟨rfl, rfl⟩ := Prod.mk.inj (Except.ok.inj reads)
    exact ⟨[], ⟨rfl, rfl⟩, .nil⟩
  | cons l rest inductionHypothesis =>
    -- Names and literals are read one by one; at any other lexeme the elements end.
    have further : ∀ {later : List Element} {last : Cursor} {element : Element},
        element.Spelled l → readElements rest finish l.stop = .ok (later, last) →
        ∃ front, Cursor.Passed ⟨l :: rest, finish, stop⟩ front last ∧
          Element.AllSpelled front (element :: later) := by
      intro later last element spelled behind
      obtain ⟨front, passed, all⟩ := inductionHypothesis behind
      have whole : l :: rest = l :: (front ++ last.rest) := congrArg (l :: ·) passed.rest_eq
      exact ⟨l :: front, ⟨whole, passed.finish_eq⟩, .cons spelled all⟩
    by_cases named : l.kind = .identifier
    · rw [readElements_name named, map_eq_ok] at reads
      obtain ⟨⟨later, last⟩, behind, same⟩ := reads
      obtain ⟨rfl, rfl⟩ := Prod.mk.inj same
      exact further (.name named) behind
    by_cases quoted : l.kind = .doubleQuoted ∨ l.kind = .singleQuoted
    · rw [readElements_literal quoted, bind_eq_ok] at reads
      obtain ⟨element, literal, reads⟩ := reads
      obtain ⟨⟨later, last⟩, behind, same⟩ := map_eq_ok.mp reads
      obtain ⟨rfl, rfl⟩ := Prod.mk.inj same
      obtain ⟨value, unquoted, filled, rfl⟩ := readLiteral_eq_ok_iff.mp literal
      exact further (.literal quoted unquoted filled) behind
    · unfold readElements at reads
      split at reads
      · rename_i identifier
        exact absurd identifier named
      · rename_i double
        exact absurd (Or.inl double) quoted
      · rename_i single
        exact absurd (Or.inr single) quoted
      · simp at reads
      · obtain ⟨rfl, rfl⟩ := Prod.mk.inj (Except.ok.inj reads)
        exact ⟨[], ⟨rfl, rfl⟩, .nil⟩

end Elements

/-- What an alternative is read to is spelled by the lexemes passed, in front of the
one that is then ahead. -/
theorem readAlternative_spelled {alternative : Alternative} (ends : c.Ends)
    (reads : readAlternative c = .ok (alternative, after)) :
    ∃ front, c.Passed front after ∧ alternative.Spelled after.ahead front := by
  unfold readAlternative at reads
  split at reads
  · rename_i opens
    simp only [bind_eq_ok] at reads
    obtain ⟨⟨keyword, c₁⟩, worded, reads⟩ := reads
    have sign := Cursor.passed_skip ends (by simp [opens])
    obtain ⟨word, second⟩ := Cursor.eat_passed (sign.ends ends) (by simp) worded
    dsimp only at reads
    split at reads
    · rename_i empty
      obtain ⟨rfl, rfl⟩ := Prod.mk.inj (Except.ok.inj reads)
      exact ⟨_, sign.trans second, .empty opens ⟨word, empty⟩⟩
    · simp [throw, throwThe, MonadExceptOf.throw] at reads
  · simp only [bind_eq_ok] at reads
    obtain ⟨⟨elements, c₁⟩, read, reads⟩ := reads
    obtain ⟨rfl, rfl⟩ := Prod.mk.inj (Except.ok.inj reads)
    obtain ⟨front, passed, all⟩ := readElements_spelled read
    have whole : c.Passed front c₁ := ⟨passed.rest_eq, passed.finish_eq⟩
    refine ⟨front, whole, ?_⟩
    rw [whole.ahead_eq]
    exact .elements all

/-- What the alternatives are read to is spelled by the lexemes passed, in front of the
one that is then ahead. -/
theorem readAlternatives_spelled {fuel : Nat} {alternatives : List Alternative} (ends : c.Ends)
    (reads : readAlternatives fuel c = .ok (alternatives, after)) :
    ∃ front, c.Passed front after ∧ Alternative.AllSpelled after.ahead front alternatives := by
  induction fuel generalizing c alternatives with
  | zero =>
    unfold readAlternatives at reads
    split at reads
    · simp at reads
    · rename_i alternative c₁ one
      obtain ⟨rfl, rfl⟩ := Prod.mk.inj (Except.ok.inj reads)
      obtain ⟨front, passed, spelled⟩ := readAlternative_spelled ends one
      exact ⟨front, passed, .single spelled⟩
  | succ fuel inductionHypothesis =>
    unfold readAlternatives at reads
    split at reads
    · simp at reads
    · rename_i alternative c₁ one
      obtain ⟨front, passed, spelled⟩ := readAlternative_spelled ends one
      dsimp only at reads
      split at reads
      · rename_i parts
        split at reads
        · simp at reads
        · rename_i others last behind
          obtain ⟨rfl, rfl⟩ := Prod.mk.inj (Except.ok.inj reads)
          have bar := Cursor.passed_skip (passed.ends ends) (by simp [parts])
          obtain ⟨back, later, all⟩ := inductionHypothesis (bar.ends (passed.ends ends)) behind
          exact ⟨_, passed.trans (bar.trans later), .cons spelled parts all⟩
      · obtain ⟨rfl, rfl⟩ := Prod.mk.inj (Except.ok.inj reads)
        exact ⟨front, passed, .single spelled⟩

/-- What a rule is read to is spelled by the lexemes passed. -/
theorem readRule_spelled {rule : Rule} (ends : c.Ends) (reads : readRule c = .ok (rule, after)) :
    ∃ front, c.Passed front after ∧ rule.Spelled front := by
  simp only [readRule, bind_eq_ok] at reads
  obtain ⟨⟨name, c₁⟩, named, ⟨colon, c₂⟩, opened, ⟨alternatives, c₃⟩, all, c₄, closed, reads⟩ := reads
  obtain ⟨rfl, rfl⟩ := Prod.mk.inj (Except.ok.inj reads)
  obtain ⟨nameKind, first⟩ := Cursor.eat_passed ends (by simp) named
  obtain ⟨colonKind, second⟩ := Cursor.eat_passed (first.ends ends) (by simp) opened
  have head := first.trans second
  obtain ⟨body, third, spelled⟩ := readAlternatives_spelled (head.ends ends) all
  obtain ⟨closeKind, fourth⟩ := Cursor.close_passed (third.ends (head.ends ends)) closed
  refine ⟨_, head.trans (third.trans fourth), ?_⟩
  exact .rule nameKind colonKind spelled closeKind

/-- What the rules are read to is spelled by all lexemes that are left. -/
theorem readRules_spelled {fuel : Nat} {rules : List Rule} (ends : c.Ends)
    (plain : ∀ l ∈ c.rest, l.kind ≠ .finish) (enough : c.rest.length < fuel)
    (reads : readRules fuel c = .ok rules) : Rule.AllSpelled c.rest rules := by
  induction fuel generalizing c rules with
  | zero => omega
  | succ fuel inductionHypothesis =>
    unfold readRules at reads
    split at reads
    · rename_i ended
      obtain rfl := Except.ok.inj reads
      cases rest : c.rest with
      | nil => exact .nil
      | cons l others =>
        have here : c.ahead = l := by simp [Cursor.ahead, rest]
        exact absurd (here ▸ ended) (plain l (by simp [rest]))
    · split at reads
      · simp at reads
      · rename_i rule c₁ one
        obtain ⟨others, behind, rfl⟩ := map_eq_ok.mp reads
        obtain ⟨front, passed, spelled⟩ := readRule_spelled ends one
        have shorter : c₁.rest.length < c.rest.length := by
          have counted := passed.length_eq
          have filled := spelled.length_pos
          omega
        have plainAfter : ∀ l ∈ c₁.rest, l.kind ≠ .finish := by
          intro l member
          exact plain l (by simp [passed.rest_eq, member])
        rw [passed.rest_eq]
        exact .cons spelled
          (inductionHypothesis (passed.ends ends) plainAfter (by omega) behind)

end Document

/-- The lexeme ends an alternative: a bar or a semicolon. -/
def Lexeme.Delimits (l : Lexeme) : Prop := l.kind = .bar ∨ l.kind = .semicolon

section Complete

open Cursor

variable {front rest : List Lexeme} {next finish : Lexeme} {fuel : Nat}

theorem ahead_append (back : List Lexeme) (finish : Lexeme) (stop : Nat) :
    ahead ⟨front ++ next :: back, finish, stop⟩ = front.headD next := by
  cases front <;> rfl

/-- A directive is read as it is spelled, once its percent sign has been read. -/
theorem Directive.Spelled.reads {sign : Lexeme} {directive : Directive}
    (spelled : Directive.Spelled (sign :: front) directive) (d : Document) (rest : List Lexeme)
    (finish : Lexeme) (stop : Nat) :
    ∃ last, d.readDirective ⟨front ++ rest, finish, stop⟩ =
      .ok (d.declareAll [directive], ⟨rest, finish, last⟩) := by
  generalize whole : sign :: front = lexemes at spelled
  cases spelled with
  | @token _ keyword name regex close opens worded named matched closes =>
    obtain ⟨rfl, rfl⟩ := List.cons.inj whole
    refine ⟨close.stop, ?_⟩
    simp [Document.readDirective, ahead, skip, worded.1, worded.2, eat_of_kind named,
      eat_of_kind matched, close_of_kind closes, Document.declareAll, Directive.token?,
      Directive.ignore?, Directive.start?, bind, Except.bind, pure, Except.pure]
  | @ignore _ keyword regex close opens worded matched closes =>
    obtain ⟨rfl, rfl⟩ := List.cons.inj whole
    refine ⟨close.stop, ?_⟩
    simp [Document.readDirective, ahead, skip, worded.1, worded.2, eat_of_kind matched,
      close_of_kind closes, Document.declareAll, Directive.token?, Directive.ignore?,
      Directive.start?, bind, Except.bind, pure, Except.pure]
  | @start _ keyword name close opens worded named closes =>
    obtain ⟨rfl, rfl⟩ := List.cons.inj whole
    refine ⟨close.stop, ?_⟩
    simp [Document.readDirective, ahead, skip, worded.1, worded.2, eat_of_kind named,
      close_of_kind closes, Document.declareAll, Directive.token?, Directive.ignore?,
      Directive.start?, bind, Except.bind, pure, Except.pure]

/-- A directive begins with a percent sign. -/
theorem Directive.Spelled.exists_sign {directive : Directive}
    (spelled : Directive.Spelled front directive) :
    ∃ sign tail, front = sign :: tail ∧ sign.kind = .percent := by
  cases spelled with
  | token opens _ _ _ _ => exact ⟨_, _, rfl, opens⟩
  | ignore opens _ _ _ => exact ⟨_, _, rfl, opens⟩
  | start opens _ _ _ => exact ⟨_, _, rfl, opens⟩

/-- Directives are read as they are spelled, in front of anything but a percent
sign. -/
theorem Directive.AllSpelled.reads {directives : List Directive}
    (spelled : Directive.AllSpelled front directives)
    (ends : ∀ stop, (ahead ⟨rest, finish, stop⟩).kind ≠ .percent)
    (enough : front.length < fuel) (d : Document) (stop : Nat) :
    ∃ last, Document.readDirectives fuel d ⟨front ++ rest, finish, stop⟩ =
      .ok (d.declareAll directives, ⟨rest, finish, last⟩) := by
  induction spelled generalizing fuel d stop with
  | nil =>
    refine ⟨stop, ?_⟩
    cases fuel with
    | zero => simp at enough
    | succ fuel =>
      rw [List.nil_append, Document.readDirectives, if_neg (ends stop), Document.declareAll_nil]
  | @cons front later directive others first _ inductionHypothesis =>
    cases fuel with
    | zero => simp at enough
    | succ fuel =>
      obtain ⟨sign, tail, rfl, opens⟩ := first.exists_sign
      rw [List.length_append, List.length_cons] at enough
      have fewer : later.length < fuel := by omega
      obtain ⟨middle, read⟩ := first.reads d (later ++ rest) finish sign.stop
      obtain ⟨last, behind⟩ :=
        inductionHypothesis fewer (d.declareAll [directive]) middle
      refine ⟨last, ?_⟩
      have together := Document.declareAll_append d [directive] others
      simp only [List.cons_append, List.nil_append] at together
      simp [Document.readDirectives, ahead, opens, skip, read, behind, together]

/-- Elements in front of a delimiter are read as they are spelled. -/
theorem Element.AllSpelled.reads {elements : List Element}
    (spelled : Element.AllSpelled front elements) (delimits : next.Delimits)
    (back : List Lexeme) (finish : Lexeme) (stop : Nat) :
    ∃ last, Document.readElements (front ++ next :: back) finish stop =
      .ok (elements, ⟨next :: back, finish, last⟩) := by
  induction spelled generalizing stop with
  | nil =>
    refine ⟨stop, ?_⟩
    rcases delimits with bar | semicolon
    · simp [Document.readElements, bar]
    · simp [Document.readElements, semicolon]
  | @cons l rest element others first _ inductionHypothesis =>
    obtain ⟨last, behind⟩ := inductionHypothesis l.stop
    refine ⟨last, ?_⟩
    rw [List.cons_append]
    cases first with
    | name named =>
      rw [Document.readElements_name named, behind]
      rfl
    | literal quoted reads filled =>
      have literal := Document.readLiteral_eq_ok_iff.mpr ⟨_, reads, filled, rfl⟩
      rw [Document.readElements_literal quoted, literal]
      simp only [bind, Except.bind, behind]
      rfl

/-- Elements do not begin with a percent sign, and neither does the delimiter behind
them. -/
theorem Element.AllSpelled.headD_ne_percent {elements : List Element}
    (spelled : Element.AllSpelled front elements) (delimits : next.Delimits) :
    (front.headD next).kind ≠ .percent := by
  cases spelled with
  | nil => rcases delimits with bar | semicolon <;> simp [*]
  | cons first _ =>
    cases first with
    | name named => simp [named]
    | literal quoted _ _ => rcases quoted with double | single <;> simp [*]

/-- An alternative in front of a delimiter is read as it is spelled. -/
theorem Alternative.Spelled.reads {alternative : Alternative}
    (spelled : alternative.Spelled next front) (delimits : next.Delimits)
    (back : List Lexeme) (finish : Lexeme) (stop : Nat) :
    ∃ last, Document.readAlternative ⟨front ++ next :: back, finish, stop⟩ =
      .ok (alternative, ⟨next :: back, finish, last⟩) := by
  cases spelled with
  | @empty sign keyword opens worded =>
    refine ⟨keyword.stop, ?_⟩
    simp [Document.readAlternative, ahead, skip, opens, eat_of_kind worded.1, worded.2, bind,
      Except.bind, pure, Except.pure]
  | elements all =>
    obtain ⟨last, read⟩ := all.reads delimits back finish stop
    refine ⟨last, ?_⟩
    unfold Document.readAlternative
    rw [ahead_append, if_neg (all.headD_ne_percent delimits), read]
    rfl

/-- Alternatives in front of a semicolon are read as they are spelled, with fuel for
their bars. -/
theorem Alternative.AllSpelled.reads {alternatives : List Alternative}
    (spelled : Alternative.AllSpelled next front alternatives) (closes : next.kind = .semicolon)
    (enough : front.length ≤ fuel) (back : List Lexeme) (finish : Lexeme) (stop : Nat) :
    ∃ last, Document.readAlternatives fuel ⟨front ++ next :: back, finish, stop⟩ =
      .ok (alternatives, ⟨next :: back, finish, last⟩) := by
  induction spelled generalizing fuel stop with
  | single only =>
    obtain ⟨last, read⟩ := only.reads (Or.inr closes) back finish stop
    refine ⟨last, ?_⟩
    cases fuel with
    | zero => simp [Document.readAlternatives, read]
    | succ fuel => simp [Document.readAlternatives, read, ahead, closes]
  | @cons front rest bar alternative others first parts _ inductionHypothesis =>
    cases fuel with
    | zero => simp at enough
    | succ fuel =>
      rw [List.length_append, List.length_cons] at enough
      obtain ⟨middle, read⟩ := first.reads (Or.inl parts) (rest ++ next :: back) finish stop
      have fewer : rest.length ≤ fuel := by omega
      obtain ⟨last, behind⟩ := inductionHypothesis fewer bar.stop
      refine ⟨last, ?_⟩
      simp [Document.readAlternatives, read, ahead, parts, skip, behind]

/-- A rule is read as it is spelled, whatever stands behind it. -/
theorem Rule.Spelled.reads {rule : Rule} (spelled : rule.Spelled front) (rest : List Lexeme)
    (finish : Lexeme) (stop : Nat) :
    ∃ last, Document.readRule ⟨front ++ rest, finish, stop⟩ =
      .ok (rule, ⟨rest, finish, last⟩) := by
  cases spelled with
  | @rule name colon close body alternatives named opens all closes =>
    have enough : body.length ≤ (body ++ close :: rest).length := by simp
    obtain ⟨last, read⟩ := all.reads closes enough rest finish colon.stop
    refine ⟨close.stop, ?_⟩
    have flat : name :: colon :: body ++ [close] ++ rest = name :: colon :: (body ++ close :: rest) := by
      simp
    simp only [Document.readRule, flat, eat_of_kind named, eat_of_kind opens, read,
      close_of_kind closes, bind, Except.bind, pure, Except.pure]

theorem Rule.Spelled.exists_name {rule : Rule} (spelled : rule.Spelled front) :
    ∃ name tail, front = name :: tail ∧ name.kind = .identifier := by
  cases spelled with
  | rule named _ _ _ => exact ⟨_, _, rfl, named⟩

/-- Rules are read as they are spelled. -/
theorem Rule.AllSpelled.reads {rules : List Rule} (spelled : Rule.AllSpelled front rules)
    (ends : finish.kind = .finish) (enough : front.length < fuel) (stop : Nat) :
    Document.readRules fuel ⟨front, finish, stop⟩ = .ok rules := by
  induction spelled generalizing fuel stop with
  | nil =>
    cases fuel with
    | zero => simp at enough
    | succ fuel => simp [Document.readRules, ahead, ends]
  | @cons front rest rule others first _ inductionHypothesis =>
    cases fuel with
    | zero => simp at enough
    | succ fuel =>
      have filled := first.length_pos
      rw [List.length_append] at enough
      have fewer : rest.length < fuel := by omega
      obtain ⟨last, read⟩ := first.reads rest finish stop
      have behind := inductionHypothesis fewer last
      have more : (ahead ⟨front ++ rest, finish, stop⟩).kind ≠ .finish := by
        obtain ⟨name, tail, rfl, named⟩ := first.exists_name
        simp [ahead, named]
      simp [Document.readRules, more, read, behind, Except.map]

/-- Rules do not begin with a percent sign, and neither does the end. -/
theorem Rule.AllSpelled.ahead_ne_percent {rules : List Rule} (spelled : Rule.AllSpelled front rules)
    (ends : finish.kind = .finish) (stop : Nat) :
    (ahead ⟨front, finish, stop⟩).kind ≠ .percent := by
  cases spelled with
  | nil => simp [ahead, ends]
  | cons first _ =>
    obtain ⟨name, tail, rfl, named⟩ := first.exists_name
    simp [ahead, named]

end Complete

namespace Document

/-- Lexemes are read to the one document that they spell. -/
theorem ofLexemes_eq_ok_iff {lexemes : Lexemes} {d : Document}
    (ends : lexemes.finish.kind = .finish) (plain : ∀ l ∈ lexemes.list, l.kind ≠ .finish) :
    ofLexemes lexemes = .ok d ↔ Spelled lexemes.list d := by
  simp only [ofLexemes, bind_eq_ok]
  constructor
  · rintro ⟨⟨declared, c⟩, directivesRead, rules, rulesRead, built⟩
    obtain rfl := Except.ok.inj built
    have startEnds : Cursor.Ends ⟨lexemes.list, lexemes.finish, 0⟩ := ends
    obtain ⟨front, directives, passed, declares, rfl⟩ :=
      readDirectives_spelled startEnds (Nat.lt_succ_self _) directivesRead
    have whole : lexemes.list = front ++ c.rest := passed.rest_eq
    have plainRest : ∀ l ∈ c.rest, l.kind ≠ .finish := by
      intro l member
      exact plain l (by simp [whole, member])
    have enough : c.rest.length < lexemes.list.length + 1 := by
      rw [whole, List.length_append]
      omega
    have defines := readRules_spelled (passed.ends startEnds) plainRest enough rulesRead
    rw [whole]
    simpa [declareAll] using Spelled.document declares defines
  · generalize whole : lexemes.list = list
    rintro ⟨declares, defines⟩
    rename_i front rest directives rules
    have counted : (front ++ rest).length = front.length + rest.length := List.length_append
    have enough : front.length < (front ++ rest).length + 1 := by omega
    have enoughRules : rest.length < (front ++ rest).length + 1 := by omega
    obtain ⟨last, directivesRead⟩ :=
      declares.reads (defines.ahead_ne_percent ends) enough {} 0
    have rulesRead := defines.reads ends enoughRules last
    refine ⟨_, directivesRead, rules, rulesRead, ?_⟩
    simp [declareAll, pure, Except.pure]

/-- A text is read to a document when it can be cut into lexemes that spell this
document, and only then. -/
theorem ofText_eq_ok_iff {text : List Char} {d : Document} :
    ofText text = .ok d ↔ ∃ lexemes, scan text = .ok lexemes ∧ Spelled lexemes.list d := by
  unfold ofText
  cases cut : scan text with
  | error stray => simp
  | ok lexemes =>
    obtain ⟨ends, plain⟩ := scanFrom_ends cut
    simp [ofLexemes_eq_ok_iff ends plain]

end Document

end Predictive.RuleFile
