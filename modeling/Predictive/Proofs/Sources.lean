import Predictive.Token.Source

/-!
# What a source gives

To a parser a source is known by its answers. `Feeds` says which tokens a source gives when
each is taken and the next one looked at, as a parser does it, and `Yields` which ones it
hands out when they are only taken; behind the tokens it ends or faults.

An item stream gives the tokens that its items stand for, up to the first item that stands
for none. `Fresh` and `Shown` describe a stream by these tokens, in front of a look and
behind it, and each operation leads from one such stream to the next.
-/

namespace Predictive

open Text (Value)

section Source

variable {σ ε : Type} [TokenSource σ ε]

/-- The source lets every report pass. -/
def Hears (source : σ) : Prop :=
  ∀ found expected, ∃ after, TokenSource.report source found expected = (.ok (), after)

/-- A source that was looked at gives these tokens, and then it ends or faults. -/
inductive Feeds : σ → List Token → Option ε → Prop where
  | finished {source : σ} (hears : Hears source) : Feeds source [] none
  | token {source taken after : σ} {t : Token} {got : Option Token} {others : List Token}
      {fault : Option ε} (hears : Hears source)
      (takes : TokenSource.next source = (.ok got, taken))
      (shows : TokenSource.peek taken = (.ok others.head?, after))
      (behind : Feeds after others fault) : Feeds source (t :: others) fault
  | broken {source taken after : σ} {t : Token} {got : Option Token} {f : ε}
      (hears : Hears source) (takes : TokenSource.next source = (.ok got, taken))
      (shows : TokenSource.peek taken = (.error f, after)) : Feeds source [t] (some f)

theorem Feeds.hears {source : σ} {tokens : List Token} {fault : Option ε}
    (feeds : Feeds source tokens fault) : Hears source := by
  cases feeds <;> assumption

/-- The first look at a source shows the first of these tokens, and the source
knows a bound on their number. -/
structure Opens (source : σ) (tokens : List Token) (fault : Option ε) (after : σ) : Prop where
  shows : TokenSource.peek source = (.ok tokens.head?, after)
  feeds : Feeds after tokens fault
  counted : tokens.length ≤ TokenSource.remaining source

/-- A source hands out tokens one after another, and then it ends or faults. -/
inductive Yields : σ → List Token → Option ε → Prop where
  | ended {source after : σ} (takes : TokenSource.next source = (.ok none, after)) :
      Yields source [] none
  | faulted {source after : σ} {f : ε} (takes : TokenSource.next source = (.error f, after)) :
      Yields source [] (some f)
  | token {source after : σ} {t : Token} {others : List Token} {fault : Option ε}
      (takes : TokenSource.next source = (.ok (some t), after))
      (behind : Yields after others fault) : Yields source (t :: others) fault

end Source

/-- The tokens that items stand for, up to the first item that stands for none; of that
item the value, with the items behind it. -/
def Item.listed : List Item → List Token × Option (Value × List Item)
  | [] => ([], none)
  | item :: others =>
    match item.toToken? with
    | .ok t => (t :: (listed others).1, (listed others).2)
    | .error value => ([], some (value, others))

namespace Item

variable {front items : List Item} {tokens : List Token}

theorem listed_of_stand (stands : items.map toToken? = tokens.map .ok) :
    listed items = (tokens, none) := by
  induction items generalizing tokens with
  | nil =>
    obtain rfl : tokens = [] := by simpa using stands.symm
    rfl
  | cons item others inductionHypothesis =>
    obtain ⟨t, rest, rfl, first, behind⟩ := List.map_eq_cons_iff.mp stands.symm
    rw [listed, ← first, inductionHypothesis behind.symm]

theorem listed_of_stray {item : Item} {value : Value} (stands : front.map toToken? = tokens.map .ok)
    (stray : item.toToken? = .error value) (behind : List Item) :
    listed (front ++ item :: behind) = (tokens, some (value, behind)) := by
  induction front generalizing tokens with
  | nil =>
    obtain rfl : tokens = [] := by simpa using stands.symm
    rw [List.nil_append, listed, stray]
  | cons first others inductionHypothesis =>
    obtain ⟨t, rest, rfl, same, later⟩ := List.map_eq_cons_iff.mp stands.symm
    rw [List.cons_append, listed, ← same, inductionHypothesis later.symm]

/-- There are no more tokens than items. -/
theorem length_listed_le (items : List Item) : (listed items).1.length ≤ items.length := by
  induction items with
  | nil => exact Nat.le_refl 0
  | cons item others inductionHypothesis =>
    simp only [listed]
    split
    · exact Nat.succ_le_succ inductionHypothesis
    · exact Nat.zero_le _

end Item

namespace ItemStream

variable {s : ItemStream} {t : Token} {tokens left : List Token}
  {refused : Option (Value × List Item)} {heard : List Report}

theorem hears_of_record {s : ItemStream} (records : s.policy = .record) : Hears s := by
  intro found expected
  simp [TokenSource.report, report, records]

/-- The fault of a stream at an item that stands for no token. -/
def faultOf (refused : Option (Value × List Item)) : Option StreamFault :=
  refused.map (fun stray => .notAToken stray.1)

/-- A stream that keeps no look, with what its items stand for and what it has heard. -/
structure Fresh (s : ItemStream) (tokens : List Token) (refused : Option (Value × List Item))
    (heard : List Report) : Prop where
  ahead : s.ahead = none
  listed : Item.listed s.items = (tokens, refused)
  reports : s.reports = heard
  policy : s.policy = .record

/-- A stream that was looked at, with the token on show and those behind it. Where none is
on show, no item is left. -/
structure Shown (s : ItemStream) (left : List Token) (refused : Option (Value × List Item))
    (heard : List Report) : Prop where
  ahead : s.ahead = some left.head?
  listed : Item.listed s.items = (left.tail, refused)
  ended : left = [] → s.items = []
  reports : s.reports = heard
  policy : s.policy = .record

/-- A look shows the first token, or it meets the item that stands for none, and that item
has left the stream then. -/
theorem Fresh.peek_cases (fresh : s.Fresh tokens refused heard) :
    (∃ after, TokenSource.peek s = (.ok tokens.head?, after) ∧ after.Shown tokens refused heard) ∨
      ∃ value behind, tokens = [] ∧ refused = some (value, behind) ∧ TokenSource.peek s =
        (.error (.notAToken value), ({ items := behind, reports := heard } : ItemStream)) := by
  obtain ⟨items, _, reports, _⟩ := s
  obtain ⟨rfl, listed, rfl, rfl⟩ := fresh
  dsimp only at listed
  cases items with
  | nil =>
    obtain ⟨rfl, rfl⟩ := Prod.mk.inj listed
    exact Or.inl ⟨_, rfl, rfl, rfl, fun _ => rfl, rfl, rfl⟩
  | cons item others =>
    simp only [Item.listed] at listed
    cases stands : item.toToken? with
    | ok t =>
      rw [stands] at listed
      obtain ⟨rfl, rfl⟩ := Prod.mk.inj listed
      refine Or.inl ⟨{ items := others, ahead := some (some t), reports := reports }, ?_, rfl, rfl,
        ?_, rfl, rfl⟩
      · simp [TokenSource.peek, peek, stands]
      · simp
    | error value =>
      rw [stands] at listed
      obtain ⟨rfl, rfl⟩ := Prod.mk.inj listed
      refine Or.inr ⟨value, others, rfl, rfl, ?_⟩
      simp [TokenSource.peek, peek, stands]

/-- The token on show is taken, and the stream keeps no look then. -/
theorem Shown.next_eq (shown : s.Shown (t :: left) refused heard) :
    ∃ taken, TokenSource.next s = (.ok (some t), taken) ∧ taken.Fresh left refused heard := by
  refine ⟨{ s with ahead := none }, ?_, rfl, shown.listed, shown.reports, shown.policy⟩
  simp [TokenSource.next, next, peek, shown.ahead]

/-- Where nothing is on show, no item was refused. -/
theorem Shown.not_refused (shown : s.Shown [] refused heard) : refused = none := by
  have listed := shown.listed
  rw [shown.ended rfl] at listed
  exact (Prod.mk.inj listed).2.symm

/-- A report is heard, and the stream shows what it has shown. -/
theorem Shown.report_eq (shown : s.Shown left refused heard) (found : Option Token)
    (expected : List Symbol) : ∃ after, TokenSource.report s found expected = (.ok (), after) ∧
      after.Shown left refused (heard ++ [⟨found, nameSet expected⟩]) := by
  refine ⟨{ s with reports := heard ++ [⟨found, nameSet expected⟩] }, ?_, shown.ahead,
    shown.listed, shown.ended, rfl, shown.policy⟩
  simp [TokenSource.report, report, shown.policy, shown.reports]

/-- A stream that was looked at gives the token on show and those behind it. -/
theorem Shown.feeds (shown : s.Shown left refused heard) : Feeds s left (faultOf refused) := by
  induction left generalizing s with
  | nil =>
    rw [shown.not_refused]
    exact .finished (hears_of_record shown.policy)
  | cons t others inductionHypothesis =>
    obtain ⟨taken, takes, fresh⟩ := shown.next_eq
    rcases fresh.peek_cases with ⟨after, shows, shownAfter⟩ | ⟨value, behind, rfl, rfl, faults⟩
    · exact .token (hears_of_record shown.policy) takes shows (inductionHypothesis shownAfter)
    · exact .broken (hears_of_record shown.policy) takes faults

/-- A stream that shows its first token has been opened by the look. -/
theorem Fresh.opens (fresh : s.Fresh tokens refused heard) {after : ItemStream}
    (shows : TokenSource.peek s = (.ok tokens.head?, after))
    (shown : after.Shown tokens refused heard) : Opens s tokens (faultOf refused) after where
  shows := shows
  feeds := shown.feeds
  counted := by
    have bound := Item.length_listed_le s.items
    rw [fresh.listed] at bound
    simpa [TokenSource.remaining, remaining, fresh.ahead] using bound

/-- A look at items that stand for tokens always shows the first one. -/
theorem opens {items : List Item} (stands : items.map Item.toToken? = tokens.map .ok) :
    ∃ after, Opens ({ items := items } : ItemStream) tokens none after := by
  have fresh : ({ items := items } : ItemStream).Fresh tokens none [] :=
    ⟨rfl, Item.listed_of_stand stands, rfl, rfl⟩
  rcases fresh.peek_cases with ⟨after, shows, shown⟩ | ⟨_, _, _, impossible, _⟩
  · exact ⟨after, fresh.opens shows shown⟩
  · cases impossible

/-- A request is answered by what a look shows. -/
theorem next_of_peek {look : Option Token} {after : ItemStream}
    (shows : TokenSource.peek s = (.ok look, after)) :
    TokenSource.next s = (.ok look, { after with ahead := none }) := by
  simp only [TokenSource.peek] at shows
  simp only [TokenSource.next, next, shows]

/-- A stream that keeps no look hands out the tokens that its items stand for. -/
theorem Fresh.yields (fresh : s.Fresh tokens refused heard) :
    Yields s tokens (faultOf refused) := by
  induction tokens generalizing s with
  | nil =>
    rcases fresh.peek_cases with ⟨after, shows, shown⟩ | ⟨value, behind, _, rfl, faults⟩
    · rw [shown.not_refused]
      exact .ended (next_of_peek shows)
    · simp only [TokenSource.peek] at faults
      have takes : TokenSource.next s =
          (.error (.notAToken value), ({ items := behind, reports := heard } : ItemStream)) := by
        simp only [TokenSource.next, next, faults]
      exact .faulted takes
  | cons t others inductionHypothesis =>
    rcases fresh.peek_cases with ⟨after, shows, shown⟩ | ⟨_, _, impossible, _⟩
    · exact .token (next_of_peek shows)
        (inductionHypothesis ⟨rfl, shown.listed, shown.reports, shown.policy⟩)
    · cases impossible

/-- So does one that was looked at, beginning with the token on show. -/
theorem Shown.yields (shown : s.Shown left refused heard) : Yields s left (faultOf refused) := by
  cases left with
  | nil =>
    rw [shown.not_refused]
    have shows : TokenSource.peek s = (.ok none, s) := by
      simp [TokenSource.peek, peek, shown.ahead]
    exact .ended (next_of_peek shows)
  | cons t others =>
    obtain ⟨taken, takes, fresh⟩ := shown.next_eq
    exact .token takes fresh.yields

end ItemStream

end Predictive
