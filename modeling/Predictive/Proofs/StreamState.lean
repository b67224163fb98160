import Predictive.Proofs.LexingFirst
import Predictive.Proofs.Rearrangement

/-!
# The stream that a run leaves behind

A run goes from one stream to the next: an iteration of the loop takes the token on show,
or it leaves the stream alone until the run ends.

`Consumes` follows a run iteration by iteration and lists the tokens that it takes, each of
the kind on top of the stack. `Leaves` says what the stream holds in the end: nothing once
the run has accepted; the offending token, those behind it and one report once it has
rejected; and the items behind the one that stands for no token once it has faulted.
-/

namespace Predictive

open Text (Value)

/-- A set of names that is listed again stays as it is. -/
theorem nameSet_nameSet (names : List Symbol) : nameSet (nameSet names) = nameSet names :=
  nameSet_ext (fun _ => mem_nameSet)

namespace Parser

section Consuming

variable {σ ε : Type} [TokenSource σ ε]

/-- The loop takes the token on show, whose kind is the terminal on top of the stack. -/
structure TakesTop (p : Parser) (r : Run σ) (t : Token) (taken : σ) : Prop where
  top : ∃ below, r.stack = t.kind :: below
  terminal : t.kind ∈ p.grammar.terminals
  shown : r.look = some t
  takes : TokenSource.next r.source = (.ok (some t), taken)

/-- The tokens that a run takes from its source, one after another, up to its outcome. An
iteration leaves the source alone, or it takes the token on show and looks at what is
behind it; the last one may report instead. -/
inductive Consumes (p : Parser) : Run σ → List Token → Outcome σ ε → Prop where
  | expand {r after : Run σ} {tokens : List Token} {outcome : Outcome σ ε}
      (goes : p.tick r = .inl after) (same : after.source = r.source)
      (later : Consumes p after tokens outcome) : Consumes p r tokens outcome
  | take {r after : Run σ} {t : Token} {taken : σ} {tokens : List Token} {outcome : Outcome σ ε}
      (goes : p.tick r = .inl after) (top : p.TakesTop r t taken)
      (shows : TokenSource.peek taken = (.ok after.look, after.source))
      (later : Consumes p after tokens outcome) : Consumes p r (t :: tokens) outcome
  | broken {r : Run σ} {t : Token} {taken : σ} {f : ε} {outcome : Outcome σ ε}
      (stops : p.tick r = .inr outcome) (top : p.TakesTop r t taken)
      (faults : TokenSource.peek taken = (.error f, outcome.source)) : Consumes p r [t] outcome
  | accept {r : Run σ} {outcome : Outcome σ ε} (stops : p.tick r = .inr outcome)
      (same : outcome.source = r.source) : Consumes p r [] outcome
  | reject {r : Run σ} {found : Option Token} {expected : List Symbol} {outcome : Outcome σ ε}
      (stops : p.tick r = .inr outcome)
      (reports : TokenSource.report r.source found expected = (.ok (), outcome.source)) :
      Consumes p r [] outcome

/-- The tokens that a run takes from a source which it looks at first. -/
inductive ConsumesFrom (p : Parser) (source : σ) : List Token → Outcome σ ε → Prop where
  | opened {look : Option Token} {after : σ} {tokens : List Token} {outcome : Outcome σ ε}
      (shows : TokenSource.peek source = (.ok look, after))
      (consumes : p.Consumes (p.opening look after) tokens outcome) :
      ConsumesFrom p source tokens outcome
  | broken {f : ε} {outcome : Outcome σ ε}
      (faults : TokenSource.peek source = (.error f, outcome.source)) :
      ConsumesFrom p source [] outcome

end Consuming

open ItemStream (faultOf)

variable {p : Parser} {r : Run ItemStream} {left : List Token}
  {refused : Option (Value × List Item)} {outcome : Outcome ItemStream StreamFault}

/-- What a run leaves in its stream: with the tokens that it has not taken, and the item
that stands for none. -/
inductive Leaves (left : List Token) (refused : Option (Value × List Item))
    (outcome : Outcome ItemStream StreamFault) : Prop where
  | accepted (ending : outcome.ending = .accepted) (all : left = []) (clean : refused = none)
      (exhausted : (TokenSource.peek outcome.source).1 = .ok none)
      (reports : outcome.source.reports = [])
  | rejected {error : ParseError} (ending : outcome.ending = .rejected error)
      (found : error.found = left.head?) (precedes : refused.isSome → error.found.isSome)
      (reports : outcome.source.reports = [⟨error.found, error.expected⟩])
      (yields : Yields outcome.source left (faultOf refused))
  | faulted {value : Value} {behind : List Item} (refuses : refused = some (value, behind))
      (ending : outcome.ending = .faulted (.notAToken value)) (all : left = [])
      (source : outcome.source = { items := behind })

/-- Taking the token on show leads to the next one, or to the item that stands for none. -/
theorem shift_shown {t : Token} {others : List Token}
    (shown : r.source.Shown (t :: others) refused []) (rest : List Symbol) :
    ∃ taken, TokenSource.next r.source = (.ok (some t), taken) ∧
      ((∃ after, TokenSource.peek taken = (.ok others.head?, after) ∧
        after.Shown others refused [] ∧
        shift (ε := StreamFault) r rest =
          .inl ⟨rest, others.head?, after, r.applied, r.consumed + 1⟩) ∨
      ∃ value behind, others = [] ∧ refused = some (value, behind) ∧
        TokenSource.peek taken = (.error (.notAToken value), ({ items := behind } : ItemStream)) ∧
        shift r rest = .inr ⟨.faulted (.notAToken value), r.applied, r.consumed + 1, rest,
          { items := behind }⟩) := by
  obtain ⟨taken, takes, fresh⟩ := shown.next_eq
  refine ⟨taken, takes, ?_⟩
  rcases fresh.peek_cases with ⟨after, shows, shownAfter⟩ | ⟨value, behind, rfl, rfl, faults⟩
  · exact Or.inl ⟨after, shows, shownAfter, by simp [shift, takes, shows]⟩
  · exact Or.inr ⟨value, behind, rfl, rfl, faults, by simp [shift, takes, faults, Run.finish]⟩

/-- Where the loop goes on, it has taken the token on show or none. -/
theorem goes_shown {after : Run ItemStream} (shown : r.source.Shown left refused [])
    (shows : r.look = left.head?) (goes : p.tick r = .inl after) :
    ∃ taken behind, left = taken ++ behind ∧ after.consumed = r.consumed + taken.length ∧
      after.source.Shown behind refused [] ∧ after.look = behind.head? ∧
      ∀ tokens (outcome : Outcome ItemStream StreamFault),
        p.Consumes after tokens outcome → p.Consumes r (taken ++ tokens) outcome := by
  have tick := p.tick_eq_move r
  rw [goes] at tick
  cases moves : p.move r.look r.stack with
  | expand q rest =>
    rw [moves] at tick
    obtain rfl := Sum.inl.inj tick
    exact ⟨[], left, rfl, rfl, shown, shows, fun _ _ later => .expand goes rfl later⟩
  | take rest =>
    rw [moves] at tick
    obtain ⟨t, look, top, terminal⟩ := top_of_take moves
    obtain ⟨others, rfl⟩ : ∃ others, left = t :: others :=
      List.head?_eq_some_iff.mp (shows.symm.trans look)
    obtain ⟨taken, takes, goesOn | stops⟩ := shift_shown shown rest
    · obtain ⟨source, showsNext, shownAfter, shifted⟩ := goesOn
      obtain rfl := Sum.inl.inj (tick.trans shifted)
      refine ⟨[t], others, rfl, rfl, shownAfter, rfl, fun _ _ later => ?_⟩
      exact .take goes ⟨⟨rest, top⟩, terminal, look, takes⟩ showsNext later
    · obtain ⟨_, _, _, _, _, shifted⟩ := stops
      cases tick.trans shifted
  | accept =>
    rw [moves] at tick
    cases tick
  | reject =>
    rw [moves] at tick
    obtain ⟨source, rejects⟩ := reject_of_hears (p := p) shown.feeds.hears
    cases tick.trans (congrArg Sum.inr rejects)

/-- Where the loop stops, it leaves the stream in order. -/
theorem stops_shown (shown : r.source.Shown left refused [])
    (shows : r.look = left.head?) (stops : p.tick r = .inr outcome) :
    ∃ taken behind, left = taken ++ behind ∧ outcome.consumed = r.consumed + taken.length ∧
      p.Consumes r taken outcome ∧ Leaves behind refused outcome := by
  have tick := p.tick_eq_move r
  rw [stops] at tick
  cases moves : p.move r.look r.stack with
  | expand q rest =>
    rw [moves] at tick
    cases tick
  | take rest =>
    rw [moves] at tick
    obtain ⟨t, look, top, terminal⟩ := top_of_take moves
    obtain ⟨others, rfl⟩ : ∃ others, left = t :: others :=
      List.head?_eq_some_iff.mp (shows.symm.trans look)
    obtain ⟨taken, takes, goesOn | faulted⟩ := shift_shown shown rest
    · obtain ⟨_, _, _, shifted⟩ := goesOn
      cases tick.trans shifted
    · obtain ⟨value, behind, rfl, rfl, faults, shifted⟩ := faulted
      obtain rfl := Sum.inr.inj (tick.trans shifted)
      refine ⟨[t], [], rfl, rfl, ?_, .faulted rfl rfl rfl rfl⟩
      exact .broken stops ⟨⟨rest, top⟩, terminal, look, takes⟩ faults
  | accept =>
    rw [moves] at tick
    obtain rfl := Sum.inr.inj tick
    obtain rfl : left = [] := List.head?_eq_none_iff.mp (shows.symm.trans (look_of_accept moves))
    have exhausted : (TokenSource.peek r.source).1 = .ok none := by
      simp [TokenSource.peek, ItemStream.peek, shown.ahead]
    refine ⟨[], [], rfl, rfl, .accept stops rfl, ?_⟩
    exact .accepted rfl rfl shown.not_refused exhausted shown.reports
  | reject =>
    rw [moves] at tick
    obtain ⟨source, hears, shownAfter⟩ :=
      shown.report_eq r.look (p.rejection r.look r.stack).expected
    rw [reject, hears] at tick
    obtain rfl := Sum.inr.inj tick
    have found : (p.rejection r.look r.stack).found = left.head? :=
      (rejection_found p r.look r.stack).trans shows
    refine ⟨[], left, rfl, rfl, .reject stops hears, .rejected rfl found ?_ ?_ shownAfter.yields⟩
    · -- A stream with an item that stands for no token shows the token in front of it.
      intro stray
      rw [found, List.isSome_head?]
      rintro rfl
      simp [shown.not_refused] at stray
    · rw [found, ← shows]
      apply shownAfter.reports.trans
      rw [ParseError.expected, nameSet_nameSet]
      rfl

/-- From a stream that shows the next token, the loop takes tokens in order and leaves the
stream in order. The induction is on the iterations. -/
theorem Ends.leaves {n : Nat} (ends : p.Ends n r outcome) (shown : r.source.Shown left refused [])
    (shows : r.look = left.head?) :
    ∃ taken behind, left = taken ++ behind ∧ outcome.consumed = r.consumed + taken.length ∧
      p.Consumes r taken outcome ∧ Leaves behind refused outcome := by
  induction ends generalizing left with
  | last stops => exact stops_shown shown shows stops
  | next goes _ inductionHypothesis =>
    obtain ⟨first, rest, rfl, counted, shownAfter, showsAfter, goesOn⟩ :=
      goes_shown shown shows goes
    obtain ⟨taken, behind, rfl, countedAfter, consumes, leaves⟩ :=
      inductionHypothesis shownAfter showsAfter
    refine ⟨first ++ taken, behind, (List.append_assoc ..).symm, ?_, goesOn _ _ consumes, leaves⟩
    rw [countedAfter, counted, List.length_append, Nat.add_assoc]

/-- A run on a fresh stream takes the first tokens of its items and leaves the others. -/
theorem runItems_leaves (p : Parser) {items : List Item} {tokens : List Token}
    (listed : Item.listed items = (tokens, refused)) :
    ∃ taken left, tokens = taken ++ left ∧ (p.runItems items).consumed = taken.length ∧
      p.ConsumesFrom ({ items := items } : ItemStream) taken (p.runItems items) ∧
      Leaves left refused (p.runItems items) := by
  have fresh : ({ items := items } : ItemStream).Fresh tokens refused [] :=
    ⟨rfl, listed, rfl, rfl⟩
  rcases fresh.peek_cases with ⟨after, shows, shown⟩ | ⟨value, behind, rfl, rfl, faults⟩
  · obtain ⟨⟨_, ends⟩, _⟩ := run_ends (p := p) (fresh.opens shows shown)
    obtain ⟨taken, left, rfl, consumed, consumes, leaves⟩ := ends.leaves shown rfl
    exact ⟨taken, left, rfl, consumed.trans (Nat.zero_add _), .opened shows consumes, leaves⟩
  · have stops : p.runItems items =
        ⟨.faulted (.notAToken value), [], 0, [p.grammar.start], { items := behind }⟩ := by
      simp only [runItems, run, faults]
    rw [stops]
    exact ⟨[], [], rfl, rfl, .broken faults, .faulted rfl rfl rfl rfl⟩

/-- Every run leaves its stream in order. Of items that stand for tokens it takes the first
ones, each once and under the terminal of its kind, and it leaves the others; of items
with one that stands for no token, it takes none behind that one. -/
theorem streams_are_left_in_order (p : Parser) :
    (∀ (items : List Item) (tokens : List Token), items.map Item.toToken? = tokens.map .ok →
      ∃ taken left, tokens = taken ++ left ∧ (p.runItems items).consumed = taken.length ∧
        p.ConsumesFrom ({ items := items } : ItemStream) taken (p.runItems items) ∧
        Leaves left none (p.runItems items)) ∧
    ∀ (front : List Item) (tokens : List Token) (item : Item) (value : Value)
      (behind : List Item), front.map Item.toToken? = tokens.map .ok →
      item.toToken? = .error value →
      ∃ taken left, tokens = taken ++ left ∧
        (p.runItems (front ++ item :: behind)).consumed = taken.length ∧
        p.ConsumesFrom ({ items := front ++ item :: behind } : ItemStream) taken
          (p.runItems (front ++ item :: behind)) ∧
        Leaves left (some (value, behind)) (p.runItems (front ++ item :: behind)) := by
  constructor
  · intro items tokens stands
    exact p.runItems_leaves (Item.listed_of_stand stands)
  · intro front tokens item value behind stands stray
    exact p.runItems_leaves (Item.listed_of_stray stands stray behind)

/-- `x x` is rejected at its second token, which stays in the stream. A number between `x`
and `+` is met once `x` has been taken, and `+` is left. -/
theorem sums_streams_are_left_in_order :
    (sumsParser.ConsumesFrom ({ items := ["x", "x"].map Item.name } : ItemStream)
        [nameToken "x"] (sumsParser.runItems (["x", "x"].map Item.name)) ∧
      Leaves [nameToken "x"] none (sumsParser.runItems (["x", "x"].map Item.name))) ∧
    sumsParser.ConsumesFrom ({ items := [.name "x", .stray (.number 5), .name "+"] } : ItemStream)
        [nameToken "x"] (sumsParser.runItems [.name "x", .stray (.number 5), .name "+"]) ∧
      Leaves [] (some (.number 5, [.name "+"]))
        (sumsParser.runItems [.name "x", .stray (.number 5), .name "+"]) := by
  obtain ⟨standing, straying⟩ := streams_are_left_in_order sumsParser
  constructor
  · obtain ⟨taken, left, split, counted, consumes, leaves⟩ :=
      standing _ _ (names_stand ["x", "x"])
    have parted : [nameToken "x"] ++ [nameToken "x"] = taken ++ left := split
    obtain ⟨rfl, rfl⟩ := List.append_inj parted counted
    exact ⟨consumes, leaves⟩
  · obtain ⟨taken, left, split, counted, consumes, leaves⟩ :=
      straying _ _ (.stray (.number 5)) _ [.name "+"] (names_stand ["x"]) rfl
    have parted : [nameToken "x"] ++ [] = taken ++ left := split
    obtain ⟨rfl, rfl⟩ := List.append_inj parted counted
    exact ⟨consumes, leaves⟩

end Parser

end Predictive
