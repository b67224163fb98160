import Predictive.Proofs.LexerCalls
import Predictive.Proofs.MaximalMunch

/-!
# Looking at a token

A look moves a lexer: it passes over ignored text, and it keeps a token that it finds. It
still goes unnoticed, because whatever is called behind it is answered as if there had been
no look, and leaves the same lexer behind. That is plain where a token is kept. Where none
is found, it rests on passing over ignored text twice being the same as passing over it
once, so the next reading meets the same end of the text or the same fault.

For the same reason a lexer that has come to the end or to a fault rests there until a
text is bound.
-/

namespace Predictive

namespace Lexicon

variable {lx : Lexicon} {before rest : List Char} {p : TextPlace}

/-- Where every match of an ignored pattern is empty, no ignored text is found. -/
theorem NothingIgnored.ignoredAt?_eq_none (nothing : lx.NothingIgnored before rest) :
    lx.ignoredAt? before rest = none := by
  cases found : lx.ignoredAt? before rest with
  | none => rfl
  | some n =>
    obtain ⟨node, member, piece, filled, _, matched⟩ := exists_match_of_ignoredAt? found
    exact absurd (nothing node member piece matched) filled

/-- A pass stays at the end of the text, and where nothing is ignored. -/
theorem pass_eq_self (stops : p.rest = [] ∨ lx.NothingIgnored p.before p.rest) :
    lx.pass p = p := by
  obtain ⟨before, rest, position⟩ := p
  cases rest with
  | nil => simp [pass, passFrom]
  | cons c rest =>
    have nothing := (stops.resolve_left (List.cons_ne_nil c rest)).ignoredAt?_eq_none
    simp [pass, passFrom, nothing]

/-- There is nothing left to pass over behind a pass. -/
theorem pass_pass (lx : Lexicon) (p : TextPlace) : lx.pass (lx.pass p) = lx.pass p := by
  obtain ⟨_, passes⟩ := lx.exists_passes p
  exact pass_eq_self passes.stops

/-- A reading may as well begin behind the ignored text. -/
theorem read_pass (lx : Lexicon) (p : TextPlace) : lx.read (lx.pass p) = lx.read p := by
  unfold read
  rw [pass_pass]

/-- A reading that finds no token leaves the place where it has stopped passing. -/
theorem read_place_of_no_token (missing : ∀ t, (lx.read p).1 ≠ .ok (some t)) :
    (lx.read p).2 = lx.pass p := by
  unfold read at missing ⊢
  dsimp only at missing ⊢
  split
  · rfl
  · rename_i c others more
    split
    · rfl
    · rename_i kind text found
      simp [more] at found
      simp [more, found] at missing

/-- Read again, it finds the same. -/
theorem read_again (missing : ∀ t, (lx.read p).1 ≠ .ok (some t)) :
    lx.read (lx.read p).2 = lx.read p := by
  rw [read_place_of_no_token missing, read_pass]

end Lexicon

namespace Lexer

variable {l : Lexer} {result : Except LexFault (Option Token)}

/-- A lexer rests where it keeps no token and where a reading finds none and leads no
further. -/
structure Rests (l : Lexer) (result : Except LexFault (Option Token)) : Prop where
  fresh : l.ahead = none
  missing : ∀ t, result ≠ .ok (some t)
  reads : l.lexicon.read l.place = (result, l.place)

/-- A lexer that keeps no token comes to rest by a reading that finds none. -/
theorem read_rests (fresh : l.ahead = none)
    (missing : ∀ t, (l.lexicon.read l.place).1 ≠ .ok (some t)) :
    l.read.2.Rests (l.lexicon.read l.place).1 where
  fresh := fresh
  missing := missing
  reads := by
    rw [read_eq]
    exact l.lexicon.read_again missing

/-- A look that finds no token is a reading. -/
theorem peek_eq_read (fresh : l.ahead = none)
    (missing : ∀ t, (l.lexicon.read l.place).1 ≠ .ok (some t)) : l.peek = l.read := by
  simp only [peek, fresh, read_eq]
  rcases reads : (l.lexicon.read l.place).1 with fault | none | t
  · rfl
  · rfl
  · exact absurd reads (missing t)

theorem next_eq_read (fresh : l.ahead = none) : l.next = l.read := by
  simp only [next, fresh]

/-- Either request is a reading, if the reading finds no token. -/
theorem call_eq_read (fresh : l.ahead = none)
    (missing : ∀ t, (l.lexicon.read l.place).1 ≠ .ok (some t)) {c : Call}
    (request : c = .peek ∨ c = .next) :
    l.call c = (some (l.lexicon.read l.place).1, l.read.2) := by
  rcases request with rfl | rfl
  · rw [call, peek_eq_read fresh missing, read_eq]
  · rw [call, next_eq_read fresh, read_eq]

/-- What is answered at all is a request. -/
theorem request_of_answer {c : Call} (answered : (l.call c).1 = some result) :
    c = .peek ∨ c = .next := by
  cases c with
  | peek => exact Or.inl rfl
  | next => exact Or.inr rfl
  | reset text line column => cases answered

/-- At rest, a lexer gives the same answer to every request and stays as it is. -/
theorem Rests.call_eq (rests : l.Rests result) {c : Call} (request : c = .peek ∨ c = .next) :
    l.call c = (some result, l) := by
  have missing : ∀ t, (l.lexicon.read l.place).1 ≠ .ok (some t) := by
    rw [rests.reads]
    exact rests.missing
  rw [call_eq_read rests.fresh missing request, read_eq, rests.reads]

/-- So it does for requests one after another. -/
theorem Rests.calls_eq (rests : l.Rests result) {requests : List Call}
    (each : ∀ c ∈ requests, c = .peek ∨ c = .next) :
    l.calls requests = (List.replicate requests.length (some result), l) := by
  induction requests with
  | nil => rfl
  | cons c others inductionHypothesis =>
    obtain ⟨request, eachOther⟩ := List.forall_mem_cons.mp each
    simp only [calls, rests.call_eq request, inductionHypothesis eachOther, List.length_cons,
      List.replicate_succ]

/-- At the end of its text, a lexer that keeps no token is at rest. -/
theorem rests_of_finished (finished : l.place.rest = []) (fresh : l.ahead = none) :
    l.Rests (.ok none) where
  fresh := fresh
  missing := by simp
  reads := by
    have stays := l.lexicon.pass_eq_self (p := l.place) (Or.inl finished)
    simp only [Lexicon.read, stays, finished]

/-- An answer without a token brings the lexer to rest. -/
theorem rests_of_answer {c : Call} (answered : (l.call c).1 = some result)
    (missing : ∀ t, result ≠ .ok (some t)) : (l.call c).2.Rests result := by
  have request := request_of_answer answered
  cases kept : l.ahead with
  | some t =>
    refine absurd ?_ (missing t)
    rcases request with rfl | rfl
    · simpa [call, peek, kept] using answered.symm
    · simpa [call, next, kept] using answered.symm
  | none =>
    obtain ⟨looked, taken⟩ := call_of_ahead_eq_none kept
    have found : (l.lexicon.read l.place).1 = result := by
      rcases request with rfl | rfl
      · exact looked.symm.trans (Option.some.inj answered)
      · exact taken.symm.trans (Option.some.inj answered)
    subst found
    rw [call_eq_read kept missing request]
    exact read_rests kept missing

/-- Behind a look, every call is answered as without it and leaves the same lexer behind. -/
theorem call_peek (l : Lexer) (c : Call) : (l.call .peek).2.call c = l.call c := by
  cases kept : l.ahead with
  | some t =>
    have stays : (l.call .peek).2 = l := by simp only [call, peek, kept]
    rw [stays]
  | none =>
    by_cases missing : ∀ t, (l.lexicon.read l.place).1 ≠ .ok (some t)
    case pos =>
      -- The look has brought the lexer to rest, where a call finds what the look has found.
      have rests := read_rests kept missing
      rw [call_eq_read kept missing (Or.inl rfl)]
      cases c with
      | reset text line column => rfl
      | peek => rw [rests.call_eq (Or.inl rfl), call_eq_read kept missing (Or.inl rfl)]
      | next => rw [rests.call_eq (Or.inr rfl), call_eq_read kept missing (Or.inr rfl)]
    case neg =>
      -- The look keeps a token, and the call takes it or looks at it.
      obtain ⟨t, found⟩ := not_forall_not.mp missing
      cases c <;> simp [call, peek, next, reset, read_eq, kept, found]

/-- Calls one after another may be carried out in two parts. -/
theorem calls_append (l : Lexer) (front back : List Call) :
    l.calls (front ++ back) =
      ((l.calls front).1 ++ ((l.calls front).2.calls back).1,
        ((l.calls front).2.calls back).2) := by
  induction front generalizing l with
  | nil => rfl
  | cons c others inductionHypothesis =>
    simp only [List.cons_append, calls, inductionHypothesis]

/-- Behind a look, calls one after another are answered as without it. -/
theorem answers_peek (l : Lexer) (cs : List Call) :
    ((l.call .peek).2.calls cs).1 = (l.calls cs).1 := by
  cases cs with
  | nil => rfl
  | cons c others => simp only [calls, call_peek]

/-- A step of a run: a call of its own, or a look that is put in. -/
inductive Step where
  | own (c : Call)
  | look
deriving DecidableEq

namespace Step

/-- What the lexer is asked to do. -/
def call : Step → Call
  | own c => c
  | look => .peek

/-- The call of a step that is not put in. -/
def own? : Step → Option Call
  | own c => some c
  | look => none

end Step

/-- The answers to the calls of a run that are its own. -/
def ownAnswers (l : Lexer) (steps : List Step) : List Answer :=
  (steps.zip (l.calls (steps.map Step.call)).1).filterMap
    (fun (step, answer) => step.own?.map (fun _ => answer))

theorem ownAnswers_own (l : Lexer) (c : Call) (steps : List Step) :
    l.ownAnswers (.own c :: steps) = (l.call c).1 :: (l.call c).2.ownAnswers steps := rfl

theorem ownAnswers_look (l : Lexer) (steps : List Step) :
    l.ownAnswers (.look :: steps) = (l.call .peek).2.ownAnswers steps := rfl

/-- Looks that are put in change no answer to a call of the run's own. -/
theorem ownAnswers_eq (l : Lexer) (steps : List Step) :
    l.ownAnswers steps = (l.calls (steps.filterMap Step.own?)).1 := by
  induction steps generalizing l with
  | nil => rfl
  | cons step others inductionHypothesis =>
    cases step with
    | own c =>
      rw [ownAnswers_own, inductionHypothesis]
      rfl
    | look =>
      rw [ownAnswers_look, inductionHypothesis, answers_peek]
      rfl

/-- Where calls have brought a lexer to rest, it gives one answer to every request, and what
is called behind the requests is answered as if they had not been made. -/
theorem Rests.answers_eq {front requests : List Call} (rests : (l.calls front).2.Rests result)
    (each : ∀ c ∈ requests, c = .peek ∨ c = .next) (back : List Call) :
    (l.calls (front ++ requests ++ back)).1 =
      (l.calls front).1 ++ List.replicate requests.length (some result) ++
        ((l.calls front).2.calls back).1 := by
  simp only [calls_append, rests.calls_eq each]

/-- Looks go unnoticed. Put in anywhere, they change no answer to another call; looks one
behind the other are answered alike; and once the end of the text is reached, or a call is
answered by the end or by a fault, every request up to the next text is answered so. -/
theorem looks_go_unnoticed (l : Lexer) :
    (∀ steps : List Step, l.ownAnswers steps = (l.calls (steps.filterMap Step.own?)).1) ∧
    (∀ front back : List Call, ∃ answer later,
      (l.calls (front ++ .peek :: .peek :: back)).1 =
        (l.calls front).1 ++ answer :: answer :: later) ∧
    (∀ front requests back : List Call, (l.calls front).2.place.rest = [] →
      (l.calls front).2.ahead = none → (∀ c ∈ requests, c = .peek ∨ c = .next) →
      (l.calls (front ++ requests ++ back)).1 =
        (l.calls front).1 ++ List.replicate requests.length (some (.ok none)) ++
          ((l.calls front).2.calls back).1) ∧
    ∀ (front requests back : List Call) (c : Call) (result : Except LexFault (Option Token)),
      ((l.calls front).2.call c).1 = some result → (∀ t, result ≠ .ok (some t)) →
      (∀ d ∈ requests, d = .peek ∨ d = .next) →
      (l.calls (front ++ [c] ++ requests ++ back)).1 =
        (l.calls front).1 ++ [some result] ++ List.replicate requests.length (some result) ++
          ((l.calls (front ++ [c])).2.calls back).1 := by
  refine ⟨l.ownAnswers_eq, ?_, ?_, ?_⟩
  · intro front back
    refine ⟨((l.calls front).2.call .peek).1,
      (((l.calls front).2.call .peek).2.calls back).1, ?_⟩
    simp only [calls_append, calls, call_peek]
  · intro front requests back finished fresh each
    exact (rests_of_finished finished fresh).answers_eq each back
  · intro front requests back c result answered missing each
    have answers : (l.calls (front ++ [c])).1 = (l.calls front).1 ++ [some result] := by
      simp only [calls_append, calls, answered]
    have rests : (l.calls (front ++ [c])).2.Rests result := by
      rw [calls_append]
      exact rests_of_answer answered missing
    rw [← answers]
    exact rests.answers_eq each back

/-- A fresh lexer for the words of commands. -/
def commandsLexer : Lexer := { lexicon := commandsLexicon }

/-- A fresh lexer is at the end of the empty text. Of the other text, the question mark begins
no token, and this is found at one place, whether looked for or asked for. -/
theorem commands_looks_go_unnoticed :
    (commandsLexer.calls [.peek, .next]).1 = [some (.ok none), some (.ok none)] ∧
    (commandsLexer.calls [.reset "if ?".toList 1 1, .next, .peek, .next, .peek]).1 =
      [none, some (.ok (some ⟨"if", "if", 1, 1, 0⟩)), some (.error ⟨'?', ⟨3, 1, 4⟩⟩),
        some (.error ⟨'?', ⟨3, 1, 4⟩⟩), some (.error ⟨'?', ⟨3, 1, 4⟩⟩)] ∧
    commandsLexer.ownAnswers
        [.own (.reset "if ?".toList 1 1), .look, .own .next, .look, .look, .own .next] =
      [none, some (.ok (some ⟨"if", "if", 1, 1, 0⟩)), some (.error ⟨'?', ⟨3, 1, 4⟩⟩)] := by
  obtain ⟨unnoticed, _, finished, settled⟩ := looks_go_unnoticed commandsLexer
  refine ⟨?_, ?_, ?_⟩
  · exact finished [] [.peek, .next] [] rfl rfl (by simp)
  · have faults : ((commandsLexer.calls [.reset "if ?".toList 1 1, .next]).2.call .peek).1 =
        some (.error ⟨'?', ⟨3, 1, 4⟩⟩) := by decide +kernel
    have answers := settled _ [.next, .peek] [] .peek _ faults (by simp) (by simp)
    apply answers.trans
    decide +kernel
  · rw [unnoticed]
    decide +kernel

end Lexer

end Predictive
