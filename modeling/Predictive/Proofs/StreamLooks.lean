import Predictive.Token.Requests

/-!
# Looking at an item stream

A look that shows a token, or the end, goes unnoticed: the token is kept, and every later
request is answered as if there had been no look. A look at an item that stands for no
token does not. The item has left the stream before it is refused, so the fault is told to
the look alone, and later requests see the items behind it. Put into a run, looks therefore
answer its own requests as they are answered by a stream that never held the items refused
to the looks.
-/

namespace Predictive

open Text (Value)

namespace Item.Without

variable {values : List Value} {items kept : List Item}

theorem refl (items : List Item) : Without [] items items := by
  induction items with
  | nil => exact .nil
  | cons item others inductionHypothesis => exact .keep item inductionHypothesis

theorem of_nil (without : Without values [] kept) : kept = [] := by
  cases without
  rfl

/-- Where no item is taken out, all are left. -/
theorem eq_of_no_value (without : Without [] items kept) : kept = items := by
  generalize none_out : ([] : List Value) = values at without
  induction without with
  | nil => rfl
  | keep item _ inductionHypothesis => rw [inductionHypothesis none_out]
  | drop _ _ _ => cases none_out

/-- Items that all stand for tokens are all left. -/
theorem eq_of_stand (without : Without values items kept)
    (stand : ∀ item ∈ items, ∃ t, item.toToken? = .ok t) : kept = items := by
  induction without with
  | nil => rfl
  | keep item _ inductionHypothesis =>
    rw [inductionHypothesis (fun other member => stand other (List.mem_cons_of_mem _ member))]
  | drop stray _ _ =>
    obtain ⟨t, stands⟩ := stand _ List.mem_cons_self
    cases stray.symm.trans stands

end Item.Without

namespace ItemStream

variable {s after : ItemStream} {look : Option Token} {fault : StreamFault}

/-- A look that faults has taken an item that stands for no token out of a stream that keeps
no look. -/
theorem peek_refuses (faults : s.peek = (.error fault, after)) : ∃ item rest value,
    s = { s with items := item :: rest, ahead := none } ∧ item.toToken? = .error value ∧
      fault = .notAToken value ∧ after = { s with items := rest, ahead := none } := by
  obtain ⟨items, ahead, reports, policy⟩ := s
  unfold peek at faults
  cases ahead with
  | some kept => simp at faults
  | none =>
    cases items with
    | nil => simp at faults
    | cons item rest =>
      cases stands : item.toToken? with
      | ok t => simp [stands] at faults
      | error value =>
        simp only [stands, Prod.mk.injEq, Except.error.injEq] at faults
        exact ⟨item, rest, value, rfl, stands, faults.1.symm, faults.2.symm⟩

/-- Behind a look that goes well, a request is met as without the look. -/
theorem request_of_peek (shows : s.peek = (.ok look, after)) (r : Request) :
    after.request r = s.request r := by
  have stays : after.peek = (.ok look, after) := by
    have kept : after.ahead = some look := by
      unfold peek at shows
      split at shows
      · rename_i known
        obtain ⟨same, rfl⟩ := Prod.mk.inj shows
        rw [known, Except.ok.inj same]
      · split at shows
        · obtain ⟨same, rfl⟩ := Prod.mk.inj shows
          rw [← Except.ok.inj same]
        · split at shows
          · obtain ⟨same, rfl⟩ := Prod.mk.inj shows
            rw [← Except.ok.inj same]
          · cases (Prod.mk.inj shows).1
    simp only [peek, kept]
  cases r with
  | peek => exact stays.trans shows.symm
  | next => simp only [request, next, stays, shows]

/-- So are requests one after another. -/
theorem answers_of_peek (shows : s.peek = (.ok look, after)) (rs : List Request) :
    (after.requests rs).1 = (s.requests rs).1 := by
  cases rs with
  | nil => rfl
  | cons r others => simp only [requests, request_of_peek shows]

/-- What is taken out of the items behind a request may as well have been taken out in front
of it. -/
theorem exists_request_without {r : Request} {answer : Answer} {values : List Value}
    {kept : List Item} (meets : s.request r = (answer, after))
    (without : Item.Without values after.items kept) :
    ∃ front, Item.Without values s.items front ∧
      ({ s with items := front }).request r = (answer, { after with items := kept }) := by
  obtain ⟨items, ahead, reports, policy⟩ := s
  obtain rfl : _ = answer := congrArg Prod.fst meets
  obtain rfl : _ = after := congrArg Prod.snd meets
  cases ahead with
  | some known =>
    have same : (request ⟨items, some known, reports, policy⟩ r).2.items = items := by
      cases r <;> rfl
    rw [same] at without
    refine ⟨kept, without, ?_⟩
    cases r <;> rfl
  | none =>
    cases items with
    | nil =>
      have same : (request ⟨[], none, reports, policy⟩ r).2.items = [] := by cases r <;> rfl
      rw [same] at without
      obtain rfl := without.of_nil
      refine ⟨[], without, ?_⟩
      cases r <;> rfl
    | cons item rest =>
      have same : (request ⟨item :: rest, none, reports, policy⟩ r).2.items = rest := by
        cases r <;> cases stands : item.toToken? <;> simp [request, next, peek, stands]
      rw [same] at without
      refine ⟨item :: kept, .keep item without, ?_⟩
      cases r <;> cases stands : item.toToken? <;> simp [request, next, peek, stands]

/-- The own requests of a run are answered as by a stream without the items that were
refused to its looks. -/
theorem exists_ownAnswers_without (s : ItemStream) (steps : List Step) :
    ∃ values kept, s.lookFaults steps = values.map .notAToken ∧
      Item.Without values s.items kept ∧ s.ownAnswers steps =
        (({ s with items := kept }).requests (steps.filterMap Step.own?)).1 := by
  induction steps generalizing s with
  | nil => exact ⟨[], s.items, rfl, .refl _, rfl⟩
  | cons step others inductionHypothesis =>
    cases step with
    | own r =>
      rcases meets : s.request r with ⟨answer, after⟩
      obtain ⟨values, kept, met, without, answers⟩ := inductionHypothesis after
      obtain ⟨front, before, same⟩ := exists_request_without meets without
      refine ⟨values, front, ?_, before, ?_⟩
      · rw [lookFaults, meets]
        exact met
      · simp only [ownAnswers, meets, answers, List.filterMap_cons, Step.own?, requests, same]
    | look =>
      rcases looks : s.peek with ⟨look | look, after⟩
      · obtain ⟨item, rest, value, split, stray, rfl, rfl⟩ := peek_refuses looks
        obtain ⟨values, kept, met, without, answers⟩ :=
          inductionHypothesis { s with items := rest, ahead := none }
        refine ⟨value :: values, kept, ?_, ?_, ?_⟩
        · simp only [lookFaults, looks, met, List.map_cons]
        · rw [split]
          exact .drop stray without
        · rw [ownAnswers, looks, answers, split]
          rfl
      · obtain ⟨values, kept, met, without, answers⟩ := inductionHypothesis after
        obtain ⟨front, before, shows⟩ := exists_request_without (r := .peek) looks without
        refine ⟨values, front, ?_, before, ?_⟩
        · simp only [lookFaults, looks, met]
        · rw [ownAnswers, looks, answers]
          exact answers_of_peek shows _

/-- A look that faults does not go unnoticed: sooner or later there is one fault less. -/
theorem exists_noticed (faults : s.peek = (.error fault, after)) :
    ∃ rs, (after.requests rs).1 ≠ (s.requests rs).1 := by
  generalize size : s.items.length = n
  induction n using Nat.strongRecOn generalizing s after fault with
  | ind n inductionHypothesis =>
    rcases again : after.peek with ⟨next | look, last⟩
    · -- The next look faults as well, and the looks behind the two are told apart.
      have shorter : after.items.length < n := by
        obtain ⟨item, rest, value, split, _, _, rfl⟩ := peek_refuses faults
        rw [← size, split]
        exact Nat.lt_succ_self _
      obtain ⟨rs, differ⟩ := inductionHypothesis _ shorter again rfl
      refine ⟨.peek :: rs, fun same => differ ?_⟩
      simp only [requests, request, again, faults, List.cons.injEq] at same
      exact same.2
    · refine ⟨[.peek], ?_⟩
      simp [requests, request, again, faults]

/-- Looks pass over the items that they are refused. Put into a run of requests, they change
its answers to those of a stream without the items whose refusals they have met, so they
change none where they meet no refusal, and never if all items stand for tokens. Two looks
one behind the other are answered alike unless the first one is refused, and a look goes
unnoticed by all later requests just if it is not refused. -/
theorem looks_pass_over_refused_items (s : ItemStream) :
    (∀ steps : List Step, ∃ values kept, s.lookFaults steps = values.map .notAToken ∧
      Item.Without values s.items kept ∧ s.ownAnswers steps =
        (({ s with items := kept }).requests (steps.filterMap Step.own?)).1) ∧
    (∀ steps : List Step, s.lookFaults steps = [] →
      s.ownAnswers steps = (s.requests (steps.filterMap Step.own?)).1) ∧
    ((∀ item ∈ s.items, ∃ t, item.toToken? = .ok t) → ∀ steps : List Step,
      s.ownAnswers steps = (s.requests (steps.filterMap Step.own?)).1) ∧
    ((∀ fault, s.peek.1 ≠ .error fault) → s.peek.2.peek.1 = s.peek.1) ∧
    ((∀ rs, (s.peek.2.requests rs).1 = (s.requests rs).1) ↔
      ∀ fault, s.peek.1 ≠ .error fault) := by
  refine ⟨s.exists_ownAnswers_without, ?_, ?_, ?_, ?_⟩
  · intro steps unrefused
    obtain ⟨values, kept, met, without, answers⟩ := s.exists_ownAnswers_without steps
    obtain rfl := List.map_eq_nil_iff.mp (met.symm.trans unrefused)
    obtain rfl := without.eq_of_no_value
    exact answers
  · intro stand steps
    obtain ⟨values, kept, _, without, answers⟩ := s.exists_ownAnswers_without steps
    obtain rfl := without.eq_of_stand stand
    exact answers
  · intro unrefused
    rcases looks : s.peek with ⟨fault | look, after⟩
    · exact absurd (congrArg Prod.fst looks) (unrefused fault)
    · exact congrArg Prod.fst ((request_of_peek looks .peek).trans looks)
  · constructor
    · intro unnoticed fault refused
      obtain ⟨rs, differ⟩ := exists_noticed (Prod.ext refused rfl : s.peek = (.error fault, _))
      exact differ (unnoticed rs)
    · intro unrefused rs
      rcases looks : s.peek with ⟨fault | look, after⟩
      · exact absurd (congrArg Prod.fst looks) (unrefused fault)
      · exact answers_of_peek looks rs

/-- A stray value in front of a name. -/
def strayAndName : ItemStream := { items := [.stray .none, .name "a"] }

/-- The stray value is refused to the look in front, so the request behind it is answered by
the name. Two names are shown as they come. -/
theorem strayAndName_look_passes : strayAndName.lookFaults [.look, .own .next] =
      [.notAToken .none] ∧
    (∃ kept, Item.Without [.none] strayAndName.items kept ∧
      strayAndName.ownAnswers [.look, .own .next] =
        (({ strayAndName with items := kept }).requests [.next]).1) ∧
    ({ items := [.name "a", .name "b"] } : ItemStream).ownAnswers
        [.look, .own .next, .look, .look, .own .next] =
      [.ok (some ⟨"a", "a", 0, 0, 0⟩), .ok (some ⟨"b", "b", 0, 0, 0⟩)] := by
  obtain ⟨passes, _⟩ := looks_pass_over_refused_items strayAndName
  obtain ⟨_, _, stand, _⟩ :=
    looks_pass_over_refused_items { items := [.name "a", .name "b"] }
  obtain ⟨values, kept, met, without, answers⟩ := passes [.look, .own .next]
  obtain rfl : values = [.none] := by
    cases values with
    | nil => cases met
    | cons value others =>
      obtain ⟨same, done⟩ := List.cons.inj met
      obtain rfl := List.map_eq_nil_iff.mp done.symm
      rw [← StreamFault.notAToken.inj same]
  refine ⟨rfl, ⟨kept, without, answers⟩, ?_⟩
  rw [stand (by simp [Item.toToken?])]
  rfl

/-- Asked for a token at once, the stream refuses its stray value; asked behind a look, it
answers the name. Two looks one behind the other are answered by the refusal and by the name. -/
theorem look_swallows_refused_item :
    (strayAndName.requests [.next]).1 = [.error (.notAToken .none)] ∧
    strayAndName.ownAnswers [.look, .own .next] = [.ok (some ⟨"a", "a", 0, 0, 0⟩)] ∧
    strayAndName.ownAnswers [.look, .own .next] ≠ (strayAndName.requests [.next]).1 ∧
    (strayAndName.requests [.peek, .peek]).1 =
      [.error (.notAToken .none), .ok (some ⟨"a", "a", 0, 0, 0⟩)] := by
  refine ⟨rfl, rfl, ?_, rfl⟩
  intro same
  cases (List.cons.inj same).1

end ItemStream

end Predictive
