import Questionnaire.Proofs.Flow.Termination

/-!
# Which way a flow steps

On its way through pods that end as soon as they are asked, a flow makes the steps that these
pods tell it to make.  If it comes to rest it has not turned around on the way, or it has
come back to the pod that it left: between two pods that send it back and forth it would
never rest.
-/

namespace Questionnaire

/-- The step in the other direction. -/
def Pod.Ending.opposite : Pod.Ending → Pod.Ending
  | .advance => .retreat
  | .retreat => .advance

namespace Flow

variable {κ : Type} {pods : List Definition} {board : Board} {pod : Definition}
  {question : Instance Unit} {pending : List Signal} {flow next : Flow κ} {now : Timestamp}
  {turn : Turn (Flow κ) κ Unit} {sent : List (Delivery κ)} {envelope : Envelope}
  {rest : List Envelope} {moves other : List Move} {step : Pod.Ending}
  {index source fuel : Nat}

/-! ## The moves of emptying the mailbox -/

theorem pumpMoves_of_quiet
    (quiet : flow.mailbox.queue = [])
    (now : Timestamp)
    (fuel : Nat) :
    pumpMoves now (fuel + 1) flow = [] := by
  have silent : flow.mailbox.next? = none := by rw [Mailbox.next?, quiet]
  simp [pumpMoves, silent]

theorem pumpMoves_cons
    (queue : flow.mailbox.queue = envelope :: rest)
    (handled : handle now envelope { flow with mailbox := ⟨rest⟩ } = some ⟨next, .ok (), sent⟩)
    (fuel : Nat) :
    pumpMoves now (fuel + 1) flow =
      (moveFor { flow with mailbox := ⟨rest⟩ } envelope).toList ++ pumpMoves now fuel next := by
  have opens : flow.mailbox.next? = some (envelope, ⟨rest⟩) := by rw [Mailbox.next?, queue]
  simp only [pumpMoves, opens, handled]

/-- A flow that has ended makes no move. -/
theorem Ended.pumpMoves_eq
    (ended : Ended pods board flow)
    (now : Timestamp)
    (fuel : Nat) :
    pumpMoves now fuel flow = [] := by
  induction fuel generalizing flow with
  | zero => rfl
  | succ fuel ih =>
    cases queue : flow.mailbox.queue with
    | nil => exact pumpMoves_of_quiet queue now fuel
    | cons envelope rest =>
      obtain ⟨handled, noMove, still⟩ := ended.handle envelope rest now
      rw [pumpMoves_cons queue handled, noMove, ih still]
      rfl

/-- A step is made because the pod that is asked has told it. -/
theorem Asking.told_of_moveFor
    (asking : Asking pods board pod question pending flow)
    (queue : flow.mailbox.queue = envelope :: rest)
    (made : moveFor { flow with mailbox := ⟨rest⟩ } envelope = some (.ofEnding step)) :
    ∃ signal ∈ pending, eventOf signal = .ofKind (stepEvent step) := by
  by_cases source : envelope.source = question.id
  · have heard := asking.heard_own queue source
    rcases asking.own_cases queue source with
      ⟨early, trail⟩ | ⟨notice, name, notify, kind, named, trail⟩ | ⟨told, proper, tells⟩
    · obtain ⟨_, noMove, _⟩ := asking.handle_early queue trail early default
      cases noMove.symm.trans made
    · obtain ⟨_, moved, _⟩ := asking.handle_saved queue source trail notify kind named default
      have saves := Option.some.inj (moved.symm.trans made)
      cases step <;> cases saves
    · obtain ⟨_, moved, _⟩ := asking.handle_stepped queue source proper tells default
      have same := Option.some.inj (moved.symm.trans made)
      have equal : told = step := by cases told <;> cases step <;> first | rfl | cases same
      exact ⟨envelope.signal, heard ▸ List.mem_cons_self, equal ▸ tells⟩
  · obtain ⟨_, noMove, _⟩ := asking.handle_stale queue source default
    cases noMove.symm.trans made

/-- A flow that comes to rest has acted on the oldest of its envelopes, and comes to rest
from there. -/
theorem Asking.exists_handled
    (asking : Asking pods board pod question pending flow)
    (queue : flow.mailbox.queue = envelope :: rest)
    (returned : pump now (fuel + 1) flow = some turn) :
    ∃ move? next later,
      Handled pods board pod question pending move? (next : Flow κ) ∧
        pump now fuel next = some later ∧
        pumpMoves now (fuel + 1) flow = move?.toList ++ pumpMoves now fuel next ∧
        ∀ step, move? = some (.ofEnding step) →
          ∃ signal ∈ pending, eventOf signal = .ofKind (stepEvent step) := by
  obtain ⟨⟨next, result, sent⟩, handled, fine, kind⟩ := asking.handle queue now
  cases fine
  rw [pump_cons flow queue handled] at returned
  obtain ⟨later, laterReturned, _⟩ := Option.map_eq_some_iff.1 returned
  exact ⟨_, next, later, kind, laterReturned, pumpMoves_cons queue handled fuel,
    fun _ => asking.told_of_moveFor queue⟩

theorem Move.exists_ofEnding
    {move : Move}
    (leaves : move = .advance ∨ move = .retreat) :
    ∃ step, move = .ofEnding step := by
  rcases leaves with rfl | rfl
  · exact ⟨.advance, rfl⟩
  · exact ⟨.retreat, rfl⟩

/-! ## Ways -/

/-- The moves of a flow that enters the pod at an index and comes to rest: each pod that it
asks on the way ends at once, and tells the next step. -/
inductive Follows (pods : List Definition) : (index : Nat) → List Move → Prop
  | rests
      {index : Nat}
      (opens : instantAt pods index = none) :
      Follows pods index []
  | passes
      {index : Nat}
      {step : Pod.Ending}
      {moves : List Move}
      (instant : instantAt pods index = some step)
      (later : Follows pods (stepFrom index step) moves) :
      Follows pods index (.ofEnding step :: moves)

/-- The moves of a flow that hears out the pod at an index: the pod gives answers, and then
the flow leaves it or not. -/
inductive Departs (pods : List Definition) (index : Nat) : List Move → Prop
  | stays : Departs pods index []
  | answers
      {moves : List Move}
      (name : String)
      (answer : Json)
      (later : Departs pods index moves) :
      Departs pods index (.save name answer :: moves)
  | leaves
      {step : Pod.Ending}
      {moves : List Move}
      (follows : Follows pods (stepFrom index step) moves) :
      Departs pods index (.ofEnding step :: moves)

/-- A flow that has run out of pods makes the moves of a way, which are none. -/
theorem Ended.follows_pump
    (ended : Ended pods board flow)
    (now : Timestamp)
    (fuel : Nat) :
    Follows pods board.progress (pumpMoves now fuel flow) := by
  rw [ended.pumpMoves_eq]
  exact .rests (instantAt_eq_none_of_le (Nat.le_of_eq ended.complete.symm))

/-- A flow that has just asked a pod and comes to rest makes the moves of a way. -/
theorem Asking.follows_pump
    (asking : Asking pods board pod question pending flow)
    (opening : pending ⊆ Pod.openingSignals pod)
    (returned : pump now fuel flow = some turn) :
    Follows pods board.progress (pumpMoves now fuel flow) := by
  induction fuel generalizing board pod question pending flow turn with
  | zero => cases returned
  | succ fuel ih =>
    cases queue : flow.mailbox.queue with
    | nil =>
      obtain ⟨_, rfl⟩ := asking.resting queue
      rw [pumpMoves_of_quiet queue]
      exact .rests asking.instantAt_eq_none
    | cons envelope rest =>
      obtain ⟨move?, next, later, kind, laterReturned, moves, told⟩ :=
        asking.exists_handled queue returned
      rw [moves]
      cases kind with
      | dropped fewer asks => exact ih asks (List.Subset.trans fewer.subset opening) laterReturned
      | saved heard =>
        have member := opening (heard ▸ List.mem_cons_self)
        exact absurd member (Pod.notify_notMem_openingSignals pod _)
      | navigated leaves entered =>
        obtain ⟨step, rfl⟩ := Move.exists_ofEnding leaves
        obtain ⟨signal, member, tells⟩ := told step rfl
        have instant : instantAt pods board.progress = some step := by
          rw [instantAt, asking.found]
          exact instantEnding?_of_mem_openingSignals (opening member) tells
        have follows : Follows pods (stepFrom board.progress step) (pumpMoves now fuel next) := by
          rw [← progress_after_ofEnding pods board step]
          rcases entered with ⟨_, fresh, asks⟩ | ended
          · exact ih asks (List.Subset.refl _) laterReturned
          · exact ended.follows_pump now fuel
        exact .passes instant follows

theorem Entered.follows_pump
    (entered : Entered pods board flow)
    (returned : pump now fuel flow = some turn) :
    Follows pods board.progress (pumpMoves now fuel flow) := by
  rcases entered with ⟨_, fresh, asking⟩ | ended
  · exact asking.follows_pump (List.Subset.refl _) returned
  · exact ended.follows_pump now fuel

/-- A flow that asks a pod and comes to rest hears the pod out. -/
theorem Asking.departs_pump
    (asking : Asking pods board pod question pending flow)
    (returned : pump now fuel flow = some turn) :
    Departs pods board.progress (pumpMoves now fuel flow) := by
  induction fuel generalizing board pending flow turn with
  | zero => cases returned
  | succ fuel ih =>
    cases queue : flow.mailbox.queue with
    | nil =>
      rw [pumpMoves_of_quiet queue]
      exact .stays
    | cons envelope rest =>
      obtain ⟨move?, next, later, kind, laterReturned, moves, _⟩ :=
        asking.exists_handled queue returned
      rw [moves]
      cases kind with
      | dropped _ asks => exact ih asks laterReturned
      | @saved _ name answer _ _ _ _ asks =>
        have departs := ih asks laterReturned
        exact .answers name answer departs
      | navigated leaves entered =>
        obtain ⟨step, rfl⟩ := Move.exists_ofEnding leaves
        have follows := entered.follows_pump laterReturned
        rw [progress_after_ofEnding] at follows
        exact .leaves follows

/-! ## Directions -/

theorem Follows.unique
    (follows : Follows pods index moves)
    (also : Follows pods index other) :
    moves = other := by
  induction follows generalizing other with
  | rests opens =>
    cases also with
    | rests _ => rfl
    | passes instant _ => simp [opens] at instant
  | passes instant _ ih =>
    cases also with
    | rests opens => simp [instant] at opens
    | passes same later =>
      rw [instant] at same
      cases same
      rw [ih later]

/-- Turning around after a step leads back, unless it was a step back from the first pod. -/
theorem stepFrom_opposite (inside : source = 0 → step = .advance) :
    stepFrom (stepFrom source step) step.opposite = source := by
  cases step with
  | advance => rfl
  | retreat =>
    have later : source ≠ 0 := fun first => nomatch inside first
    exact Nat.sub_add_cancel (Nat.pos_of_ne_zero later)

/-- On its way a flow goes in one direction only, or it is sent back at once to the pod that
it left.  A pod that it left because that pod was only passed cannot tell it to turn around,
or else it would not come to rest. -/
theorem Follows.straight
    (follows : Follows pods (stepFrom source step) moves)
    (behind : instantAt pods source ≠ some step.opposite) :
    (∃ count, moves = List.replicate count (.ofEnding step)) ∨
      instantAt pods source = none ∧ moves = [.ofEnding step.opposite] ∧
        stepFrom (stepFrom source step) step.opposite = source := by
  generalize place : stepFrom source step = index at follows ⊢
  induction follows generalizing source with
  | rests _ => exact .inl ⟨0, rfl⟩
  | @passes index told moves instant later ih =>
    by_cases same : told = step
    · subst same
      have ahead : instantAt pods index ≠ some told.opposite := by
        rw [instant]
        cases told <;> simp [Pod.Ending.opposite]
      rcases ih ahead rfl with ⟨count, rfl⟩ | ⟨opens, _⟩
      · exact .inl ⟨count + 1, rfl⟩
      · simp [instant] at opens
    · have turned : told = step.opposite := by
        cases told <;> cases step <;> first | rfl | exact absurd rfl same
      subst turned
      have back : stepFrom index step.opposite = source := by
        rw [← place]
        apply stepFrom_opposite
        rintro rfl
        cases step with
        | advance => rfl
        | retreat =>
          subst place
          exact absurd instant behind
      rw [back] at later
      cases later with
      | rests opens => exact .inr ⟨opens, rfl, back⟩
      | @passes _ onward moves passed further =>
        have again : onward = step := by
          cases onward <;> cases step <;> first | rfl | exact absurd passed behind
        subst again
        rw [place] at further
        have whole : Follows pods index (.ofEnding onward.opposite :: .ofEnding onward :: moves) :=
          .passes instant (back ▸ .passes passed (place ▸ further))
        have endless := congrArg List.length (further.unique whole)
        simp only [List.length_cons] at endless
        omega

namespace Board

theorem progress_after_retreats (pods : List Definition) (board : Board) (count : Nat) :
    (board.afterAll pods (List.replicate count .retreat)).progress = board.progress - count := by
  induction count generalizing board with
  | zero => rfl
  | succ count ih =>
    rw [List.replicate_succ, afterAll_cons, ih]
    show board.progress - 1 - count = board.progress - (count + 1)
    omega

theorem progress_after_advances (pods : List Definition) (board : Board) (count : Nat) :
    (board.afterAll pods (List.replicate count .advance)).progress = board.progress + count := by
  induction count generalizing board with
  | zero => rfl
  | succ count ih =>
    rw [List.replicate_succ, afterAll_cons, ih]
    show board.progress + 1 + count = board.progress + (count + 1)
    omega

end Board

/-- A flow that leaves a pod which asked something comes to rest before that pod only if it
makes steps back, and no others. -/
theorem Departs.exists_retreats
    (departs : Departs pods board.progress moves)
    (opens : instantAt pods board.progress = none)
    (fell : (board.afterAll pods moves).progress < board.progress) :
    ∃ saves count, moves = saves ++ List.replicate (count + 1) .retreat ∧
      ∀ move ∈ saves, ∃ name answer, move = .save name answer := by
  generalize place : board.progress = index at departs opens fell
  induction departs generalizing board with
  | stays => exact absurd fell (by simp [place])
  | @answers moves name answer later ih =>
    have still : (board.after pods (.save name answer)).progress = index := place
    obtain ⟨saves, count, rfl, each⟩ := ih still fell
    refine ⟨.save name answer :: saves, count, rfl, ?_⟩
    intro move member
    rcases List.mem_cons.1 member with rfl | later
    · exact ⟨name, answer, rfl⟩
    · exact each move later
  | @leaves step moves follows =>
    have progress : (board.after pods (.ofEnding step)).progress = stepFrom index step :=
      place ▸ progress_after_ofEnding pods board step
    rw [Board.afterAll_cons] at fell
    rcases follows.straight (by simp [opens]) with ⟨count, rfl⟩ | ⟨_, rfl, back⟩
    · cases step with
      | retreat => exact ⟨[], count, rfl, by simp⟩
      | advance =>
        rw [Move.ofEnding, Board.progress_after_advances] at fell
        have onward : (board.after pods .advance).progress = index + 1 := progress
        omega
    · rw [Board.afterAll_cons, Board.afterAll_nil, progress_after_ofEnding, progress, back]
        at fell
      exact absurd fell (Nat.lt_irrefl _)

end Flow
end Questionnaire
