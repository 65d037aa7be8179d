import Questionnaire.Proofs.Flow.Handling

/-!
# Emptying the mailbox of a flow

A flow acts on its envelopes until its mailbox is empty.  What that does to the board is
a list of moves: first the answers that are heard of the pod being asked, then steps
through pods that end as soon as they are asked.
-/

namespace Questionnaire
namespace Flow

variable {κ : Type} {pods : List Definition} {board : Board} {pod : Definition}
  {question : Instance Unit} {pending : List Signal} {flow : Flow κ} {now : Timestamp}

/-! ## Emptying the mailbox -/

/-- The moves of a flow that acts on envelopes, at most `fuel` times. -/
def pumpMoves (now : Timestamp) : (fuel : Nat) → Flow κ → List Move
  | 0, _ => []
  | fuel + 1, flow =>
    match flow.mailbox.next? with
    | none => []
    | some (envelope, mailbox) =>
      let opened := { flow with mailbox }
      (opened.moveFor envelope).toList ++
        match handle now envelope opened with
        | some ⟨next, .ok _, _⟩ => pumpMoves now fuel next
        | _ => []

/-- The moves of a flow that acts on envelopes until the mailbox is empty. -/
def settleMoves (now : Timestamp) (flow : Flow κ) : List Move :=
  pumpMoves now (flow.mailbox.queue.length + flow.pods.length + 2) flow

theorem pump_of_quiet
    (quiet : flow.mailbox.queue = [])
    (fuel : Nat) :
    pump now (fuel + 1) flow = some ⟨flow, .ok (), []⟩ := by
  have silent : flow.mailbox.next? = none := by rw [Mailbox.next?, quiet]
  unfold pump
  simp [Call.bind_apply, nextEnvelope, silent]

/-- Once the oldest envelope was acted on, the rest of the mailbox is emptied. -/
theorem pump_cons
    (flow : Flow κ)
    {envelope : Envelope}
    {rest : List Envelope}
    {next : Flow κ}
    {sent : List (Delivery κ)}
    (queue : flow.mailbox.queue = envelope :: rest)
    (handled : handle now envelope { flow with mailbox := ⟨rest⟩ } = some ⟨next, .ok (), sent⟩)
    (fuel : Nat) :
    pump now (fuel + 1) flow =
      (pump now fuel next).map fun turn => { turn with sent := sent ++ turn.sent } := by
  have opens : flow.mailbox.next? = some (envelope, ⟨rest⟩) := by rw [Mailbox.next?, queue]
  conv_lhs => unfold pump
  simp [Call.bind_apply, nextEnvelope, opens, handled, Function.comp_def]

/-- What each envelope keeps, given the moves so far, is kept until the mailbox is
empty. -/
theorem pump_invariant
    {holds : List Move → Flow κ → Prop}
    (step : ∀ log flow envelope rest, holds log flow →
      flow.mailbox.queue = envelope :: rest →
      ∃ turn, handle now envelope { flow with mailbox := ⟨rest⟩ } = some turn ∧
        turn.result = .ok () ∧
        holds (log ++ (moveFor { flow with mailbox := ⟨rest⟩ } envelope).toList) turn.next)
    (fuel : Nat)
    {log : List Move}
    {turn : Turn (Flow κ) κ Unit}
    (held : holds log flow)
    (returned : pump now fuel flow = some turn) :
    turn.result = .ok () ∧ turn.next.mailbox.queue = [] ∧
      holds (log ++ pumpMoves now fuel flow) turn.next := by
  induction fuel generalizing flow log turn with
  | zero => simp [pump] at returned
  | succ fuel ih =>
    unfold pumpMoves
    cases queue : flow.mailbox.queue with
    | nil =>
      have silent : flow.mailbox.next? = none := by rw [Mailbox.next?, queue]
      rw [pump_of_quiet queue] at returned
      cases returned
      simpa [silent, queue] using held
    | cons envelope rest =>
      have opens : flow.mailbox.next? = some (envelope, ⟨rest⟩) := by rw [Mailbox.next?, queue]
      obtain ⟨⟨next, result, sent⟩, handled, fine, kept⟩ := step log flow envelope rest held queue
      cases fine
      rw [pump_cons flow queue handled] at returned
      obtain ⟨last, lastReturned, rfl⟩ := Option.map_eq_some_iff.1 returned
      obtain ⟨lastFine, lastQuiet, lastHeld⟩ := ih kept lastReturned
      simp only [opens, handled]
      exact ⟨lastFine, lastQuiet, by simpa using lastHeld⟩

/-! ## What settling does -/

/-- The moves while `pending` is heard of a pod: its answers, then steps that leave it. -/
structure Course (pending : List Signal) (saves steps : List Move) : Prop where
  saves : ∀ move ∈ saves, ∃ notice name answer, .notify notice ∈ pending ∧
    notice.text? Pod.questionKey = some name ∧ move = .save name answer
  steps : ∀ move ∈ steps, move = .advance ∨ move = .retreat

theorem Course.append_save
    {saves : List Move}
    {notice : Event}
    {name : String}
    (course : Course pending saves [])
    (heard : .notify notice ∈ pending)
    (named : notice.text? Pod.questionKey = some name)
    (answer : Json) :
    Course pending (saves ++ [.save name answer]) [] where
  saves := by
    intro move member
    rcases List.mem_append.1 member with before | last
    · exact course.saves move before
    · exact ⟨notice, name, answer, heard, named, List.mem_singleton.1 last⟩
  steps := by simp

theorem Course.append_step
    {saves steps : List Move}
    {move : Move}
    (course : Course pending saves steps)
    (leaves : move = .advance ∨ move = .retreat) :
    Course pending saves (steps ++ [move]) where
  saves := course.saves
  steps := by
    intro other member
    rcases List.mem_append.1 member with before | last
    · exact course.steps other before
    · rwa [List.mem_singleton.1 last]

/-- The board after several moves. -/
def Board.afterAll (pods : List Definition) (board : Board) (moves : List Move) : Board :=
  moves.foldl (Board.after pods) board

@[simp] theorem Board.afterAll_nil : board.afterAll pods [] = board := rfl

@[simp] theorem Board.afterAll_cons (move : Move) (moves : List Move) :
    board.afterAll pods (move :: moves) = (board.after pods move).afterAll pods moves := rfl

@[simp] theorem Board.afterAll_append (first second : List Move) :
    board.afterAll pods (first ++ second) =
      (board.afterAll pods first).afterAll pods second :=
  List.foldl_append

/-- A flow asks a pod of which no notice is to be heard, or has ended. -/
def Hushed (pods : List Definition) (board : Board) (flow : Flow κ) : Prop :=
  (∃ pod question pending, (∀ notice, .notify notice ∉ pending) ∧
    Asking pods board pod question pending flow) ∨ Ended pods board flow

theorem Entered.hushed (entered : Entered pods board flow) : Hushed pods board flow := by
  rcases entered with ⟨id, pod, asking⟩ | ended
  · exact .inl ⟨pod, _, _, Pod.notify_notMem_openingSignals pod, asking⟩
  · exact .inr ended

/-- Where a flow stands that has begun to hear `pending` of a pod, and what it did: it
is still hearing of that pod, or has left it. -/
inductive Underway
    (pods : List Definition)
    (board : Board)
    (pod : Definition)
    (question : Instance Unit)
    (pending : List Signal) : List Move → Flow κ → Prop
  | hearing
      {saves : List Move}
      {later : List Signal}
      {flow : Flow κ}
      (course : Course pending saves [])
      (fewer : later <:+ pending)
      (asking : Asking pods (board.afterAll pods saves) pod question later flow) :
      Underway pods board pod question pending saves flow
  | left
      {saves steps : List Move}
      {flow : Flow κ}
      (course : Course pending saves steps)
      (some : steps ≠ [])
      (hushed : Hushed pods (board.afterAll pods (saves ++ steps)) flow) :
      Underway pods board pod question pending (saves ++ steps) flow

/-- A flow that has ended drops every envelope. -/
theorem Ended.handle
    (ended : Ended pods board flow)
    (envelope : Envelope)
    (rest : List Envelope)
    (now : Timestamp) :
    let opened : Flow κ := { flow with mailbox := ⟨rest⟩ }
    Flow.handle now envelope opened = some ⟨opened, .ok (), []⟩ ∧
      opened.moveFor envelope = none ∧ Ended pods board opened := by
  intro opened
  have stale : opened.active.isCurrent envelope.source = false := by
    simp [opened, ended.active, ChildSlot.empty, ChildSlot.isCurrent, ChildSlot.child?]
  obtain ⟨handled, noMove⟩ :=
    handle_of_dropped opened envelope (by simp [stale]) now
  exact ⟨handled, noMove, ended.podsEq, ended.keeps, ended.done, ended.active, ended.complete⟩

/-- Having left the pod that it asked, a flow only steps on. -/
theorem Hushed.handle
    {envelope : Envelope}
    {rest : List Envelope}
    (hushed : Hushed pods board flow)
    (queue : flow.mailbox.queue = envelope :: rest)
    (now : Timestamp) :
    let opened : Flow κ := { flow with mailbox := ⟨rest⟩ }
    ∃ turn, Flow.handle now envelope opened = some turn ∧ turn.result = .ok () ∧
      ((opened.moveFor envelope = none ∧ Hushed pods board turn.next) ∨
        ∃ move, opened.moveFor envelope = some move ∧ (move = .advance ∨ move = .retreat) ∧
          Hushed pods (board.after pods move) turn.next) := by
  intro opened
  rcases hushed with ⟨pod, question, pending, silent, asking⟩ | ended
  · obtain ⟨turn, handled, fine, kind⟩ := asking.handle queue now
    refine ⟨turn, handled, fine, ?_⟩
    generalize next : turn.next = after at kind ⊢
    generalize made : opened.moveFor envelope = move? at kind ⊢
    cases kind with
    | dropped fewer asking =>
      exact .inl ⟨rfl, .inl ⟨pod, question, _, fun notice member =>
        silent notice (fewer.subset member), asking⟩⟩
    | saved heard => exact absurd (heard ▸ List.mem_cons_self) (silent _)
    | navigated leaves entered => exact .inr ⟨_, rfl, leaves, entered.hushed⟩
  · obtain ⟨handled, noMove, still⟩ := ended.handle envelope rest now
    exact ⟨_, handled, rfl, .inl ⟨noMove, .inr still⟩⟩

theorem Underway.handle
    {log : List Move}
    {envelope : Envelope}
    {rest : List Envelope}
    (underway : Underway pods board pod question pending log flow)
    (queue : flow.mailbox.queue = envelope :: rest)
    (now : Timestamp) :
    let opened : Flow κ := { flow with mailbox := ⟨rest⟩ }
    ∃ turn, Flow.handle now envelope opened = some turn ∧ turn.result = .ok () ∧
      Underway pods board pod question pending
        (log ++ (opened.moveFor envelope).toList) turn.next := by
  intro opened
  cases underway with
  | hearing course fewer asking =>
    obtain ⟨turn, handled, fine, kind⟩ := asking.handle queue now
    refine ⟨turn, handled, fine, ?_⟩
    generalize next : turn.next = after at kind ⊢
    generalize made : opened.moveFor envelope = move? at kind ⊢
    cases kind with
    | dropped less asking =>
      rw [Option.toList_none, List.append_nil]
      exact .hearing course (less.trans fewer) asking
    | @saved notice name answer rest _ heard named kept =>
      subst heard
      have member : .notify notice ∈ pending := fewer.subset List.mem_cons_self
      have less : rest <:+ pending := (List.suffix_cons _ _).trans fewer
      exact .hearing (course.append_save member named answer) less (by simpa using kept)
    | navigated leaves entered =>
      exact .left (course.append_step leaves) (by simp) (by simpa using entered.hushed)
  | left course nonempty hushed =>
    obtain ⟨turn, handled, fine, ⟨noMove, still⟩ | ⟨move, made, leaves, still⟩⟩ :=
      hushed.handle queue now
    · refine ⟨turn, handled, fine, ?_⟩
      rw [noMove, Option.toList_none, List.append_nil]
      exact .left course nonempty still
    · refine ⟨turn, handled, fine, ?_⟩
      rw [made, Option.toList_some, List.append_assoc]
      exact .left (course.append_step leaves) (by simp) (by simpa using still)

/-! ## Flows at rest -/

/-- A flow that was started, between two calls: nothing is in its mailbox, and it asks a
pod of which all was heard, or has ended. -/
structure Resting (pods : List Definition) (board : Board) (flow : Flow κ) : Prop where
  quiet : flow.mailbox.queue = []
  stands : (∃ pod question, Asking pods board pod question [] flow) ∨ Ended pods board flow

theorem Asking.resting
    (asking : Asking pods board pod question pending flow)
    (quiet : flow.mailbox.queue = []) :
    Resting pods board flow ∧ pending = [] := by
  have nothing : pending = [] := by simpa [quiet] using asking.heard.symm
  subst nothing
  exact ⟨⟨quiet, .inl ⟨pod, question, asking⟩⟩, rfl⟩

theorem Hushed.resting
    (hushed : Hushed pods board flow)
    (quiet : flow.mailbox.queue = []) :
    Resting pods board flow := by
  rcases hushed with ⟨pod, question, pending, _, asking⟩ | ended
  · exact (asking.resting quiet).1
  · exact ⟨quiet, .inr ended⟩

/-! ## Settling -/

theorem settle_eq_pump (now : Timestamp) (flow : Flow κ) :
    settle now flow =
      pump now (flow.mailbox.queue.length + flow.pods.length + 2) flow := by
  simp [settle, Call.bind_apply]

/-- A flow that settles first hears out the pod that it asks. -/
theorem Asking.settle
    {turn : Turn (Flow κ) κ Unit}
    (asking : Asking pods board pod question pending flow)
    (returned : Flow.settle now flow = some turn) :
    turn.result = .ok () ∧ turn.next.mailbox.queue = [] ∧
      Underway pods board pod question pending (settleMoves now flow) turn.next := by
  rw [settle_eq_pump] at returned
  have course : Course pending [] [] := ⟨by simp, by simp⟩
  have begun : Underway pods board pod question pending [] flow :=
    .hearing course (List.suffix_refl _) asking
  exact pump_invariant (fun _ _ _ _ underway queue => underway.handle queue now) _ begun returned

/-- A flow of which no notice is to be heard, and what it did: it stepped on. -/
structure Stepping
    (pods : List Definition)
    (board : Board)
    (log : List Move)
    (flow : Flow κ) : Prop where
  hushed : Hushed pods (board.afterAll pods log) flow
  steps : ∀ move ∈ log, move = .advance ∨ move = .retreat

theorem Stepping.handle
    {log : List Move}
    {envelope : Envelope}
    {rest : List Envelope}
    (stepping : Stepping pods board log flow)
    (queue : flow.mailbox.queue = envelope :: rest)
    (now : Timestamp) :
    let opened : Flow κ := { flow with mailbox := ⟨rest⟩ }
    ∃ turn, Flow.handle now envelope opened = some turn ∧ turn.result = .ok () ∧
      Stepping pods board (log ++ (opened.moveFor envelope).toList) turn.next := by
  intro opened
  obtain ⟨turn, handled, fine, ⟨noMove, still⟩ | ⟨move, made, leaves, still⟩⟩ :=
    stepping.hushed.handle queue now
  · refine ⟨turn, handled, fine, ?_⟩
    rw [noMove, Option.toList_none, List.append_nil]
    exact ⟨still, stepping.steps⟩
  · refine ⟨turn, handled, fine, ?_⟩
    rw [made, Option.toList_some]
    refine ⟨by simpa using still, ?_⟩
    intro other member
    rcases List.mem_append.1 member with before | last
    · exact stepping.steps other before
    · rwa [List.mem_singleton.1 last]

/-- A flow that settles without a notice to hear only steps on. -/
theorem Hushed.settle
    {turn : Turn (Flow κ) κ Unit}
    (hushed : Hushed pods board flow)
    (returned : Flow.settle now flow = some turn) :
    turn.result = .ok () ∧
      Resting pods (board.afterAll pods (settleMoves now flow)) turn.next ∧
      ∀ move ∈ settleMoves now flow, move = .advance ∨ move = .retreat := by
  rw [settle_eq_pump] at returned
  have begun : Stepping pods board [] flow := ⟨hushed, by simp⟩
  obtain ⟨fine, quiet, stepping⟩ :=
    pump_invariant (fun _ _ _ _ stepping queue => stepping.handle queue now) _ begun returned
  exact ⟨fine, stepping.hushed.resting quiet, stepping.steps⟩

end Flow
end Questionnaire
