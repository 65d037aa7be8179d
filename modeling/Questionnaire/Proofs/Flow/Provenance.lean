import Mathlib.Data.List.Induction
import Questionnaire.Proofs.Flow.Retreat

/-!
# Where answers come from

Every answer that a flow keeps was given by a pod, which owns it, or was there when the
flow was built.  An answer is owned by the pod at the progress only if that pod has
given one itself: what a pod finds when it is asked belongs to the pods before it, so a
step back, which drops what the pod at the progress and the one before it own, leaves
only answers of earlier pods.
-/

namespace Questionnaire
namespace Flow

variable {κ : Type} {pods : List Definition} {board : Board} {seeds : Fields}
  {first flow last : Flow κ} {actions : List (Action κ)}

namespace Board

/-! ## Answers without an owner -/

/-- Whatever has an owner is an answer, and an answer without an owner is one of `seeds`. -/
structure Accounts (seeds : Fields) (board : Board) : Prop where
  owned : ∀ name owner, board.owners.get? name = some owner →
    ∃ answer, board.answers.get? name = some answer
  seeded : ∀ name answer, board.answers.get? name = some answer →
    board.owners.get? name = none → seeds.get? name = some answer

/-- Nothing is left of the seeds once a board was cleared. -/
theorem accounts_after_restart (pods : List Definition) (board : Board) :
    (board.after pods .restart).Accounts seeds :=
  ⟨fun _ _ owned => by simp [after] at owned, fun _ _ given => by simp [after] at given⟩

theorem Accounts.after (accounts : board.Accounts seeds) (move : Move) :
    (board.after pods move).Accounts seeds := by
  cases move with
  | save question given =>
    constructor
    · intro name owner owned
      simp only [Board.after, KeyMap.get?_insert] at owned ⊢
      split
      · exact ⟨given, rfl⟩
      · rename_i other
        rw [if_neg other] at owned
        exact accounts.owned name owner owned
    · intro name answer kept unowned
      simp only [Board.after, KeyMap.get?_insert] at kept unowned
      split at unowned
      · cases unowned
      · rename_i other
        rw [if_neg other] at kept
        exact accounts.seeded name answer kept unowned
  | advance => exact ⟨accounts.owned, accounts.seeded⟩
  | retreat =>
    constructor
    · intro name owner owned
      obtain ⟨before, fresh⟩ := notMem_stale_of_owner owned
      simpa [Board.after, KeyMap.get?_eraseAll, fresh] using accounts.owned name owner before
    · intro name answer kept unowned
      rcases get?_after_retreat pods board name with gone | ⟨same, sameOwner⟩
      · simp [gone] at kept
      · exact accounts.seeded name answer (same ▸ kept) (sameOwner ▸ unowned)
  | restart => exact accounts_after_restart pods board

theorem Accounts.afterAll (accounts : board.Accounts seeds) (moves : List Move) :
    (board.afterAll pods moves).Accounts seeds := by
  induction moves generalizing board with
  | nil => exact accounts
  | cons move moves ih => exact ih (accounts.after move)

/-- Moves that clear the board leave no answer without an owner. -/
theorem accounts_of_restart_mem
    {moves : List Move}
    (cleared : .restart ∈ moves)
    (pods : List Definition)
    (board : Board) :
    (board.afterAll pods moves).Accounts ∅ := by
  obtain ⟨earlier, later, rfl⟩ := List.append_of_mem cleared
  rw [afterAll_append, afterAll_cons]
  exact (accounts_after_restart pods _).afterAll later

/-! ## Owners before the progress -/

/-- Every answer that has an owner was given by a pod before the one at the progress. -/
def Below (board : Board) : Prop :=
  ∀ name owner, board.owners.get? name = some owner → owner < board.progress

theorem Below.bounded (below : board.Below) : board.Bounded :=
  fun name owner owned => Nat.le_of_lt (below name owner owned)

/-- Steps leave every owner before the progress, once there is one. -/
theorem Bounded.below_after_steps
    {steps : List Move}
    (bounded : board.Bounded)
    (each : ∀ move ∈ steps, move = .advance ∨ move = .retreat)
    (some : steps ≠ []) :
    (board.afterAll pods steps).Below :=
  (bounded.unwound_after_steps each some).below

theorem Below.after_steps
    {steps : List Move}
    (below : board.Below)
    (each : ∀ move ∈ steps, move = .advance ∨ move = .retreat) :
    (board.afterAll pods steps).Below := by
  by_cases none : steps = []
  · rwa [none, afterAll_nil]
  · exact below.bounded.below_after_steps each none

end Board

/-! ## What an action leaves -/

/-- After an action a flow still asks the pod that it asked, if any, and the action made
no move but that this pod recorded answers. -/
structure AsksOn (action : Action κ) (flow next : Flow κ) : Prop where
  same : ∀ question, flow.question? = some question →
    next.question?.map Instance.id = some question.id
  saves : ∀ move ∈ movesOf action flow,
    (∃ name answer, move = .save name answer) ∧ ∃ question, flow.question? = some question

theorem asksOn_of_still
    {action : Action κ}
    {next : Flow κ}
    (active : next.active = flow.active)
    (still : movesOf action flow = []) :
    AsksOn action flow next where
  same question asked := by
    have sameQuestion : next.question? = flow.question? := by rw [question?, question?, active]
    rw [sameQuestion, asked]
    rfl
  saves := by simp [still]

theorem Unstarted.below_or_asksOn
    {now : Timestamp}
    {turn : Turn (Flow κ) κ Unit}
    (unstarted : Unstarted pods board flow)
    (bounded : board.Bounded)
    (returned : Flow.start now flow = some turn) :
    (board.afterAll pods (movesOf (.start now) flow)).Below ∨
      AsksOn (.start now) flow turn.next := by
  have steps := (unstarted.start returned).2
  rw [← movesOf_start unstarted.idle] at steps
  by_cases still : movesOf (.start now) flow = []
  · refine .inr ⟨?_, by simp [still]⟩
    intro question asked
    simp [question?, unstarted.active, ChildSlot.child?, ChildSlot.empty] at asked
  · exact .inl (bounded.below_after_steps steps still)

theorem Asking.below_or_asksOn
    {pod : Definition}
    {question : Instance Unit}
    {now : Timestamp}
    {event : Event}
    {turn : Turn (Flow κ) κ Outcome}
    (asking : Asking pods board pod question [] flow)
    (quiet : flow.mailbox.queue = [])
    (bounded : board.Bounded)
    (returned : Flow.send now event flow = some turn) :
    (board.afterAll pods (movesOf (.send now event) flow)).Below ∨
      AsksOn (.send now event) flow turn.next := by
  by_cases kind : event.kind = startFreshEvent
  · have cleared : (board.after pods .restart).Below := by
      intro name owner owned
      simp [Board.after] at owned
    rw [movesOf_restart kind asking.running, Board.afterAll_cons]
    exact .inl (cleared.after_steps (asking.restart kind returned).2)
  · obtain ⟨saves, steps, moves, answering, _, same⟩ := asking.send quiet kind returned
    rw [← movesOf_send fun both => kind both.1] at moves
    by_cases still : steps = []
    · have asked : flow.question? = some question := by
        simp [question?, ChildSlot.child?, asking.active]
      refine .inr ⟨?_, ?_⟩
      · intro other otherAsked
        rw [same still, otherAsked]
        rfl
      · intro move member
        rw [moves, still, List.append_nil] at member
        exact ⟨⟨_, answering.saves move member⟩, question, asked⟩
    · rw [moves, Board.afterAll_append]
      exact .inl ((bounded.afterAll saves).below_after_steps answering.steps still)

theorem AtRest.below_or_asksOn
    {started : Bool}
    {action : Action κ}
    {next : Flow κ}
    (rest : AtRest pods board started flow)
    (bounded : board.Bounded)
    (performed : Flow.perform action flow = some next) :
    (board.afterAll pods (movesOf action flow)).Below ∨ AsksOn action flow next := by
  cases action with
  | start now =>
    obtain ⟨turn, returned, rfl⟩ := Option.map_eq_some_iff.1 performed
    cases started with
    | false => exact Unstarted.below_or_asksOn rest bounded returned
    | true =>
      have begun := Resting.begun rest
      rw [start_of_begun begun] at returned
      cases returned
      exact .inr (asksOn_of_still rfl (movesOf_start_of_begun begun))
  | send now event =>
    obtain ⟨turn, returned, rfl⟩ := Option.map_eq_some_iff.1 performed
    by_cases running : flow.machine.status = .running
    · obtain ⟨pod, question, asking⟩ := rest.asking_of_running running
      exact asking.below_or_asksOn rest.quiet bounded returned
    · obtain ⟨same, none⟩ := send_of_not_running running returned
      refine .inr (asksOn_of_still (by rw [same]) ?_)
      rw [movesOf_send fun both => running both.2, none]
  | subscribe outlet =>
    cases performed
    exact .inr (asksOn_of_still rfl rfl)
  | unsubscribe subscription =>
    cases performed
    exact .inr (asksOn_of_still rfl rfl)

/-! ## Runs -/

/-- The pod that a flow asks after a run has recorded an answer since it was spawned. -/
def HasSaved (actions : List (Action κ)) (first last : Flow κ) : Prop :=
  ∃ question earlier later before, last.question? = some question ∧
    actions = earlier ++ later ∧ run earlier first = some before ∧
    before.question?.map Instance.id = some question.id ∧
    ∃ name answer, .save name answer ∈ runMoves later before

/-- In a run, a flow was told to start again and did not refuse it. -/
def HasRestarted (actions : List (Action κ)) (first : Flow κ) : Prop :=
  ∃ earlier later before now event turn outcome,
    actions = earlier ++ .send now event :: later ∧ run earlier first = some before ∧
    event.kind = startFreshEvent ∧ send now event before = some turn ∧
    turn.result = .ok outcome

/-- A pod that goes on being asked has recorded answers if it had, or if it does now. -/
theorem AsksOn.hasSaved
    {action : Action κ}
    (asksOn : AsksOn action flow last)
    (reached : run actions first = some flow)
    (performed : perform action flow = some last)
    (saved : HasSaved actions first flow ∨ movesOf action flow ≠ []) :
    HasSaved (actions ++ [action]) first last := by
  have sole : runMoves [action] flow = movesOf action flow := by
    simp [runMoves, performed]
  rcases saved with ⟨question, earlier, later, before, asked, rfl, begun, same, saved⟩ | moves
  · obtain ⟨name, answer, member⟩ := saved
    obtain ⟨still, stillAsked, sameId⟩ := Option.map_eq_some_iff.1 (asksOn.same question asked)
    rw [run_append, begun] at reached
    refine ⟨still, earlier, later ++ [action], before, stillAsked, List.append_assoc .., begun,
      sameId ▸ same, name, answer, ?_⟩
    rw [runMoves_append reached]
    exact List.mem_append_left _ member
  · obtain ⟨move, member⟩ := List.exists_mem_of_ne_nil _ moves
    obtain ⟨⟨name, answer, rfl⟩, question, asked⟩ := asksOn.saves move member
    obtain ⟨still, stillAsked, sameId⟩ := Option.map_eq_some_iff.1 (asksOn.same question asked)
    refine ⟨still, actions, [action], flow, stillAsked, rfl, reached, ?_,
      name, answer, sole ▸ member⟩
    rw [asked, sameId]
    rfl

/-- After a run every owner is before the progress, unless the pod that is asked has
recorded an answer. -/
theorem AtRest.below_or_hasSaved
    {started : Bool}
    (rest : AtRest pods board started first)
    (below : board.Below)
    (returned : Flow.run actions first = some last) :
    (board.afterAll pods (runMoves actions first)).Below ∨ HasSaved actions first last := by
  induction actions using List.reverseRecOn generalizing last with
  | nil => exact .inl below
  | append_singleton actions action ih =>
    rw [run_append] at returned
    obtain ⟨flow, reached, performed⟩ := Option.bind_eq_some_iff.1 returned
    have performed : Flow.perform action flow = some last := by simpa [Flow.run] using performed
    have sole : runMoves [action] flow = movesOf action flow := by
      simp [runMoves, performed]
    rw [runMoves_append reached, sole, Board.afterAll_append]
    have bounded : (board.afterAll pods (runMoves actions first)).Bounded :=
      below.bounded.afterAll _
    rcases (rest.run reached).below_or_asksOn bounded performed with below | asksOn
    · exact .inl below
    · by_cases still : movesOf action flow = []
      · rw [still, Board.afterAll_nil]
        exact (ih reached).imp id fun saved => asksOn.hasSaved reached performed (.inl saved)
      · exact .inr (asksOn.hasSaved reached performed (.inr still))

/-- A flow that does not refuse to start again clears its board. -/
theorem HasRestarted.restart_mem (restarted : HasRestarted actions first) :
    .restart ∈ runMoves actions first := by
  obtain ⟨earlier, later, before, now, event, turn, outcome, rfl, reached, kind, sent, fine⟩ :=
    restarted
  have running : before.machine.status = .running := by
    by_contra stopped
    obtain ⟨error, _, _, refused⟩ := send_eq_of_not_running stopped now event
    rw [refused] at sent
    cases sent
    cases fine
  rw [runMoves_append reached, runMoves, movesOf_restart kind running]
  simp

/-- After any run of a flow, whatever has an owner is an answer; the owner is the pod at
the progress or one before it, and one before it unless the pod that is asked has
recorded an answer since it was spawned; and an answer without an owner is one that the
flow was built with, of which none is left once the flow was told to start again. -/
theorem provenance_of_run
    {id : InstanceId}
    (created : Flow.create id pods seeds = .ok first)
    (returned : run actions first = some last) :
    (∀ name ∈ last.owners.keys, name ∈ last.answers.keys) ∧
    (∀ name owner, last.owners.get? name = some owner →
      ∃ index, owner = .ofNat index ∧ index ≤ last.progress ∧
        (¬HasSaved actions first last → index < last.progress)) ∧
    (∀ name answer, last.answers.get? name = some answer → name ∉ last.owners.keys →
      seeds.get? name = some answer ∧ ¬HasRestarted actions first) := by
  have unstarted : AtRest pods ⟨0, seeds, ∅⟩ false first := unstarted_of_create created
  have keeps := (atRest_of_run created returned).keeps
  have below : (⟨0, seeds, ∅⟩ : Board).Below := fun _ _ owned => by simp at owned
  have belowNext := unstarted.below_or_hasSaved below returned
  have bounded : ((⟨0, seeds, ∅⟩ : Board).afterAll pods (runMoves actions first)).Bounded :=
    below.bounded.afterAll _
  have seeded : (⟨0, seeds, ∅⟩ : Board).Accounts seeds :=
    ⟨fun _ _ owned => by simp at owned, fun _ _ given _ => given⟩
  have accounts : ((⟨0, seeds, ∅⟩ : Board).afterAll pods (runMoves actions first)).Accounts seeds :=
    seeded.afterAll _
  have cleared (restarted : HasRestarted actions first) :=
    Board.accounts_of_restart_mem restarted.restart_mem pods ⟨0, seeds, ∅⟩
  generalize (⟨0, seeds, ∅⟩ : Board).afterAll pods (runMoves actions first) = board at *
  rw [keeps.answers_eq, keeps.owners_eq, keeps.progress_eq]
  refine ⟨?_, ?_, ?_⟩
  · intro name owned
    rw [KeyMap.mem_keys_iff] at owned ⊢
    obtain ⟨value, owned⟩ := owned
    rw [Board.get?_ownerFields] at owned
    obtain ⟨owner, owned, _⟩ := Option.map_eq_some_iff.1 owned
    exact accounts.owned name owner owned
  · intro name value owned
    rw [Board.get?_ownerFields] at owned
    obtain ⟨owner, owns, rfl⟩ := Option.map_eq_some_iff.1 owned
    refine ⟨owner, rfl, bounded name owner owns, fun unsaved => ?_⟩
    exact (belowNext.resolve_right unsaved) name owner owns
  · intro name answer given unowned
    have unowned : board.owners.get? name = none := by
      rw [Option.eq_none_iff_forall_ne_some]
      intro owner owned
      refine unowned (KeyMap.mem_keys_iff.2 ⟨.ofNat owner, ?_⟩)
      rw [Board.get?_ownerFields, owned]
      rfl
    refine ⟨accounts.seeded name answer given unowned, fun restarted => ?_⟩
    simpa using (cleared restarted).seeded name answer given unowned

/-- An age and a nickname that were given in an earlier session. -/
def earlierAnswers : Fields :=
  .ofList [("age", .str "old"), ("nickname", .str "old")]

/-- What a host does with a flow to which it gives an answer under a name of its own. -/
def nicknaming : List (Action Unit) :=
  [.start default, .send default nickname]

/-- A pod that is asked only when a run is over has not recorded anything. -/
theorem not_hasSaved_of_nicknaming
    {first last : Flow Unit}
    (unasked : first.question? = none)
    (replaced : ∀ before, run [.start default] first = some before →
      before.question?.map Instance.id ≠ last.question?.map Instance.id) :
    ¬HasSaved nicknaming first last := by
  rintro ⟨question, earlier, later, before, asked, split, reached, same, name, answer, member⟩
  rcases earlier with _ | ⟨action, _ | ⟨next, rest⟩⟩
  · cases reached
    simp [unasked] at same
  · cases split
    apply replaced before reached
    rw [same, asked]
    rfl
  · obtain ⟨_, _, none⟩ : _ ∧ _ ∧ [] = rest ++ later := by simpa [nicknaming] using split
    rw [(List.append_eq_nil_iff.1 none.symm).2] at member
    cases member

/-- Of two answers from before, one is given anew, under a name that no pod asks for, to
the first of two pods that share an identity and a question. -/
theorem provenance_of_nickname :
    ∃ first last : Flow Unit,
      Flow.create hostId [questionPod "name", questionPod "name"] earlierAnswers = .ok first ∧
      run nicknaming first = some last ∧ last.progress = 1 ∧ ¬HasSaved nicknaming first last ∧
      "nickname" ∈ last.answers.keys ∧
      (∃ index, last.owners.get? "nickname" = some (.ofNat index) ∧ index < 1) ∧
      ∃ answer, last.answers.get? "age" = some answer ∧
        earlierAnswers.get? "age" = some answer := by
  obtain ⟨first, last, created, returned, passed⟩ :=
    exists_run_of_check hostId [questionPod "name", questionPod "name"] earlierAnswers nicknaming
      (fun first last : Flow Unit => first.question?.isNone &&
        ((run [.start default] first).all fun before : Flow Unit =>
          decide (before.question?.map Instance.id ≠ last.question?.map Instance.id)) &&
        decide (last.progress = 1) && decide ("nickname" ∈ last.owners.keys) &&
        decide ("age" ∉ last.owners.keys) && decide ("age" ∈ last.answers.keys))
      (by decide +kernel)
  simp only [Bool.and_eq_true, decide_eq_true_eq, Option.isNone_iff_eq_none,
    Option.all_eq_true] at passed
  obtain ⟨⟨⟨⟨⟨unasked, replaced⟩, progress⟩, owned⟩, unowned⟩, kept⟩ := passed
  have unsaved := not_hasSaved_of_nicknaming unasked replaced
  obtain ⟨answered, bounded, seeded⟩ := provenance_of_run created returned
  obtain ⟨owner, owns⟩ := KeyMap.mem_keys_iff.1 owned
  obtain ⟨index, rfl, _, strict⟩ := bounded "nickname" owner owns
  obtain ⟨answer, given⟩ := KeyMap.mem_keys_iff.1 kept
  exact ⟨first, last, created, returned, progress, unsaved, answered "nickname" owned,
    ⟨index, owns, progress ▸ strict unsaved⟩, answer, given,
    (seeded "age" answer given unowned).1⟩

end Flow
end Questionnaire
