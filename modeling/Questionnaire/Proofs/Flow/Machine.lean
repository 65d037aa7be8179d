import Questionnaire.Proofs.Flow.Board
import Questionnaire.Proofs.Instance.Soundness

/-!
# What the machine of a flow does with its events

While it runs, the machine of a flow is `playing`.  It takes an answer without
leaving the state, enters the state again on each of the three navigation events, and
is complete once it is told that the pods have run out.
-/

namespace Questionnaire
namespace Flow

variable {κ : Type} {pods : List Definition} {board : Board}

theorem valid_definition : Flow.definition.Valid := by decide

theorem exists_resolve_definition (pods : List Definition) :
    ∃ transitions, Flow.definition.resolve (effects pods) = .ok transitions :=
  ⟨_, rfl⟩

/-! ## Events as moves -/

/-- The move that an event asks of the flow's machine. -/
def Move.ofEvent? (event : Event) : Option Move :=
  if event.kind = answerEvent then
    (event.text? Pod.questionKey).map fun question =>
      .save question ((event.get? Pod.answerKey).getD .null)
  else if event.kind = nextEvent then some .advance
  else if event.kind = previousEvent then some .retreat
  else if event.kind = startFreshEvent then some .restart
  else none

/-- Whether a move leads to a pod that is asked afresh. -/
def Move.isNavigation : Move → Bool
  | .save .. => false
  | _ => true

/-! ## The machine -/

/-- A machine runs a flow over `pods` and keeps `board`. -/
structure Keeps (pods : List Definition) (board : Board) (machine : Instance κ) : Prop where
  sound : machine.Sound (effects pods)
  definition : machine.definition = Flow.definition
  context : machine.context = board.context
  current : machine.current = if machine.isDone then complete else playing

/-- The machine back in `playing` with another board. -/
def replaying
    (now : Timestamp)
    (kind : String)
    (board : Board)
    (machine : Instance κ) :
    Instance κ :=
  { machine with
    current := playing
    context := board.context
    history := machine.history.record ⟨playing, playing, kind, now⟩ }

/-- The machine after it was told that the pods have run out. -/
def completing (now : Timestamp) (machine : Instance κ) : Instance κ :=
  (machine.entering now doneEvent complete).finished

namespace Keeps

variable {machine : Instance κ}

theorem playing_of_running
    (keeps : Keeps pods board machine)
    (running : machine.status = .running) :
    machine.current = playing := by
  simpa [Instance.isDone, running] using keeps.current

theorem complete_of_done
    (keeps : Keeps pods board machine)
    (done : machine.status = .done) :
    machine.current = complete := by
  simpa [Instance.isDone, done] using keeps.current

/-- The output of a flow that has ended is its answer set. -/
theorem output_of_done
    (keeps : Keeps pods board machine)
    (done : machine.status = .done) :
    machine.output = some (.object board.answers) := by
  have built : machine.builtOutput = (OutputBuilder.field answersKey).build machine.context := by
    rw [Instance.builtOutput, Instance.node?, keeps.definition, keeps.complete_of_done done]
    rfl
  rw [keeps.sound.output, built, keeps.context, OutputBuilder.build,
    board.get?_context_answers]
  simp [Instance.isDone, done]

theorem transition?_eq
    {kind : String}
    {transition : Transition}
    {result : ResolvedTransition}
    (keeps : Keeps pods board machine)
    (running : machine.status = .running)
    (declared : Flow.definition.transition? playing kind = some transition)
    (resolved : Definition.resolveTransition (effects pods) machineId transition =
      .ok result) :
    machine.transition? kind = some result := by
  have declares : machine.definition.transition? machine.current kind = some transition := by
    rw [keeps.definition, keeps.playing_of_running running, declared]
  obtain ⟨other, found, same⟩ := keeps.sound.exists_resolved declares
  rw [keeps.definition] at same
  exact found.trans (congrArg some (Except.ok.inj (same.symm.trans resolved)))

/-- An answer is recorded without leaving the state. -/
theorem dispatch_save
    {event : Event}
    {question : String}
    (keeps : Keeps pods board machine)
    (running : machine.status = .running)
    (kind : event.kind = answerEvent)
    (named : event.text? Pod.questionKey = some question)
    (now : Timestamp) :
    machine.dispatch now event =
      ⟨{ machine with
          context := (board.after pods
            (.save question ((event.get? Pod.answerKey).getD .null))).context },
        .ok (.stayed playing), []⟩ := by
  have found : machine.transition? event.kind =
      some ⟨none, [(saveAnswerEffect, .assign savedAnswer)]⟩ :=
    keeps.transition?_eq running (by rw [kind]; rfl) rfl
  have merged : machine.context.merge (savedAnswer (machine.input event)) =
      (board.after pods (.save question ((event.get? Pod.answerKey).getD .null))).context :=
    keeps.context ▸ Board.merge_savedAnswer keeps.context named
  simp only [Instance.dispatch, running, found, Instance.follow, ResolvedTransition.notices,
    ResolvedTransition.update, List.foldl_cons, List.foldl_nil, List.filterMap_cons_none,
    List.filterMap_nil, List.flatMap_nil, keeps.playing_of_running running]
  rw [show (machine.input event).context = machine.context from rfl, merged]

/-- A transition back into `playing` enters the state again with the patched context. -/
theorem follow_playing
    {id : String}
    {patch : Effect.Input → Fields}
    {next : Board}
    (keeps : Keeps pods board machine)
    (running : machine.status = .running)
    (now : Timestamp)
    (event : Event)
    (patched : board.context.merge (patch (machine.input event)) = next.context) :
    machine.follow now event ⟨some playing, [(id, .assign patch)]⟩ =
      ⟨replaying now event.kind next machine, .ok (.transitioned playing playing), []⟩ := by
  have notTerminal : Flow.definition.isTerminal playing = false := by decide
  have merged : machine.context.merge (patch (machine.input event)) = next.context :=
    keeps.context ▸ patched
  simp only [Instance.follow, ResolvedTransition.notices, ResolvedTransition.update,
    List.foldl_cons, List.foldl_nil, List.filterMap_cons_none, List.filterMap_nil,
    List.flatMap_nil, Instance.atTerminal, Instance.entering, keeps.definition, notTerminal,
    keeps.playing_of_running running, Bool.false_eq_true, if_false]
  rw [show (machine.input event).context = machine.context from rfl, merged]
  rw [replaying, keeps.definition]

/-- On a navigation event the machine enters `playing` again with the board moved. -/
theorem dispatch_navigation
    {event : Event}
    {move : Move}
    (keeps : Keeps pods board machine)
    (running : machine.status = .running)
    (read : Move.ofEvent? event = some move)
    (navigates : move.isNavigation = true)
    (now : Timestamp) :
    machine.dispatch now event =
      ⟨replaying now event.kind (board.after pods move) machine,
        .ok (.transitioned playing playing), []⟩ := by
  have followed {transition : ResolvedTransition}
      (found : machine.transition? event.kind = some transition) :
      machine.dispatch now event = machine.follow now event transition :=
    Instance.dispatch_eq_follow running found
  unfold Move.ofEvent? at read
  split at read
  · obtain ⟨question, _, rfl⟩ := Option.map_eq_some_iff.1 read
    simp [Move.isNavigation] at navigates
  · split at read
    · rename_i kind
      cases read
      rw [followed (keeps.transition?_eq running (by rw [kind]; rfl) rfl)]
      exact keeps.follow_playing running now event (Board.merge_advanced keeps.context)
    · split at read
      · rename_i kind
        cases read
        rw [followed (keeps.transition?_eq running (by rw [kind]; rfl) rfl)]
        exact keeps.follow_playing running now event (Board.merge_retreated keeps.context)
      · split at read
        · rename_i kind
          cases read
          rw [followed (keeps.transition?_eq running (by rw [kind]; rfl) rfl)]
          exact keeps.follow_playing running now event (Board.merge_restarted board)
        · simp at read

/-- Told that the pods have run out, the machine ends with the answer set. -/
theorem dispatch_done
    (keeps : Keeps pods board machine)
    (running : machine.status = .running)
    (now : Timestamp) :
    machine.dispatch now (.ofKind doneEvent) =
      ⟨completing now machine, .ok (.terminated complete (.object board.answers)),
        machine.emit (.done (.object board.answers))⟩ := by
  have found : machine.transition? (Event.ofKind doneEvent).kind = some ⟨some complete, []⟩ :=
    keeps.transition?_eq running rfl rfl
  have terminal : Flow.definition.isTerminal complete = true := by decide
  have ended : (machine.entering now doneEvent complete).atTerminal = true := by
    rw [Instance.atTerminal, Instance.entering, keeps.definition, terminal]
  have built : (machine.entering now doneEvent complete).builtOutput =
      .object board.answers := by
    rw [Instance.builtOutput, Instance.node?, Instance.entering, keeps.definition,
      keeps.context]
    show (OutputBuilder.field answersKey).build board.context = _
    rw [OutputBuilder.build, board.get?_context_answers]
    rfl
  simp only [Instance.dispatch, running, found, Instance.follow]
  show (if (machine.entering now doneEvent complete).atTerminal = true then
    (⟨completing now machine,
      .ok (.terminated complete (machine.entering now doneEvent complete).builtOutput),
      machine.emit (.done (machine.entering now doneEvent complete).builtOutput)⟩ :
        Turn (Instance κ) κ Outcome) else _) = _
  rw [if_pos ended, built]

/-! ## What the calls keep -/

theorem save
    {question : String}
    {answer : Json}
    (keeps : Keeps pods board machine)
    (running : machine.status = .running) :
    Keeps pods (board.after pods (.save question answer))
      { machine with context := (board.after pods (.save question answer)).context } where
  sound := by
    refine ⟨keeps.sound.valid, keeps.sound.resolved, keeps.sound.current, keeps.sound.live, ?_⟩
    simpa [Instance.isDone, running] using keeps.sound.output
  definition := keeps.definition
  context := rfl
  current := keeps.current

theorem replaying
    (keeps : Keeps pods board machine)
    (running : machine.status = .running)
    (now : Timestamp)
    (kind : String)
    (next : Board) :
    Keeps pods next (replaying now kind next machine) where
  sound := by
    have sameNode : (Flow.replaying now kind next machine).node? = machine.node? := by
      rw [Instance.node?, Instance.node?, keeps.playing_of_running running]
      rfl
    have sameEnd : (Flow.replaying now kind next machine).atTerminal = machine.atTerminal := by
      rw [Instance.atTerminal, Instance.atTerminal, keeps.playing_of_running running]
      rfl
    refine ⟨keeps.sound.valid, keeps.sound.resolved, sameNode ▸ keeps.sound.current,
      sameEnd ▸ keeps.sound.live, ?_⟩
    simpa [Instance.isDone, running, Flow.replaying] using keeps.sound.output
  definition := keeps.definition
  context := rfl
  current := by simp [Flow.replaying, Instance.isDone, running]

theorem completing
    (keeps : Keeps pods board machine)
    (running : machine.status = .running)
    (now : Timestamp) :
    Keeps pods board (completing now machine) where
  sound := by
    have kept := keeps.sound.dispatch now (.ofKind doneEvent)
    rwa [keeps.dispatch_done running now] at kept
  definition := keeps.definition
  context := keeps.context
  current := by simp [Flow.completing, Instance.finished, Instance.entering, Instance.isDone]

theorem start
    (keeps : Keeps pods board machine)
    (idle : machine.status = .idle) :
    machine.start = ⟨{ machine with status := .running }, .ok (), []⟩ ∧
      Keeps pods board { machine with status := .running } := by
  have playingNow : machine.current = playing := by
    simpa [Instance.isDone, idle] using keeps.current
  have notTerminal : machine.atTerminal = false := by
    rw [Instance.atTerminal, keeps.definition, playingNow]
    decide
  have started : machine.start = ⟨{ machine with status := .running }, .ok (), []⟩ := by
    simp [Instance.start, idle, notTerminal]
  refine ⟨started, ?_, keeps.definition, keeps.context, ?_⟩
  · have kept := keeps.sound.start
    rwa [started] at kept
  · simp [Instance.isDone, playingNow]

theorem subscribe
    (keeps : Keeps pods board machine)
    (outlet : κ) :
    Keeps pods board (machine.subscribe outlet).2 :=
  ⟨keeps.sound.subscribe outlet, keeps.definition, keeps.context, keeps.current⟩

theorem unsubscribe
    (keeps : Keeps pods board machine)
    (subscription : Subscription) :
    Keeps pods board (machine.unsubscribe subscription).2 :=
  ⟨keeps.sound.unsubscribe subscription, keeps.definition, keeps.context, keeps.current⟩

end Keeps
end Flow
end Questionnaire
