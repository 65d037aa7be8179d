import Questionnaire.Proofs.Flow.Direction
import Questionnaire.Proofs.Flow.Retreat

/-!
# What survives a step back

A flow that steps back drops answers by the pod that gave them and by their names.  An answer
of a pod that is not unwound is lost if an unwound pod has a question of the same name, or if
the pod that is left has answered under that name once more.  All others survive.
-/

namespace Questionnaire
namespace Flow

variable {κ : Type} {pods : List Definition} {board : Board} {pod : Definition}
  {question : Instance Unit} {flow : Flow κ} {now : Timestamp} {name : String}
  {answer : Json} {owner count : Nat}

namespace Board

/-- An answer stands on a board, as given by a certain pod. -/
structure Holds (board : Board) (name : String) (answer : Json) (owner : Nat) : Prop where
  answered : board.answers.get? name = some answer
  owned : board.owners.get? name = some owner

/-- A step back leaves the answers of pods that it does not unwind, unless they are under
the name of a question of an unwound pod. -/
theorem Holds.after_retreat
    (holds : board.Holds name answer owner)
    (below : owner < board.progress - 1)
    (apart : ∀ index pod, board.progress - 1 ≤ index → index ≤ board.progress →
      pods[index]? = some pod → name ∉ pod.questionIds) :
    (board.after pods .retreat).Holds name answer owner := by
  have fresh : name ∉ board.stale pods := by
    rw [mem_stale_iff]
    rintro (⟨index, unwinds, owns⟩ | ⟨index, unwinds, pod, found, asks⟩)
    · rw [holds.owned, Option.some.injEq] at owns
      rw [mem_unwound_iff] at unwinds
      omega
    · rw [mem_unwound_iff] at unwinds
      exact apart index pod (by omega) (by omega) found asks
  constructor
  · simp [after, KeyMap.get?_eraseAll, fresh, holds.answered]
  · simp [after, KeyMap.get?_eraseAll, fresh, holds.owned]

theorem Holds.after_retreats
    (holds : board.Holds name answer owner)
    (below : owner < board.progress - count)
    (apart : ∀ index pod, board.progress - count ≤ index → index ≤ board.progress →
      pods[index]? = some pod → name ∉ pod.questionIds) :
    (board.afterAll pods (List.replicate count .retreat)).Holds name answer owner := by
  induction count generalizing board with
  | zero => exact holds
  | succ count ih =>
    have first : (board.after pods .retreat).Holds name answer owner :=
      holds.after_retreat (by omega) fun index pod lower upper =>
        apart index pod (by omega) upper
    have progress : (board.after pods .retreat).progress = board.progress - 1 := rfl
    rw [List.replicate_succ, afterAll_cons]
    exact ih first (by omega) fun index pod lower upper => apart index pod (by omega) (by omega)

/-- Answers under other names leave an answer as it is. -/
theorem Holds.after_saves
    {saves : List Move}
    (holds : board.Holds name answer owner)
    (each : ∀ move ∈ saves, ∃ name answer, move = .save name answer)
    (others : ∀ given, .save name given ∉ saves) :
    (board.afterAll pods saves).Holds name answer owner := by
  induction saves generalizing board with
  | nil => exact holds
  | cons move saves ih =>
    obtain ⟨question, given, rfl⟩ := each move List.mem_cons_self
    have distinct : name ≠ question := by
      rintro rfl
      exact others given List.mem_cons_self
    have next : (board.after pods (.save question given)).Holds name answer owner := by
      constructor
      · simp [after, KeyMap.get?_insert, distinct, holds.answered]
      · simp [after, KeyMap.get?_insert, distinct, holds.owned]
    exact ih next (fun other member => each other (List.mem_cons_of_mem _ member))
      fun given member => others given (List.mem_cons_of_mem _ member)

/-- After answers and then steps back, an answer of a pod that is not unwound stands exactly
if it was not given once more and no unwound pod has a question of its name. -/
theorem Bounded.holds_iff
    {saves moves : List Move}
    (bounded : board.Bounded)
    (holds : board.Holds name answer owner)
    (each : ∀ move ∈ saves, ∃ name answer, move = .save name answer)
    (all : moves = saves ++ List.replicate (count + 1) .retreat)
    (below : owner < (board.afterAll pods moves).progress) :
    (board.afterAll pods moves).Holds name answer owner ↔
      (∀ given, .save name given ∉ moves) ∧
        ∀ index pod, (board.afterAll pods moves).progress ≤ index → index ≤ board.progress →
          pods[index]? = some pod → name ∉ pod.questionIds := by
  have saved : (board.afterAll pods saves).progress = board.progress :=
    (afterAll_saves pods board each).1
  have progress : (board.afterAll pods moves).progress = board.progress - (count + 1) := by
    rw [all, afterAll_append, progress_after_retreats, saved]
  constructor
  · intro kept
    have steps (move : Move) (member : move ∈ List.replicate (count + 1) Move.retreat) :
        move = .advance ∨ move = .retreat :=
      .inr (List.eq_of_mem_replicate member)
    have forgets : board.Forgets pods moves :=
      all ▸ bounded.forgets each steps (by simp) (by rw [← all, progress]; omega)
    refine ⟨fun given member => ?_, fun index pod lower upper found asks => ?_⟩
    · cases (forgets.saved name given member).symm.trans kept.answered
    · cases (forgets.unwound.clean index pod name lower upper found asks).symm.trans
        kept.answered
  · rintro ⟨others, apart⟩
    rw [progress] at apart below
    have still : (board.afterAll pods saves).Holds name answer owner :=
      holds.after_saves each fun given member =>
        others given (all ▸ List.mem_append_left _ member)
    rw [all, afterAll_append]
    exact still.after_retreats (saved ▸ below) (saved ▸ apart)

end Board

/-- A flow that keeps a board has the answers that stand on it, with their owners. -/
theorem Keeps.holds_iff (keeps : Keeps pods board flow.machine) :
    (flow.answers.get? name = some answer ∧ flow.owners.get? name = some (.ofNat owner)) ↔
      board.Holds name answer owner := by
  rw [keeps.answers_eq, keeps.owners_eq, Board.get?_ownerFields]
  constructor
  · rintro ⟨answered, owned⟩
    obtain ⟨_, owns, same⟩ := Option.map_eq_some_iff.1 owned
    exact ⟨answered, Json.ofNat_injective same ▸ owns⟩
  · intro holds
    exact ⟨holds.answered, by rw [holds.owned, Option.map_some]⟩

/-- Answering an event that is up to the pod being asked, a flow hears the pod out. -/
theorem Asking.departs_send
    {event : Event}
    {turn : Turn (Flow κ) κ Outcome}
    (asking : Asking pods board pod question [] flow)
    (quiet : flow.mailbox.queue = [])
    (kind : event.kind ≠ startFreshEvent)
    (returned : Flow.send now event flow = some turn) :
    Departs pods board.progress (settledMoves now (Flow.delivering now event) flow) := by
  obtain ⟨outcome, _, delivered⟩ := asking.delivering kind now
  obtain ⟨signals, _, heard, _⟩ := asking.given quiet now event
  rw [send_eq] at returned
  obtain ⟨sameMoves, settled, settledEq, _, _⟩ := settle_after delivered rfl returned
  rw [settle_eq_pump] at settledEq
  rw [sameMoves]
  exact heard.departs_pump settledEq

/-- When an event other than the one that starts again makes a running flow step back, the
answers of pods before the new progress survive, with their owners, unless they are given
once more on the way or a pod that is unwound has a question of their name. -/
theorem survives_iff_of_send
    {id : InstanceId}
    {seeds : Fields}
    {first flow : Flow κ}
    {actions : List (Action κ)}
    {event : Event}
    {turn : Turn (Flow κ) κ Outcome}
    (created : Flow.create id pods seeds = .ok first)
    (reached : Flow.run actions first = some flow)
    (running : flow.machine.status = .running)
    (other : event.kind ≠ startFreshEvent)
    (returned : Flow.send now event flow = some turn)
    (fell : turn.next.progress < flow.progress)
    (answered : flow.answers.get? name = some answer)
    (owned : flow.owners.get? name = some (.ofNat owner))
    (below : owner < turn.next.progress) :
    (turn.next.answers.get? name = some answer ∧
        turn.next.owners.get? name = some (.ofNat owner)) ↔
      (∀ given, .save name given ∉ flow.movesOf (.send now event)) ∧
        ∀ index pod, turn.next.progress ≤ index → index ≤ flow.progress →
          pods[index]? = some pod → name ∉ pod.questionIds := by
  have rest := atRest_of_run created reached
  have bounded : ((⟨0, seeds, ∅⟩ : Board).afterAll pods (runMoves actions first)).Bounded :=
    Board.Bounded.afterAll (fun _ _ owned => by simp at owned) _
  generalize (⟨0, seeds, ∅⟩ : Board).afterAll pods (runMoves actions first) = board
    at rest bounded
  obtain ⟨pod, question, asking⟩ := rest.asking_of_running running
  have departs := asking.departs_send rest.quiet other returned
  obtain ⟨_, _, sameMoves, _, restsNext, _⟩ := asking.send rest.quiet other returned
  rw [← sameMoves] at restsNext
  rw [movesOf_send fun both => other both.1]
  generalize settledMoves now (delivering now event) flow = moves at departs restsNext
  have progress : flow.progress = board.progress := asking.keeps.progress_eq
  have progressNext := restsNext.keeps.progress_eq
  rw [progress, progressNext] at fell
  obtain ⟨saves, count, all, each⟩ := departs.exists_retreats asking.instantAt_eq_none fell
  have holds : board.Holds name answer owner := asking.keeps.holds_iff.1 ⟨answered, owned⟩
  rw [progressNext] at below
  rw [progressNext, progress, ← bounded.holds_iff holds each all below,
    restsNext.keeps.holds_iff]

/-- Three pods with a question each. -/
def threeQuestions (last : Definition) : List Definition :=
  [questionPod "name", questionPod "colour", last]

/-- A pod with a question, which also answers when it is left backwards. -/
def parting : Definition where
  id := "parting"
  initial := "size"
  states := .ofList [
    ("size", { on := .ofList [(Pod.goBack, ⟨some "quit", [Pod.saveAnswer]⟩)] }),
    ("quit", { terminal := true })]

/-- A host starts a flow and answers its first two questions. -/
def twoAnswers : List (Action Unit) :=
  [.start default,
    .send default ((Event.ofKind Pod.submit).withField Pod.answerKey (.str "Ada")),
    .send default ((Event.ofKind Pod.submit).withField Pod.answerKey (.str "blue"))]

/-- The third pod is left backwards. -/
def goingBack : Event :=
  .ofKind Pod.goBack

/-- The third pod is left backwards with another answer to the first question. -/
def goingBackRenamed : Event :=
  (goingBack.withField Pod.questionKey (.str "name")).withField Pod.answerKey (.str "Bob")

/-- The answer to the first of three questions survives that the third one is left
backwards. -/
theorem survives_iff_of_threeQuestions :
    ∃ first flow : Flow Unit, ∃ turn,
      Flow.create hostId (threeQuestions (questionPod "size")) ∅ = .ok first ∧
        Flow.run twoAnswers first = some flow ∧
        Flow.send default goingBack flow = some turn ∧
        turn.next.answers.get? "name" = some (.str "Ada") ∧
        turn.next.owners.get? "name" = some (.ofNat 0) := by
  obtain ⟨first, flow, created, reached, passed⟩ :=
    exists_run_of_check hostId (threeQuestions (questionPod "size")) ∅ twoAnswers
      (fun _ flow => decide (flow.machine.status = .running) && decide (flow.progress = 2) &&
        decide (flow.answers.get? "name" = some (.str "Ada")) &&
        decide (flow.owners.get? "name" = some (.ofNat 0)) &&
        decide (flow.movesOf (.send default goingBack) = [.retreat]) &&
        (Flow.send default goingBack flow).any fun turn : Turn (Flow Unit) Unit Outcome =>
          decide (turn.next.progress = 1))
      (by decide +kernel)
  simp only [Bool.and_eq_true, decide_eq_true_eq, Option.any_eq_true] at passed
  obtain ⟨⟨⟨⟨⟨running, progress⟩, answered⟩, owned⟩, moves⟩, turn, returned, next⟩ := passed
  have survives := survives_iff_of_send created reached running (by decide) returned
    (by omega) answered owned (by omega)
  refine ⟨first, flow, turn, created, reached, returned, survives.2 ⟨?_, ?_⟩⟩
  · simp [moves]
  · intro index pod lower upper found
    obtain rfl | rfl : index = 1 ∨ index = 2 := by omega
    · cases found
      decide +kernel
    · cases found
      decide +kernel

/-- If an event makes a flow step back after two answers, it keeps every answer of a pod
before the new progress. -/
def KeepsEarlier (pods : List Definition) (event : Event) : Prop :=
  ∀ (first flow : Flow Unit) (turn : Turn (Flow Unit) Unit Outcome) (name : String)
    (answer : Json) (owner : Nat),
    Flow.create hostId pods ∅ = .ok first → Flow.run twoAnswers first = some flow →
    flow.machine.status = .running → event.kind ≠ startFreshEvent →
    Flow.send default event flow = some turn → turn.next.progress < flow.progress →
    flow.answers.get? name = some answer → flow.owners.get? name = some (.ofNat owner) →
    owner < turn.next.progress →
    turn.next.answers.get? name = some answer ∧
      turn.next.owners.get? name = some (.ofNat owner)

/-- A flow forgets a name when an event makes it step back from the third pod. -/
def forgetsName (event : Event) (flow : Flow Unit) : Bool :=
  decide (flow.machine.status = .running) && decide (flow.progress = 2) &&
    decide (flow.answers.get? "name" = some (.str "Ada")) &&
    decide (flow.owners.get? "name" = some (.ofNat 0)) &&
    (Flow.send default event flow).any fun turn : Turn (Flow Unit) Unit Outcome =>
      decide (turn.next.progress = 1) && (turn.next.answers.get? "name").isNone

theorem not_keepsEarlier_of_check
    {pods : List Definition}
    {event : Event}
    (other : event.kind ≠ startFreshEvent)
    (checked : (Flow.create hostId pods ∅).toOption.any
      (fun first => (Flow.run twoAnswers first).any (forgetsName event)) = true) :
    ¬KeepsEarlier pods event := by
  intro keeps
  obtain ⟨first, flow, created, reached, passed⟩ :=
    exists_run_of_check hostId pods ∅ twoAnswers (fun _ => forgetsName event) checked
  simp only [forgetsName, Bool.and_eq_true, decide_eq_true_eq, Option.any_eq_true,
    Option.isNone_iff_eq_none] at passed
  obtain ⟨⟨⟨⟨running, progress⟩, answered⟩, owned⟩, turn, returned, next, gone⟩ := passed
  have kept := keeps first flow turn "name" (.str "Ada") 0 created reached running other
    returned (by omega) answered owned (by omega)
  cases gone.symm.trans kept.1

/-- An answer is lost if a pod that is unwound has a question of its name, and also if the
pod that is left has answered under its name. -/
theorem not_keepsEarlier_of_name :
    ¬KeepsEarlier (threeQuestions (questionPod "name")) goingBack ∧
      ¬KeepsEarlier (threeQuestions parting) goingBackRenamed :=
  ⟨not_keepsEarlier_of_check (by decide) (by decide +kernel),
    not_keepsEarlier_of_check (by decide) (by decide +kernel)⟩

end Flow
end Questionnaire
