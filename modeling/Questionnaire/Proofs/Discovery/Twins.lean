import Questionnaire.Proofs.Discovery.Run
import Questionnaire.Proofs.Flow.Twins

/-!
# Journeys that cannot be told apart

Two journeys over the same pods that have left the welcome for the same phase, with the
same context and with question flows that are twins, go on in lockstep.  They differ in
the identities of their machines and flows, and in the times of what they recorded.
-/

namespace Questionnaire

/-- What is missing on both sides or on neither is so also once it is mapped. -/
theorem rel_map
    {α β γ δ : Type}
    {strong : α → β → Prop}
    {weak : γ → δ → Prop}
    {first? : Option α}
    {second? : Option β}
    {f : α → γ}
    {g : β → δ}
    (related : Option.Rel strong first? second?)
    (maps : ∀ first second, first? = some first → second? = some second →
      strong first second → weak (f first) (g second)) :
    Option.Rel weak (first?.map f) (second?.map g) := by
  cases related with
  | none => exact .none
  | some both => exact .some (maps _ _ rfl rfl both)

/-- What is the same of all that is related is the same of what is there, if it is. -/
theorem map_eq_of_rel
    {α β γ : Type}
    {relation : α → β → Prop}
    {first? : Option α}
    {second? : Option β}
    {f : α → γ}
    {g : β → γ}
    (related : Option.Rel relation first? second?)
    (same : ∀ first second, relation first second → f first = g second) :
    first?.map f = second?.map g := by
  cases related with
  | none => rfl
  | some both => exact congrArg some (same _ _ both)

namespace Discovery

variable {pods : List Definition} {phase : Phase} {left right : Discovery}
  {now later : Timestamp}

/-! ## Observations -/

/-- Two journeys look alike if all that can be seen of them is the same, their identities
and their histories apart. -/
structure LooksLike (left right : Discovery) : Prop where
  phase : left.phase = right.phase
  user : left.user = right.user
  answers : left.answers = right.answers
  error : left.error = right.error
  isDone : left.isDone = right.isDone
  output : left.output = right.output
  snapshot : left.snapshot = right.snapshot
  flow : left.questions.child?.map Flow.snapshot = right.questions.child?.map Flow.snapshot
  progress : left.questions.child?.map Flow.progress = right.questions.child?.map Flow.progress
  question : left.questions.child?.map (fun flow => flow.question?.map Instance.snapshot) =
    right.questions.child?.map fun flow => flow.question?.map Instance.snapshot

/-- Two journeys stay alike through events, each of which they get at times of their own:
they look alike, and give each event the same answer, or both never return from it. -/
def StayAlike : List (Event × Timestamp × Timestamp) → Discovery → Discovery → Prop
  | [], left, right => LooksLike left right
  | (event, now, later) :: rest, left, right =>
    LooksLike left right ∧
      Option.Rel
        (fun first second =>
          first.result = second.result ∧ StayAlike rest first.next second.next)
        (Discovery.send now event left) (Discovery.send later event right)

/-- In a phase, what can be seen of the machine of a journey is up to its context. -/
theorem Keeps.snapshot_eq
    {first second : Instance Empty}
    (keeps : Keeps phase first)
    (keepsToo : Keeps phase second)
    (context : first.context = second.context) :
    first.snapshot = second.snapshot := by
  have done : first.isDone = second.isDone := by
    simp only [Instance.isDone, keeps.final, keepsToo.final]
  have current : first.current = second.current :=
    keeps.current.trans keepsToo.current.symm
  have definition : first.definition = second.definition :=
    keeps.definition.trans keepsToo.definition.symm
  have node : first.node? = second.node? := by
    rw [Instance.node?, Instance.node?, definition, current]
  have output : first.output = second.output := by
    rw [keeps.sound.output, keepsToo.sound.output, done, Instance.builtOutput,
      Instance.builtOutput, node, context]
  simp only [Instance.snapshot, Instance.presentation, Instance.nextEvents, definition, current,
    context, node, done, output]

/-! ## Twins -/

/-- Two journeys that have left the welcome for the same phase, with the same context, and
whose question flows, if they have any, are twins. -/
structure Twins
    (pods : List Definition)
    (phase : Phase)
    (left right : Discovery) : Prop where
  stands : Standing pods phase left
  standsToo : Standing pods phase right
  notLoading : phase ≠ .loading
  notWelcome : phase ≠ .welcome
  context : left.machine.context = right.machine.context
  flows : Option.Rel (Flow.Twins pods) left.questions.child? right.questions.child?

/-- The turns of journeys that answer alike and leave twins. -/
structure Agree
    (pods : List Definition)
    (first second : Turn Discovery Empty Outcome) : Prop where
  result : first.result = second.result
  twins : ∃ phase, Twins pods phase first.next second.next

theorem Twins.looksLike (twins : Twins pods phase left right) : LooksLike left right where
  phase := twins.stands.phase_eq.trans twins.standsToo.phase_eq.symm
  user := by rw [user, user, twins.context]
  answers := by rw [answers, answers, twins.context]
  error := by rw [error, error, twins.context]
  isDone := twins.stands.isDone_eq.trans twins.standsToo.isDone_eq.symm
  output := congrArg Snapshot.output
    (twins.stands.keeps.snapshot_eq twins.standsToo.keeps twins.context)
  snapshot := twins.stands.keeps.snapshot_eq twins.standsToo.keeps twins.context
  flow := map_eq_of_rel twins.flows fun _ _ flows => flows.snapshot_eq
  progress := map_eq_of_rel twins.flows fun _ _ flows => flows.progress_eq
  question := map_eq_of_rel twins.flows fun _ _ flows => flows.question_snapshot_eq

/-! ## Hearing of the question flow -/

/-- A journey that heard of its question flow is past the welcome. -/
theorem Phase.ne_of_hearing (output : Option Json) :
    let phase : Phase := output.elim .questions fun _ => .submitting
    phase ≠ .loading ∧ phase ≠ .welcome := by
  cases output with
  | none => simp
  | some answers => simp

/-- Journeys with the same context that hear of twin flows are twins. -/
theorem twins_hearing
    {inner other : Flow Unit}
    (stands : Standing pods (inner.output.elim .questions fun _ => .submitting)
      (left.hearingAnswers now inner))
    (standsToo : Standing pods (other.output.elim .questions fun _ => .submitting)
      (right.hearingAnswers later other))
    (context : left.machine.context = right.machine.context)
    (flows : Flow.Twins pods inner other) :
    ∃ phase, Twins pods phase (left.hearingAnswers now inner)
      (right.hearingAnswers later other) := by
  have same := flows.output_eq
  have past := Phase.ne_of_hearing inner.output
  rw [← same] at standsToo
  refine ⟨_, stands, standsToo, past.1, past.2, ?_, ?_⟩
  · unfold hearingAnswers
    rw [← same]
    cases inner.output with
    | none => exact context
    | some answers => exact congrArg (KeyMap.merge · _) context
  · unfold hearingAnswers
    rw [← same]
    cases inner.output with
    | none => exact .some flows
    | some answers => exact .none

/-- Journeys that leave the welcome with the same context answer alike, and are twins. -/
theorem agree_entering
    {event other : Event}
    {patch patchToo : Fields}
    (stands : Standing pods .welcome left)
    (standsToo : Standing pods .welcome right)
    (step : Phase.welcome.step? event = some (.questions, patch))
    (stepToo : Phase.welcome.step? other = some (.questions, patchToo))
    (context : left.machine.context.merge patch = right.machine.context.merge patchToo)
    (now later : Timestamp) :
    Option.Rel (Agree pods) (Discovery.send now event left)
      (Discovery.send later other right) := by
  have answers : (left.entering now event.kind patch).answers =
      (right.entering later other.kind patchToo).answers :=
    congrArg (Flow.fieldsOf · answersKey) context
  have unstarted := stands.unstarted_spawnedFlow now event.kind patch
    (.child left.machine.id left.spawned)
  have unstartedToo := standsToo.unstarted_spawnedFlow later other.kind patchToo
    (.child right.machine.id right.spawned)
  simp only [← answers] at unstartedToo
  rw [stands.send_entering step, standsToo.send_entering stepToo]
  apply rel_map (unstarted.agree_start unstartedToo now later)
  intro started startedToo returned returnedToo agree
  exact ⟨rfl, twins_hearing (stands.hears_started step returned)
    (standsToo.hears_started stepToo returnedToo) context agree.twins⟩

/-! ## Events -/

theorem Twins.agree_questions
    (twins : Twins pods .questions left right)
    (now later : Timestamp)
    (event : Event) :
    Option.Rel (Agree pods) (Discovery.send now event left)
      (Discovery.send later event right) := by
  obtain ⟨flow, filled, _, alive⟩ := twins.stands.exists_flow
  obtain ⟨other, filledToo, _, aliveToo⟩ := twins.standsToo.exists_flow
  have flows : Flow.Twins pods flow other := by
    have related := twins.flows
    rw [filled, filledToo] at related
    cases related with
    | some flows => exact flows
  obtain ⟨board, rests⟩ := alive.rests
  rw [twins.stands.send_questions filled alive, twins.standsToo.send_questions filledToo aliveToo]
  apply rel_map (flows.agree_send rests.quiet now later event)
  intro answered answeredToo returned returnedToo agree
  exact ⟨agree.result, twins_hearing (twins.stands.hears_answered filled returned)
    (twins.standsToo.hears_answered filledToo returnedToo) twins.context agree.twins⟩

/-- Twins that end on the same event end with the same output. -/
theorem Twins.agree_ending
    {target : Phase}
    {patch : Fields}
    {event : Event}
    (twins : Twins pods phase left right)
    (notQuestions : phase ≠ .questions)
    (step : phase.step? event = some (target, patch))
    (final : target.IsFinal)
    (now later : Timestamp) :
    Option.Rel (Agree pods) (Discovery.send now event left)
      (Discovery.send later event right) := by
  have notChild (loading : phase = .loading) : event.kind = errorEvent :=
    absurd loading twins.notLoading
  have ends := twins.stands.ending step final now
  have endsToo := twins.standsToo.ending step final later
  have context : (left.ending now event.kind target patch).machine.context =
      (right.ending later event.kind target patch).machine.context :=
    congrArg (KeyMap.merge · patch) twins.context
  have output := congrArg Snapshot.output (ends.keeps.snapshot_eq endsToo.keeps context)
  have built : (entered now event.kind target patch left.machine).builtOutput =
      (entered later event.kind target patch right.machine).builtOutput :=
    Option.some.inj output
  rw [twins.stands.send_ending notChild notQuestions step final,
    twins.standsToo.send_ending notChild notQuestions step final, built]
  refine .some ⟨rfl, target, ends, endsToo, Phase.ne_loading_of_step step, ?_, context, .none⟩
  rintro rfl
  exact absurd final (by decide)

/-- Twins answer every event alike and stay twins, or neither of them returns. -/
theorem Twins.agree_send
    (twins : Twins pods phase left right)
    (now later : Timestamp)
    (event : Event) :
    Option.Rel (Agree pods) (Discovery.send now event left)
      (Discovery.send later event right) := by
  have notChild (loading : phase = .loading) : event.kind = errorEvent :=
    absurd loading twins.notLoading
  by_cases final : phase.IsFinal
  · rw [twins.stands.send_final final, twins.standsToo.send_final final]
    exact .some ⟨rfl, phase, twins⟩
  by_cases asked : phase = .questions
  · subst asked
    exact twins.agree_questions now later event
  rcases phase.step?_cases event notChild asked with
    unknown | ⟨target, patch, step, ends⟩ | ⟨welcome, _⟩
  · rw [twins.stands.send_ignored final notChild asked unknown,
      twins.standsToo.send_ignored final notChild asked unknown]
    exact .some ⟨rfl, phase, twins⟩
  · exact twins.agree_ending asked step ends now later
  · exact absurd welcome twins.notWelcome

/-- Twins stay alike through all events. -/
theorem Twins.stayAlike
    (twins : Twins pods phase left right)
    (events : List (Event × Timestamp × Timestamp)) :
    StayAlike events left right := by
  induction events generalizing phase left right with
  | nil => exact twins.looksLike
  | cons first others ih =>
    obtain ⟨event, now, later⟩ := first
    refine ⟨twins.looksLike, ?_⟩
    apply rel_imp (twins.agree_send now later event)
    intro first second _ agree
    obtain ⟨target, stillTwins⟩ := agree.twins
    exact ⟨agree.result, ih stillTwins⟩

end Discovery
end Questionnaire
