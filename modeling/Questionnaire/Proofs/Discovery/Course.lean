import Questionnaire.Proofs.Discovery.Legs

/-!
# The course of a journey

A journey goes from phase to phase on one of a few routes.  What it knows at its end was
brought by legs of its run: the user by the one on which it came to the welcome, and the
answers by the one on which it came to the submission.
-/

namespace Questionnaire
namespace Discovery

variable {pods : List Definition} {phase target : Phase} {patch : Fields}
  {journey next : Discovery} {now : Timestamp} {event : Event}

/-! ## Routes -/

/-- The ways that a journey can go. -/
def routes : List (List Phase) := [
  [.loading, .welcome, .questions, .submitting, .done],
  [.loading, .error],
  [.loading, .welcome, .questions, .submitting, .error]]

/-- The ways to a phase. -/
def Phase.trails : Phase → List (List Phase)
  | .loading => [[.loading]]
  | .welcome => [[.loading, .welcome]]
  | .questions => [[.loading, .welcome, .questions]]
  | .submitting => [[.loading, .welcome, .questions, .submitting]]
  | .done => [[.loading, .welcome, .questions, .submitting, .done]]
  | .error => [[.loading, .error], [.loading, .welcome, .questions, .submitting, .error]]

/-- A way to a phase begins a way that a journey can go, and ends with the phase. -/
theorem Phase.trails_spec
    {trail : List Phase}
    (member : trail ∈ phase.trails) :
    (∃ route ∈ routes, trail <+: route) ∧ trail.getLast? = some phase := by
  cases phase <;> simp only [trails, List.mem_cons, List.not_mem_nil, or_false] at member
  case error => rcases member with rfl | rfl <;> exact ⟨by decide, rfl⟩
  all_goals
    subst member
    exact ⟨by decide, rfl⟩

/-- A step leads from a way to one phase to a way to another. -/
theorem Phase.trails_step
    {trail : List Phase}
    (member : trail ∈ phase.trails)
    (step : phase.step? event = some (target, patch)) :
    trail ++ [target] ∈ target.trails := by
  cases Phase.steps_of_step? step
  all_goals
    simp only [trails, List.mem_cons, List.not_mem_nil, or_false] at member
    subst member
    decide

/-! ## What is behind a journey -/

/-- A field of the journey's machine was brought by a leg on which the journey came to a
phase. -/
def Brought
    (log : List Leg)
    (phase : Phase)
    (brings : Json → Leg → Prop)
    (key : String)
    (journey : Discovery) : Prop :=
  ∃ value, journey.machine.context.get? key = some value ∧
    ∃ leg ∈ log, leg.Reaches phase ∧ brings value leg

/-- What is behind a journey after the legs of `log`: the phases that it passed, and the
legs that brought what it knows. -/
structure Traced (log : List Leg) (journey : Discovery) : Prop where
  trail : ∃ trail ∈ journey.phase.trails, journey.visited = trail.map Phase.state
  user : journey.phase ∈ [.welcome, .questions, .submitting, .done] →
    Brought log .welcome Leg.Establishes userKey journey
  answers : journey.phase ∈ [.submitting, .done] →
    Brought log .submitting Leg.Concludes answersKey journey
  error : journey.phase = .error → Brought log .error Leg.Fails errorKey journey

section Tracing

variable {log : List Leg} {leg : Leg} {key : String} {value : Json}
  {brings : Json → Leg → Prop}

theorem Brought.keep
    (brought : Brought log phase brings key journey)
    (context : next.machine.context = journey.machine.context.merge patch)
    (absent : patch.get? key = none) :
    Brought log phase brings key next := by
  obtain ⟨value, field, legs⟩ := brought
  refine ⟨value, ?_, legs⟩
  rw [context, KeyMap.get?_merge, absent, field]
  rfl

theorem Brought.new
    (context : next.machine.context = journey.machine.context.merge (.singleton key value))
    (logged : leg ∈ log)
    (reaches : leg.Reaches phase)
    (bringing : brings value leg) :
    Brought log phase brings key next := by
  refine ⟨value, ?_, leg, logged, reaches, bringing⟩
  rw [context, KeyMap.get?_merge, KeyMap.get?_singleton, if_pos rfl]
  rfl

/-- Past the welcome no step puts another user over the context. -/
theorem Phase.get?_user_of_step
    (step : phase.step? event = some (target, patch))
    (notWelcome : target ≠ .welcome)
    (notError : target ≠ .error) :
    phase ∈ [.welcome, .questions, .submitting, .done] ∧ patch.get? userKey = none := by
  cases Phase.steps_of_step? step with
  | established => exact absurd rfl notWelcome
  | unknownUser => exact absurd rfl notError
  | refused => exact absurd rfl notError
  | freshStart => exact ⟨by decide, rfl⟩
  | continued => exact ⟨by decide, rfl⟩
  | answered => exact ⟨by decide, rfl⟩
  | submitted => exact ⟨by decide, rfl⟩

/-- The last step of a journey that is done puts nothing over the context. -/
theorem Phase.get?_answers_of_step
    (step : phase.step? event = some (.done, patch)) :
    phase ∈ [.submitting, .done] ∧ patch.get? answersKey = none := by
  cases Phase.steps_of_step? step
  exact ⟨by decide, rfl⟩

namespace Traced

theorem congr
    (traced : Traced log journey)
    (phase : next.phase = journey.phase)
    (visited : next.visited = journey.visited)
    (context : next.machine.context = journey.machine.context) :
    Traced log next := by
  constructor
  · rw [phase, visited]
    exact traced.trail
  · rw [phase, Brought, context]
    exact traced.user
  · rw [phase, Brought, context]
    exact traced.answers
  · rw [phase, Brought, context]
    exact traced.error

/-- A phase that lies ahead has not been visited. -/
theorem not_mem_visited
    (traced : Traced log journey)
    (ahead : ∀ trail ∈ journey.phase.trails, target ∉ trail) :
    target.state ∉ journey.visited := by
  obtain ⟨trail, member, visited⟩ := traced.trail
  rw [visited, List.mem_map]
  rintro ⟨known, passed, same⟩
  rw [Phase.state_inj.1 same] at passed
  exact ahead trail member passed

/-- A step adds a phase to the trail, and carries what the journey knows. -/
theorem arrive
    (traced : Traced log journey)
    (step : journey.phase.step? event = some (target, patch))
    (phase : next.phase = target)
    (visited : next.visited = journey.visited ++ [target.state])
    (context : next.machine.context = journey.machine.context.merge patch)
    (user : target = .welcome → Brought log .welcome Leg.Establishes userKey next)
    (answers : target = .submitting → Brought log .submitting Leg.Concludes answersKey next)
    (error : target = .error → Brought log .error Leg.Fails errorKey next) :
    Traced log next := by
  subst phase
  obtain ⟨trail, member, passed⟩ := traced.trail
  refine ⟨⟨trail ++ [next.phase], Phase.trails_step member step, ?_⟩, ?_, ?_, error⟩
  · rw [visited, passed, List.map_append, List.map_singleton]
  · intro past
    by_cases welcome : next.phase = .welcome
    · exact user welcome
    · have notError : next.phase ≠ .error := by
        intro failed
        rw [failed] at past
        exact absurd past (by decide)
      obtain ⟨known, absent⟩ := Phase.get?_user_of_step step welcome notError
      exact (traced.user known).keep context absent
  · intro past
    by_cases submitting : next.phase = .submitting
    · exact answers submitting
    · have done : next.phase = .done := by simpa [submitting] using past
      rw [done] at step
      obtain ⟨known, absent⟩ := Phase.get?_answers_of_step step
      exact (traced.answers known).keep context absent

end Traced
end Tracing

/-! ## One leg -/

section Sending

variable {log : List Leg} {turn : Turn Discovery Empty Outcome}

/-- With the output of the machine that establishes the user, a journey goes on. -/
theorem Traced.hearingUser
    {child : Instance Unit}
    (traced : Traced log journey)
    (loading : journey.phase = .loading)
    (brought : ∀ user, child.output = some user →
      ∃ leg ∈ log, leg.Reaches .welcome ∧ leg.Establishes user) :
    Traced log (journey.hearingUser now child) := by
  unfold Discovery.hearingUser
  cases output : child.output with
  | none => exact traced.congr rfl rfl rfl
  | some user =>
    obtain ⟨leg, logged, reaches, establishes⟩ := brought user output
    apply traced.arrive
    · rw [loading]
      exact step?_user user
    · exact phase_arriving ..
    · exact visited_arriving ..
    · rfl
    · intro _
      exact .new rfl logged reaches establishes
    · exact nofun
    · exact nofun

/-- With the output of its question flow, a journey goes on. -/
theorem Traced.hearingAnswers
    {flow : Flow Unit}
    (traced : Traced log journey)
    (asks : journey.phase = .questions)
    (brought : ∀ answers, flow.output = some answers →
      ∃ leg ∈ log, leg.Reaches .submitting ∧ leg.Concludes answers) :
    Traced log (journey.hearingAnswers now flow) := by
  unfold Discovery.hearingAnswers
  cases output : flow.output with
  | none => exact traced.congr rfl rfl rfl
  | some answers =>
    obtain ⟨leg, logged, reaches, concludes⟩ := brought answers output
    apply traced.arrive
    · rw [asks]
      exact step?_answers answers
    · exact phase_arriving ..
    · exact visited_arriving ..
    · rfl
    · exact nofun
    · intro _
      exact .new rfl logged reaches concludes
    · exact nofun

/-- The errors that end a journey are those it was told of. -/
theorem Phase.error_of_step
    (step : phase.step? event = some (.error, patch)) :
    event.kind = errorEvent ∧ patch = copied errorKey event ∧
      ∀ trail ∈ phase.trails, .error ∉ trail := by
  cases Phase.steps_of_step? step with
  | unknownUser kind => exact ⟨kind, rfl, by decide⟩
  | refused kind => exact ⟨kind, rfl, by decide⟩

/-- The trail of a journey goes on to the phase in which it ends. -/
theorem Traced.ending
    (traced : Traced log journey)
    (step : journey.phase.step? event = some (target, patch))
    (final : target.IsFinal)
    (logged : ⟨journey, .send now event, journey.ending now event.kind target patch⟩ ∈ log) :
    Traced log (journey.ending now event.kind target patch) := by
  have visited := visited_ending now event.kind target patch journey
  refine traced.arrive step (phase_arriving now event.kind target patch journey) visited rfl
    ?_ ?_ ?_
  · rintro rfl
    exact absurd final (by decide)
  · rintro rfl
    exact absurd final (by decide)
  · rintro rfl
    obtain ⟨kind, rfl, ahead⟩ := Phase.error_of_step step
    have arrived : Phase.error.state ∈
        (journey.ending now event.kind .error (copied errorKey event)).visited := by
      rw [visited]
      exact List.mem_append_right _ (List.mem_singleton_self _)
    exact .new rfl logged ⟨traced.not_mem_visited ahead, arrived⟩ ⟨now, event, rfl, kind, rfl⟩

/-- The trail of a journey goes on to the questions. -/
theorem Traced.entering
    (traced : Traced log journey)
    (step : journey.phase.step? event = some (.questions, patch))
    (now : Timestamp) :
    Traced log (journey.entering now event.kind patch) := by
  apply traced.arrive step
  · exact phase_arriving now event.kind .questions patch journey
  · exact visited_entering now event.kind patch journey
  · rfl
  · exact nofun
  · exact nofun
  · exact nofun

/-- The trail of a journey goes on over what the journey did with an event. -/
theorem Traced.sent
    (traced : Traced log journey)
    (stands : Standing pods phase journey)
    (sent : Sent now event journey phase turn)
    (logged : ⟨journey, .send now event, turn.next⟩ ∈ log) :
    Traced log turn.next := by
  have present := stands.phase_eq
  cases sent with
  | refused => exact traced
  | ignored => exact traced
  | ended step final =>
    rw [← present] at step
    exact traced.ending step final logged
  | established filled alive fine =>
    apply traced.hearingUser present
    intro user output
    refine ⟨_, logged, ⟨?_, ?_⟩, alive.establishes filled output⟩
    · apply traced.not_mem_visited
      rw [present]
      decide
    · simp [visited_hearingUser, output]
  | entered step returned =>
    -- Two phases may be entered on this leg, the second with the output of the new flow.
    have entering := traced.entering (present ▸ step) now
    apply entering.hearingAnswers (phase_arriving ..)
    intro answers output
    refine ⟨_, logged, ⟨?_, ?_⟩, stands.concludes step returned output⟩
    · apply traced.not_mem_visited
      rw [present]
      decide
    · simp [visited_hearingAnswers, output]
  | asked filled returned fine =>
    have alive := stands.questioning filled
    apply traced.hearingAnswers present
    intro answers output
    refine ⟨_, logged, ⟨?_, ?_⟩, alive.concludes filled returned output⟩
    · apply traced.not_mem_visited
      rw [present]
      decide
    · simp [visited_hearingAnswers, output]

end Sending

/-! ## Runs -/

/-- A journey that was just built has been in its first phase only. -/
theorem traced_of_create
    {id : InstanceId}
    {answers : Fields}
    (log : List Leg)
    (created : Discovery.create id pods answers = .ok journey) :
    Traced log journey := by
  unfold Discovery.create at created
  obtain ⟨_, _, created⟩ := bind_eq_ok_iff.1 created
  obtain ⟨machine, machineEq, built⟩ := bind_eq_ok_iff.1 created
  cases built
  obtain ⟨_, transitions, _, rfl⟩ := Instance.create_eq_ok_iff.1 machineEq
  refine ⟨⟨[.loading], List.mem_singleton_self _, rfl⟩, ?_, ?_, ?_⟩
  · show Phase.loading ∈ _ → _
    exact fun past => absurd past (by decide)
  · show Phase.loading ∈ _ → _
    exact fun past => absurd past (by decide)
  · show Phase.loading = _ → _
    exact fun past => absurd past (by decide)

section Runs

variable {log : List Leg} {action : Action} {actions : List Action} {last : Discovery}

theorem legs_cons
    (returned : perform action journey = some next)
    (rest : List Action) :
    legs (action :: rest) journey = ⟨journey, action, next⟩ :: legs rest next := by
  rw [legs, returned]
  rfl

theorem AtRest.traced_perform
    (rest : AtRest pods journey)
    (traced : Traced log journey)
    (returned : Discovery.perform action journey = some next)
    (logged : ⟨journey, action, next⟩ ∈ log) :
    Traced log next := by
  cases action with
  | start now =>
    obtain ⟨turn, started, rfl⟩ := Option.map_eq_some_iff.1 returned
    cases rest with
    | unstarted unstarted =>
      obtain ⟨startedToo, _⟩ := unstarted.start now
      rw [startedToo] at started
      cases started
      exact traced.congr rfl rfl rfl
    | standing phase stands =>
      rw [start_of_begun stands.keeps.begun] at started
      cases started
      exact traced
  | send now event =>
    obtain ⟨turn, sent, rfl⟩ := Option.map_eq_some_iff.1 returned
    cases rest with
    | unstarted unstarted =>
      rw [unstarted.send] at sent
      cases sent
      exact traced
    | standing phase stands => exact traced.sent stands (stands.send_cases sent) logged

theorem AtRest.traced_run
    (rest : AtRest pods journey)
    (traced : Traced log journey)
    (returned : Discovery.run actions journey = some last)
    (logged : ∀ leg ∈ legs actions journey, leg ∈ log) :
    Traced log last := by
  induction actions generalizing journey with
  | nil =>
    cases returned
    exact traced
  | cons action actions ih =>
    obtain ⟨next, performed, later⟩ := Option.bind_eq_some_iff.1 returned
    rw [legs_cons performed, List.forall_mem_cons] at logged
    exact ih (rest.perform performed) (rest.traced_perform traced performed logged.1) later
      logged.2

/-- A leg on which the journey comes to the welcome or to the submission is one on which
the child ended that the journey waited for. -/
def Leg.IsEarned (leg : Leg) : Prop :=
  (leg.Reaches .welcome → ∃ user, leg.Establishes user) ∧
    (leg.Reaches .submitting → ∃ answers, leg.Concludes answers)

theorem AtRest.isEarned_perform
    (rest : AtRest pods journey)
    (returned : Discovery.perform action journey = some next) :
    Leg.IsEarned ⟨journey, action, next⟩ := by
  constructor
  · intro reaches
    obtain ⟨_, now, event, rfl, _, came⟩ := rest.came returned reaches
    exact came.establishes
  · intro reaches
    obtain ⟨_, now, event, rfl, stands, came⟩ := rest.came returned reaches
    exact came.concludes stands

theorem AtRest.isEarned_legs
    (rest : AtRest pods journey)
    (returned : Discovery.run actions journey = some last) :
    ∀ leg ∈ legs actions journey, leg.IsEarned := by
  induction actions generalizing journey with
  | nil => simp [legs]
  | cons action actions ih =>
    obtain ⟨next, performed, later⟩ := Option.bind_eq_some_iff.1 returned
    rw [legs_cons performed, List.forall_mem_cons]
    exact ⟨rest.isEarned_perform performed, ih (rest.perform performed) later⟩

end Runs

/-! ## The course -/

/-- What the legs of a run, `log`, say of the journey at its end. -/
structure Earned (log : List Leg) (last : Discovery) : Prop where
  course : ∃ route ∈ routes, last.visited <+: route.map Phase.state
  present : last.visited.getLast? = some last.phase.state
  legs : ∀ leg ∈ log, leg.IsEarned
  done : last.phase = .done → ∃ user answers,
    (∃ leg ∈ log, leg.Reaches .welcome ∧ leg.Establishes user) ∧
      (∃ leg ∈ log, leg.Reaches .submitting ∧ leg.Concludes answers) ∧
        last.output = some (.ofFields [(userKey, user), (answersKey, answers)])
  error : last.phase = .error → ∃ error,
    (∃ leg ∈ log, leg.Reaches .error ∧ leg.Fails error) ∧ last.output = some error

theorem AtRest.keeps
    (rest : AtRest pods journey)
    (begun : journey.phase ≠ .loading) :
    Keeps journey.phase journey.machine := by
  cases rest with
  | unstarted unstarted =>
    refine absurd ?_ begun
    rw [phase, unstarted.current, ofName?_state]
    rfl
  | standing phase stands =>
    rw [stands.phase_eq]
    exact stands.keeps

/-- A journey goes one of its ways, one phase after the other.  It comes to the welcome and
to the submission only on legs on which a child ended; when it is done, its output is the
user and the answers that these children had as their outputs, and when it has failed, its
output is the error that it was told of. -/
theorem earned_of_run
    {id : InstanceId}
    {answers : Fields}
    {actions : List Action}
    {first last : Discovery}
    (created : Discovery.create id pods answers = .ok first)
    (reached : Discovery.run actions first = some last) :
    Earned (legs actions first) last := by
  have rest : AtRest pods first := .unstarted (unstarted_of_create created).1
  -- The log is that of the whole run from the start, so that it need not grow on the way.
  have traced : Traced (legs actions first) last :=
    rest.traced_run (traced_of_create _ created) reached fun _ member => member
  have restLast := rest.run reached
  obtain ⟨trail, member, visited⟩ := traced.trail
  obtain ⟨⟨route, known, begins⟩, ends⟩ := Phase.trails_spec member
  constructor
  · rw [visited]
    exact ⟨route, known, begins.map Phase.state⟩
  · rw [visited, List.getLast?_map, ends]
    rfl
  · exact rest.isEarned_legs reached
  · intro done
    have keeps := restLast.keeps (by simp [done])
    rw [done] at keeps
    obtain ⟨user, userField, leg, logged, welcomes, establishes⟩ :=
      traced.user (by simp [done])
    obtain ⟨answers, answersField, later, loggedToo, submits, concludes⟩ :=
      traced.answers (by simp [done])
    exact ⟨user, answers, ⟨leg, logged, welcomes, establishes⟩,
      ⟨later, loggedToo, submits, concludes⟩, keeps.output_done userField answersField⟩
  · intro failed
    have keeps := restLast.keeps (by simp [failed])
    rw [failed] at keeps
    obtain ⟨error, errorField, leg, logged, reaches, fails⟩ := traced.error failed
    exact ⟨error, ⟨leg, logged, reaches, fails⟩, keeps.output_error errorField⟩

/-- A journey of a known user who answers one question, up to the end. -/
def wholeJourney : List Action :=
  untilQuestions ++ [.send default (.ofKind Pod.submit), .send default (.ofKind doneEvent)]

/-- A journey that is done has been earned, leg by leg. -/
theorem earned_of_wholeJourney :
    ∃ first last, Discovery.create Flow.hostId [Flow.questionPod "name"] ∅ = .ok first ∧
      Discovery.run wholeJourney first = some last ∧ last.phase = .done ∧
      Earned (legs wholeJourney first) last := by
  obtain ⟨first, last, created, reached, passed⟩ :=
    exists_run_of_check Flow.hostId [Flow.questionPod "name"] ∅ wholeJourney
      (fun last => decide (last.phase = .done)) (by decide +kernel)
  exact ⟨first, last, created, reached, of_decide_eq_true passed, earned_of_run created reached⟩

end Discovery
end Questionnaire
