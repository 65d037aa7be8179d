import Questionnaire.Proofs.Discovery.Twins

/-!
# Starting fresh

A journey that is told to start fresh when it welcomes the user cannot be told apart from a
journey that was built without answers, came to the welcome on the same events, and goes on
from there.  Nothing of the answers that the first one was built with shows in what it does
later.
-/

namespace Questionnaire
namespace Discovery

variable {pods : List Definition} {left right journey next : Discovery}
  {now later : Timestamp} {event : Event}

/-- The event that an action sends, if it sends one. -/
def Action.event? : Action → Option Event
  | .start _ => none
  | .send _ event => some event

/-! ## Contexts without answers -/

/-- A context and another one that has no answers, and all else in common with it. -/
structure Forgets (context blank : Fields) : Prop where
  others : ∀ key, key ≠ answersKey → context.get? key = blank.get? key
  cleared : blank.get? answersKey = some (.object ∅)

namespace Forgets

variable {context blank : Fields}

theorem merge
    {patch : Fields}
    (forgets : Forgets context blank)
    (silent : patch.get? answersKey = none) :
    Forgets (context.merge patch) (blank.merge patch) where
  others := by
    intro key other
    rw [KeyMap.get?_merge, KeyMap.get?_merge, forgets.others key other]
  cleared := by
    rw [KeyMap.get?_merge, silent, forgets.cleared]
    rfl

/-- Once the answers of the first context are cleared, nothing is left that differs. -/
theorem merge_cleared (forgets : Forgets context blank) :
    context.merge (.singleton answersKey (.obj [])) = blank.merge ∅ := by
  apply KeyMap.ext_get?
  intro key
  rw [KeyMap.get?_merge, KeyMap.get?_singleton, KeyMap.merge_empty]
  by_cases same : key = answersKey
  · rw [if_pos same, same, forgets.cleared]
    rfl
  · rw [if_neg same, forgets.others key same]
    rfl

end Forgets

/-! ## Past the welcome -/

/-- A journey that has left the welcome, or has failed before it came there. -/
def Past (pods : List Definition) (journey : Discovery) : Prop :=
  ∃ phase, Standing pods phase journey ∧ phase ≠ .loading ∧ phase ≠ .welcome

theorem past_ending
    {phase target : Phase}
    {patch : Fields}
    (stands : Standing pods phase journey)
    (step : phase.step? event = some (target, patch))
    (final : target.IsFinal)
    (now : Timestamp) :
    Past pods (journey.ending now event.kind target patch) := by
  refine ⟨target, stands.ending step final now, Phase.ne_loading_of_step step, ?_⟩
  rintro rfl
  exact absurd final (by decide)

/-- No action leads back to the welcome. -/
theorem Past.perform
    {action : Action}
    (past : Past pods journey)
    (returned : perform action journey = some next) :
    Past pods next := by
  obtain ⟨phase, stands, notLoading, notWelcome⟩ := past
  cases action with
  | start now =>
    obtain ⟨turn, started, rfl⟩ := Option.map_eq_some_iff.1 returned
    rw [start_of_begun stands.keeps.begun] at started
    cases started
    exact ⟨phase, stands, notLoading, notWelcome⟩
  | send now event =>
    obtain ⟨turn, sent, rfl⟩ := Option.map_eq_some_iff.1 returned
    cases stands.send_cases sent with
    | refused => exact ⟨phase, stands, notLoading, notWelcome⟩
    | ignored => exact ⟨phase, stands, notLoading, notWelcome⟩
    | ended step final => exact past_ending stands step final now
    | established => exact absurd rfl notLoading
    | entered => exact absurd rfl notWelcome
    | asked filled answered =>
      exact ⟨_, stands.hears_answered filled answered, Phase.ne_of_hearing _⟩

theorem Past.run
    {actions : List Action}
    (past : Past pods journey)
    (returned : Discovery.run actions journey = some next) :
    Past pods next := by
  induction actions generalizing journey with
  | nil =>
    cases returned
    exact past
  | cons action actions ih =>
    obtain ⟨middle, performed, later⟩ := Option.bind_eq_some_iff.1 returned
    exact ih (past.perform performed) later

theorem Past.phase_ne (past : Past pods journey) : journey.phase ≠ .welcome := by
  obtain ⟨phase, stands, _, notWelcome⟩ := past
  rwa [stands.phase_eq]

/-! ## Up to the welcome -/

/-- Two journeys that have not left the welcome and differ in nothing that counts but the
answers, of which the second one has none. -/
inductive Abreast (pods : List Definition) (left right : Discovery) : Prop
  | unstarted
      (unstarted : Unstarted pods left)
      (unstartedToo : Unstarted pods right)
      (forgets : Forgets left.machine.context right.machine.context)
  | loading
      {child other : Instance Unit}
      (stands : Standing pods .loading left)
      (standsToo : Standing pods .loading right)
      (filled : left.establish = ⟨some ⟨child, ⟨0⟩⟩⟩)
      (filledToo : right.establish = ⟨some ⟨other, ⟨0⟩⟩⟩)
      (children : Instance.Twins {} child other)
      (forgets : Forgets left.machine.context right.machine.context)
  | welcome
      (stands : Standing pods .welcome left)
      (standsToo : Standing pods .welcome right)
      (forgets : Forgets left.machine.context right.machine.context)

theorem twins_newcomer (id other : InstanceId) :
    Instance.Twins {} (newcomer id) (newcomer other) :=
  ⟨⟨rfl, rfl, rfl, rfl, rfl, rfl, .refl {}⟩, rfl⟩

theorem Abreast.start
    (abreast : Abreast pods left right)
    (now later : Timestamp) :
    ∃ first second, Discovery.start now left = some first ∧
      Discovery.start later right = some second ∧ Abreast pods first.next second.next := by
  cases abreast with
  | unstarted unstarted unstartedToo forgets =>
    obtain ⟨started, stands⟩ := unstarted.start now
    obtain ⟨startedToo, standsToo⟩ := unstartedToo.start later
    exact ⟨_, _, started, startedToo,
      .loading stands standsToo rfl rfl (twins_newcomer _ _) forgets⟩
  | loading stands standsToo filled filledToo children forgets =>
    exact ⟨_, _, start_of_begun stands.keeps.begun now,
      start_of_begun standsToo.keeps.begun later,
      .loading stands standsToo filled filledToo children forgets⟩
  | welcome stands standsToo forgets =>
    exact ⟨_, _, start_of_begun stands.keeps.begun now,
      start_of_begun standsToo.keeps.begun later, .welcome stands standsToo forgets⟩

/-- Journeys abreast hear the same of twin machines that establish the user. -/
theorem abreast_hearing
    {child other : Instance Unit}
    (stands : Standing pods (child.output.elim .loading fun _ => .welcome)
      (left.hearingUser now child))
    (standsToo : Standing pods (other.output.elim .loading fun _ => .welcome)
      (right.hearingUser later other))
    (children : Instance.Twins {} child other)
    (forgets : Forgets left.machine.context right.machine.context) :
    Abreast pods (left.hearingUser now child) (right.hearingUser later other) := by
  unfold hearingUser at stands standsToo ⊢
  rw [children.output] at standsToo ⊢
  cases output : child.output with
  | none =>
    rw [output] at stands standsToo
    exact .loading stands standsToo rfl rfl children forgets
  | some user =>
    rw [output] at stands standsToo
    have silent : (KeyMap.singleton userKey user).get? answersKey = none := rfl
    exact .welcome stands standsToo (forgets.merge silent)

theorem Abreast.send
    {first : Turn Discovery Empty Outcome}
    (abreast : Abreast pods left right)
    (returned : Discovery.send now event left = some first)
    (later : Timestamp) :
    Past pods first.next ∨
      ∃ second, Discovery.send later event right = some second ∧
        Abreast pods first.next second.next := by
  cases abreast with
  | unstarted unstarted unstartedToo forgets =>
    rw [unstarted.send] at returned
    cases returned
    exact .inr ⟨_, unstartedToo.send later event, .unstarted unstarted unstartedToo forgets⟩
  | @loading child other stands standsToo filled filledToo children forgets =>
    by_cases failed : event.kind = errorEvent
    · have step : Phase.loading.step? event = some (.error, copied errorKey event) :=
        if_pos failed
      have final : Phase.IsFinal .error := .inr rfl
      rw [stands.send_ending (fun _ => failed) (by decide) step final] at returned
      cases returned
      exact .inl (past_ending stands step final now)
    · have alive := stands.establishing filled
      have aliveToo := standsToo.establishing filledToo
      obtain ⟨outcome, _, sent⟩ := stands.send_loading filled alive failed now
      obtain ⟨_, _, sentToo⟩ := standsToo.send_loading filledToo aliveToo failed later
      rw [sent] at returned
      cases returned
      exact .inr ⟨_, sentToo, abreast_hearing (stands.hears_user alive now event)
        (standsToo.hears_user aliveToo later event) (children.dispatch now later event).next
        forgets⟩
  | welcome stands standsToo forgets =>
    have proper : ¬Phase.IsFinal .welcome := by decide
    have notChild (loading : Phase.welcome = .loading) : event.kind = errorEvent := by
      cases loading
    rcases Phase.welcome.step?_cases event notChild (by decide) with
      unknown | ⟨target, patch, step, final⟩ | ⟨_, patch, step⟩
    · rw [stands.send_ignored proper notChild (by decide) unknown] at returned
      cases returned
      exact .inr ⟨_, standsToo.send_ignored proper notChild (by decide) unknown later,
        .welcome stands standsToo forgets⟩
    · rw [stands.send_ending notChild (by decide) step final] at returned
      cases returned
      exact .inl (past_ending stands step final now)
    · rw [stands.send_entering step] at returned
      obtain ⟨started, flowReturned, rfl⟩ := Option.map_eq_some_iff.1 returned
      exact .inl ⟨_, stands.hears_started step flowReturned, Phase.ne_of_hearing _⟩

/-- Two journeys abreast do the same action: either the first one leaves the welcome, or
both are abreast afterwards. -/
theorem Abreast.perform
    {action other : Action}
    (abreast : Abreast pods left right)
    (same : action.event? = other.event?)
    (returned : Discovery.perform action left = some next) :
    Past pods next ∨
      ∃ twin, Discovery.perform other right = some twin ∧ Abreast pods next twin := by
  cases action with
  | start now =>
    cases other with
    | start later =>
      obtain ⟨first, second, started, startedToo, stays⟩ := abreast.start now later
      rw [Discovery.perform, started] at returned
      cases returned
      exact .inr ⟨second.next, by rw [Discovery.perform, startedToo]; rfl, stays⟩
    | send => cases same
  | send now event =>
    cases other with
    | start => cases same
    | send later sameEvent =>
      cases same
      obtain ⟨first, sent, rfl⟩ := Option.map_eq_some_iff.1 returned
      refine (abreast.send sent later).imp id ?_
      rintro ⟨second, sentToo, stays⟩
      exact ⟨second.next, by rw [Discovery.perform, sentToo]; rfl, stays⟩

/-- Two journeys abreast go on abreast, as long as the first one comes to the welcome. -/
theorem Abreast.run
    {actions others : List Action}
    (abreast : Abreast pods left right)
    (same : actions.map Action.event? = others.map Action.event?)
    (returned : Discovery.run actions left = some journey)
    (welcomes : journey.phase = .welcome) :
    ∃ twin, Discovery.run others right = some twin ∧ Abreast pods journey twin := by
  induction actions generalizing others left right with
  | nil =>
    cases returned
    cases others with
    | nil => exact ⟨right, rfl, abreast⟩
    | cons => cases same
  | cons action actions ih =>
    cases others with
    | nil => cases same
    | cons other others =>
      obtain ⟨sameEvent, sameRest⟩ := List.cons.inj same
      obtain ⟨next, performed, later⟩ := Option.bind_eq_some_iff.1 returned
      rcases abreast.perform sameEvent performed with past | ⟨twin, performedToo, stays⟩
      · exact absurd welcomes (past.run later).phase_ne
      · obtain ⟨last, returnedToo, lastAbreast⟩ := ih stays sameRest later
        exact ⟨last, by rw [Discovery.run, performedToo, Option.bind_some, returnedToo],
          lastAbreast⟩

/-- Journeys that are abreast in the welcome. -/
theorem Abreast.welcoming
    (abreast : Abreast pods left right)
    (welcomes : left.phase = .welcome) :
    Standing pods .welcome left ∧ Standing pods .welcome right ∧
      Forgets left.machine.context right.machine.context := by
  cases abreast with
  | unstarted unstarted =>
    rw [phase, unstarted.current, ofName?_state] at welcomes
    cases welcomes
  | loading stands =>
    rw [stands.phase_eq] at welcomes
    cases welcomes
  | welcome stands standsToo forgets => exact ⟨stands, standsToo, forgets⟩

/-! ## Starting fresh -/

theorem exists_create
    (usable : ∀ pod ∈ pods, Pod.Usable pod)
    (id : InstanceId)
    (answers : Fields) :
    ∃ journey, Discovery.create id pods answers = .ok journey := by
  obtain ⟨table, resolved⟩ := exists_resolve_definition
  have built : Instance.create id Discovery.definition effects
      (.singleton answersKey (.object answers)) =
        .ok (Instance.idle id Discovery.definition table
          (.singleton answersKey (.object answers)) : Instance Empty) :=
    Instance.create_eq_ok_iff.2 ⟨valid_definition, table, resolved, rfl⟩
  unfold Discovery.create
  dsimp only
  rw [Pod.checkAll_eq_ok_iff.2 usable, built]
  exact ⟨_, rfl⟩

/-- Whatever answers a journey was built with, once it was told to start fresh in the welcome
it stays like a journey over the same pods that was built without answers, came to the
welcome on the same events, and was told to go on. -/
theorem stayAlike_of_fresh_start
    {id : InstanceId}
    {answers : Fields}
    {actions others : List Action}
    {first : Discovery}
    (created : Discovery.create id pods answers = .ok first)
    (reached : Discovery.run actions first = some journey)
    (welcomes : journey.phase = .welcome)
    (same : actions.map Action.event? = others.map Action.event?)
    (otherId : InstanceId) :
    ∃ second twin, Discovery.create otherId pods ∅ = .ok second ∧
      Discovery.run others second = some twin ∧ twin.phase = .welcome ∧
      ∀ fresh onward now later events,
        fresh.kind = startFreshEvent → onward.kind = continueEvent →
          Option.Rel
            (fun started continued =>
              started.result = continued.result ∧
                StayAlike events started.next continued.next)
            (Discovery.send now fresh journey) (Discovery.send later onward twin) := by
  obtain ⟨unstarted, context⟩ := unstarted_of_create created
  obtain ⟨second, createdToo⟩ := exists_create unstarted.usable otherId ∅
  obtain ⟨unstartedToo, contextToo⟩ := unstarted_of_create createdToo
  have forgets : Forgets first.machine.context second.machine.context := by
    rw [context, contextToo]
    constructor
    · intro key other
      rw [KeyMap.get?_singleton, KeyMap.get?_singleton, if_neg other, if_neg other]
    · rw [KeyMap.get?_singleton, if_pos rfl]
  have abreast : Abreast pods first second := .unstarted unstarted unstartedToo forgets
  obtain ⟨twin, reachedToo, stays⟩ := abreast.run same reached welcomes
  obtain ⟨stands, standsToo, forgets⟩ := stays.welcoming welcomes
  refine ⟨second, twin, createdToo, reachedToo, standsToo.phase_eq, ?_⟩
  intro fresh onward now later events freshly continues
  have step : Phase.welcome.step? fresh = some (.questions, .singleton answersKey (.obj [])) :=
    if_pos freshly
  have stepToo : Phase.welcome.step? onward = some (.questions, ∅) := by
    have other : onward.kind ≠ startFreshEvent := by
      rw [continues]
      decide
    exact (if_neg other).trans (if_pos continues)
  apply rel_imp (agree_entering stands standsToo step stepToo forgets.merge_cleared now later)
  intro started continued _ agree
  obtain ⟨phase, twins⟩ := agree.twins
  exact ⟨agree.result, twins.stayAlike events⟩

/-- A colour from an earlier session, of which a journey that starts fresh knows nothing. -/
theorem stayAlike_of_forgotten_colour :
    let pods := [Flow.questionPod "name", Flow.questionPod "colour"]
    let actions : List Action := [.start default, .send default (.ofKind "LOADED")]
    ∃ first journey,
      Discovery.create Flow.hostId pods (.singleton "colour" (.str "red")) = .ok first ∧
      Discovery.run actions first = some journey ∧ journey.phase = .welcome ∧
      journey.answers.get? "colour" = some (.str "red") ∧
      ∃ second twin, Discovery.create Flow.hostId pods ∅ = .ok second ∧
        Discovery.run actions second = some twin ∧
        Option.Rel
          (fun started continued =>
            started.result = continued.result ∧
              StayAlike
                [(.ofKind Pod.submit, default, default), (.ofKind Pod.goBack, default, default)]
                started.next continued.next)
          (Discovery.send default (.ofKind startFreshEvent) journey)
          (Discovery.send default (.ofKind continueEvent) twin) := by
  intro pods actions
  obtain ⟨first, journey, created, reached, passed⟩ :=
    exists_run_of_check Flow.hostId pods (.singleton "colour" (.str "red")) actions
      (fun journey => decide (journey.phase = .welcome ∧
        journey.answers.get? "colour" = some (.str "red"))) (by decide +kernel)
  obtain ⟨welcomes, colour⟩ := of_decide_eq_true passed
  obtain ⟨second, twin, createdToo, reachedToo, _, alike⟩ :=
    stayAlike_of_fresh_start created reached welcomes rfl Flow.hostId
  exact ⟨first, journey, created, reached, welcomes, colour, second, twin, createdToo, reachedToo,
    alike _ _ _ _ _ rfl rfl⟩

end Discovery
end Questionnaire
