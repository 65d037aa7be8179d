import Questionnaire.Proofs.Discovery.Run
import Questionnaire.Proofs.Discovery.SignIn

/-!
# Signing in on a journey

While a journey is loading, its events go to a machine of its own that establishes the
user.  Another machine that was started by itself and is sent the same events gives the same
answers, and both end with the same event; the journey then welcomes the user with whom that
machine ended.  Only an error stands apart, which the journey keeps to itself.
-/

namespace Questionnaire
namespace Discovery

open EstablishUser (userOf)

variable {κ : Type} {pods : List Definition} {journey : Discovery} {machine : Instance κ}
  {child : Instance Unit} {seed : Fields} {step : EstablishUser.Step} {event : Event}

/-- A journey gives the answers that a machine that establishes the user gives to the same
events.  It is loading until the machine ends, and with the same event it welcomes the user
that the machine has as its output. -/
def Alongside : List (Timestamp × Event) → Instance κ → Discovery → Prop
  | [], _, journey => journey.phase = .loading
  | (now, event) :: rest, machine, journey =>
    journey.phase = .loading ∧
      ∀ later, ∃ next,
        Discovery.send later event journey =
            some ⟨next, (machine.dispatch now event).result, []⟩ ∧
          if (machine.dispatch now event).next.isDone then
            next.phase = .welcome ∧ next.user = (machine.dispatch now event).next.output
          else Alongside rest (machine.dispatch now event).next next

/-! ## Two machines at the same step -/

/-- A journey that is loading, whose child is at a step. -/
structure SigningIn (pods : List Definition) (step : EstablishUser.Step) (child : Instance Unit)
    (journey : Discovery) : Prop where
  stands : Standing pods .loading journey
  filled : journey.establish = ⟨some ⟨child, ⟨0⟩⟩⟩
  keeps : EstablishUser.Keeps ∅ step child

theorem keeps_newcomer (id : InstanceId) :
    EstablishUser.Keeps ∅ .loading (newcomer id) where
  sound := (establishing_newcomer id).sound
  definition := rfl
  current := rfl
  begun := by simp [newcomer]
  done := by simp [newcomer]
  context := fun _ => rfl

/-- A journey that was started establishes the user from the first step. -/
theorem Unstarted.signingIn
    (unstarted : Unstarted pods journey)
    (now : Timestamp) :
    ∃ started child, Discovery.start now journey = some ⟨started, .ok (), []⟩ ∧
      SigningIn pods .loading child started := by
  obtain ⟨started, stands⟩ := unstarted.start now
  exact ⟨journey.loading, _, started, stands, rfl, keeps_newcomer _⟩

namespace SigningIn

theorem underway (signingIn : SigningIn pods step child journey) : step ≠ .complete := by
  have alive := signingIn.stands.establishing signingIn.filled
  intro ended
  have done := signingIn.keeps.done.2 ended
  rw [alive.running] at done
  cases done

/-- An event that is not an error is answered as the child's step has it. -/
theorem send
    (signingIn : SigningIn pods step child journey)
    (other : event.kind ≠ errorEvent)
    (now : Timestamp) :
    Discovery.send now event journey =
      some ⟨journey.hearingUser now (child.dispatch now event).next, step.reply event, []⟩ := by
  obtain ⟨stands, filled, keeps⟩ := signingIn
  obtain ⟨outcome, fine, sent⟩ :=
    stands.send_loading filled (stands.establishing filled) other now
  rw [(keeps.dispatch now event).1] at fine
  rw [sent, fine]

/-- An event that leads to another step than the last leaves the journey loading. -/
theorem onward
    (signingIn : SigningIn pods step child journey)
    (proceeds : step.next? event.kind ≠ some .complete)
    (now : Timestamp) :
    let next := (child.dispatch now event).next
    SigningIn pods ((step.next? event.kind).getD step) next (journey.hearingUser now next) := by
  intro next
  have alive := signingIn.stands.establishing signingIn.filled
  obtain ⟨_, keeps, _⟩ := signingIn.keeps.dispatch now event
  have silent : next.output = none := by
    apply keeps.sound.silent_of_running
    apply keeps.running
    cases leads : step.next? event.kind with
    | none => exact signingIn.underway
    | some target => exact fun ended => proceeds (leads.trans (congrArg some ended))
  have stands : Standing pods (next.output.elim .loading fun _ => .welcome)
      (journey.hearingUser now next) :=
    signingIn.stands.hears_user alive now event
  rw [silent] at stands
  refine ⟨stands, ?_, keeps⟩
  rw [hearingUser, silent]

/-- With the event that leads to the last step, the journey welcomes its user. -/
theorem completes
    (signingIn : SigningIn pods step child journey)
    (completes : step.next? event.kind = some .complete)
    (now : Timestamp) :
    let next := (child.dispatch now event).next
    (journey.hearingUser now next).phase = .welcome ∧
      (journey.hearingUser now next).user = some (userOf event) := by
  intro next
  have alive := signingIn.stands.establishing signingIn.filled
  have output : next.output = some (userOf event) :=
    (signingIn.keeps.dispatch now event).2.2 completes
  have stands : Standing pods (next.output.elim .loading fun _ => .welcome)
      (journey.hearingUser now next) :=
    signingIn.stands.hears_user alive now event
  rw [output] at stands
  refine ⟨stands.phase_eq, ?_⟩
  rw [hearingUser, output]
  show (journey.machine.context.merge (.singleton userKey (userOf event))).get? userKey = _
  rw [KeyMap.get?_merge, KeyMap.get?_singleton, if_pos rfl, Option.some_or]

end SigningIn

/-- A journey goes alongside a machine that is at the step of its child. -/
theorem SigningIn.alongside
    {events : List (Timestamp × Event)}
    (signingIn : SigningIn pods step child journey)
    (keeps : EstablishUser.Keeps seed step machine)
    (others : ∀ heard ∈ events, heard.2.kind ≠ errorEvent) :
    Alongside events machine journey := by
  induction events generalizing step machine child journey with
  | nil => exact signingIn.stands.phase_eq
  | cons first rest ih =>
    obtain ⟨now, event⟩ := first
    obtain ⟨other, others⟩ := List.forall_mem_cons.1 others
    obtain ⟨answer, next, output⟩ := keeps.dispatch now event
    refine ⟨signingIn.stands.phase_eq, fun later =>
      ⟨journey.hearingUser later (child.dispatch later event).next, ?_, ?_⟩⟩
    · rw [answer]
      exact signingIn.send other later
    · by_cases completes : step.next? event.kind = some .complete
      · have done : (machine.dispatch now event).next.isDone = true := by
          rw [next.isDone_iff, completes, Option.getD_some]
        rw [if_pos done, output completes]
        exact signingIn.completes completes later
      · have goesOn := signingIn.onward completes later
        have notDone : ¬(machine.dispatch now event).next.isDone = true := by
          rw [next.isDone_iff]
          exact goesOn.underway
        rw [if_neg notDone]
        exact ih goesOn next others

/-- A machine that establishes the user accepts exactly its language, and a journey that was
started and is sent the same events goes alongside. -/
theorem signs_in_exactly
    {id journeyId : InstanceId}
    {answers : Fields}
    (created : Instance.create id EstablishUser.definition EstablishUser.effects seed =
      .ok machine)
    (built : Discovery.create journeyId pods answers = .ok journey)
    (events : List (Timestamp × Event)) :
    EstablishUser.Speaks seed (Instance.accepted events machine.start.next)
        (Instance.hearing events machine.start.next) ∧
      ((∀ heard ∈ events, heard.2.kind ≠ errorEvent) →
        ∀ now, ∃ started, Discovery.start now journey = some ⟨started, .ok (), []⟩ ∧
          Alongside events machine.start.next started) := by
  refine ⟨EstablishUser.speaks_of_create created events, fun others now => ?_⟩
  obtain ⟨started, child, returned, signingIn⟩ :=
    (unstarted_of_create built).1.signingIn now
  exact ⟨started, returned,
    signingIn.alongside (EstablishUser.keeps_of_create created) others⟩

/-- The events of a user who signs in at the third attempt, among others that only a journey
knows, and one that comes too late. -/
def thirdAttempt : List (Timestamp × Event) :=
  [(default, .ofKind "NOT_FOUND"),
    (default, .ofKind continueEvent),
    (default, .ofKind "HAS_ACCOUNT"),
    (default, .ofKind "SIGN_IN_FAIL"),
    (default, (Event.ofKind userEstablishedEvent).withField userKey (.str "Eve")),
    (default, .ofKind "SIGN_IN_FAIL"),
    (default, (Event.ofKind "SIGN_IN_SUCCESS").withField userKey (.str "Grace")),
    (default, .ofKind "LOADED")]

/-- The journey of that user is alongside, up to the welcome. -/
theorem signs_in_exactly_of_thirdAttempt :
    ∃ (machine : Instance Unit) (journey : Discovery),
      Instance.create Flow.hostId EstablishUser.definition EstablishUser.effects ∅ =
          .ok machine ∧
        Discovery.create Flow.hostId [Flow.questionPod "name"] ∅ = .ok journey ∧
        (Instance.accepted thirdAttempt machine.start.next).map Event.kind =
          ["NOT_FOUND", "HAS_ACCOUNT", "SIGN_IN_FAIL", "SIGN_IN_FAIL", "SIGN_IN_SUCCESS"] ∧
        (Instance.hearing thirdAttempt machine.start.next).output = some (.str "Grace") ∧
        EstablishUser.Speaks ∅ (Instance.accepted thirdAttempt machine.start.next)
          (Instance.hearing thirdAttempt machine.start.next) ∧
        ∃ started, Discovery.start default journey = some ⟨started, .ok (), []⟩ ∧
          Alongside thirdAttempt machine.start.next started := by
  have created := EstablishUser.create_eq_ok (κ := Unit) Flow.hostId ∅
  obtain ⟨journey, _, built, _⟩ :=
    exists_run_of_check Flow.hostId [Flow.questionPod "name"] ∅ [] (fun _ => true)
      (by decide +kernel)
  obtain ⟨speaks, journeys⟩ := signs_in_exactly created built thirdAttempt
  have others : ∀ heard ∈ thirdAttempt, heard.2.kind ≠ errorEvent := by decide +kernel
  exact ⟨_, journey, created, built, by decide +kernel, by decide +kernel, speaks,
    journeys others default⟩

end Discovery
end Questionnaire
