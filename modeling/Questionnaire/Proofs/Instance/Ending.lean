import Questionnaire.Proofs.Instance.Run

/-!
# The end of an instance

An instance ends on at most one call: when it is started in a terminal state, or when a
transition leads it into one.  On that call it tells its subscribers of its output, after
the notifications of the transition.  Afterwards it is as it ended, tells nothing, and
refuses every event.
-/

namespace Questionnaire
namespace Instance

variable {κ : Type} {definition : Definition} {effects : EffectTable} {given : Option Fields}
  {machine ended : Instance κ} {action : Action κ}

/-! ## Legs -/

/-- A call of a run: the instance before it, and what was done with it. -/
structure Leg (κ : Type) where
  before : Instance κ
  action : Action κ

/-- The calls of a run, in order. -/
def legs : List (Action κ) → Instance κ → List (Leg κ)
  | [], _ => []
  | action :: rest, machine => ⟨machine, action⟩ :: legs rest (perform action machine)

theorem legs_append (earlier later : List (Action κ)) (machine : Instance κ) :
    legs (earlier ++ later) machine =
      legs earlier machine ++ legs later (run earlier machine) := by
  induction earlier generalizing machine with
  | nil => rfl
  | cons action earlier ih =>
    rw [List.cons_append, legs, ih, legs, List.cons_append]
    rfl

/-- An instance has ended, and is as it ended but for its subscribers. -/
structure Remains (ended machine : Instance κ) : Prop where
  done : machine.status = .done
  definition : machine.definition = ended.definition
  current : machine.current = ended.current
  context : machine.context = ended.context
  output : machine.output = ended.output
  history : machine.history = ended.history

namespace Leg

/-- The instance after the call. -/
def after (leg : Leg κ) : Instance κ :=
  perform leg.action leg.before

/-- What is sent on the call. -/
def sent (leg : Leg κ) : List (Delivery κ) :=
  match leg.action with
  | .start => leg.before.start.sent
  | .dispatch now event => (leg.before.dispatch now event).sent
  | .subscribe _ => []
  | .unsubscribe _ => []

/-- The answer to the event, if the call sends one. -/
def answer? (leg : Leg κ) : Option (Except DispatchError Outcome) :=
  match leg.action with
  | .start => none
  | .dispatch now event => some (leg.before.dispatch now event).result
  | .subscribe _ => none
  | .unsubscribe _ => none

/-- The notices of the transition that the instance makes on the call, if it makes one. -/
def noticed (leg : Leg κ) : List Event :=
  match leg.action with
  | .dispatch _ event =>
    if leg.before.status = .running then
      (leg.before.transition? event.kind).elim [] fun transition =>
        transition.notices (leg.before.input event)
    else []
  | _ => []

/-- What the subscribers are told of the notices. -/
def notices (leg : Leg κ) : List (Delivery κ) :=
  leg.before.broadcast (leg.noticed.map .notify)

/-- The state that the call leads into, if any: the initial one on the first start, or the
one that the transition on the event is declared to lead to. -/
def entered? (leg : Leg κ) : Option String :=
  match leg.action with
  | .start => if leg.before.status = .idle then some leg.before.current else none
  | .dispatch _ event =>
    if leg.before.status = .running then
      (leg.before.definition.transition? leg.before.current event.kind).bind Transition.target
    else none
  | .subscribe _ => none
  | .unsubscribe _ => none

section Dispatching

variable (machine : Instance κ) (now : Timestamp) (event : Event)

theorem after_dispatch :
    (⟨machine, .dispatch now event⟩ : Leg κ).after = (machine.dispatch now event).next := rfl

theorem sent_dispatch :
    (⟨machine, .dispatch now event⟩ : Leg κ).sent = (machine.dispatch now event).sent := rfl

theorem answer?_dispatch :
    (⟨machine, .dispatch now event⟩ : Leg κ).answer? =
      some (machine.dispatch now event).result := rfl

end Dispatching

/-- The instance enters no terminal state on the call, and tells nothing but the notices. -/
structure Continues (leg : Leg κ) : Prop where
  enters : ∀ state, leg.entered? = some state → leg.before.definition.isTerminal state = false
  goesOn : leg.after.status ≠ .done
  told : leg.sent = leg.notices
  news : ∀ delivery ∈ leg.notices, ∃ notice, delivery.envelope.signal = .notify notice

/-- The instance enters a terminal state on the call and ends there with `output`, of which
it tells every subscriber last; the answer, if an event led there, tells the same. -/
structure Ends (output : Json) (leg : Leg κ) : Prop where
  enters : leg.entered? = some leg.after.current
  terminal : leg.before.definition.isTerminal leg.after.current = true
  done : leg.after.status = .done
  outputs : leg.after.output = some output
  told : leg.sent = leg.notices ++ leg.after.broadcast [.done output]
  news : ∀ delivery ∈ leg.notices, ∃ notice, delivery.envelope.signal = .notify notice
  answers : ∀ answer, leg.answer? = some answer →
    answer = .ok (.terminated leg.after.current output)

/-- Nothing is told on the call, after which the instance is as it ended, and an event is
refused with the name of the machine and the state in which it ended. -/
structure Lasts (ended : Instance κ) (leg : Leg κ) : Prop where
  silent : leg.sent = []
  remains : Remains ended leg.after
  refuses : ∀ answer, leg.answer? = some answer →
    answer = .error (.protocol (.alreadyTerminated ended.definition.id ended.current))

end Leg

/-- On at most one call the instance ends.  It tells nothing but notices before, and
nothing at all afterwards. -/
inductive EndsOnce : List (Leg κ) → Prop
  | underway : EndsOnce []
  | continues
      {leg : Leg κ}
      {rest : List (Leg κ)}
      (continues : leg.Continues)
      (endsOnce : EndsOnce rest) :
      EndsOnce (leg :: rest)
  | ends
      {leg : Leg κ}
      {rest : List (Leg κ)}
      {output : Json}
      (ends : leg.Ends output)
      (lasts : ∀ later ∈ rest, later.Lasts leg.after) :
      EndsOnce (leg :: rest)

/-! ## Notices -/

theorem Leg.notices_of_unnoticed {leg : Leg κ} (unnoticed : leg.noticed = []) :
    leg.notices = [] := by
  rw [notices, unnoticed]
  rfl

theorem Leg.notify_of_mem_notices
    {leg : Leg κ}
    {delivery : Delivery κ}
    (member : delivery ∈ leg.notices) :
    ∃ notice, delivery.envelope.signal = .notify notice := by
  obtain ⟨signal, isNotice, sent⟩ := List.mem_flatMap.1 member
  obtain ⟨notice, _, rfl⟩ := List.mem_map.1 isNotice
  obtain ⟨_, _, rfl⟩ := List.mem_map.1 sent
  exact ⟨notice, rfl⟩

/-! ## Before the end -/

/-- A resolved transition leads where the declared one does. -/
theorem Sound.declared_target
    (sound : machine.Sound effects)
    (kind : String) :
    (machine.definition.transition? machine.current kind).bind Transition.target =
      (machine.transition? kind).bind ResolvedTransition.target := by
  have related := sound.transition? kind
  generalize machine.definition.transition? machine.current kind = declared? at related ⊢
  generalize machine.transition? kind = transition? at related ⊢
  cases related with
  | none => rfl
  | some resolved => exact (Definition.resolveTransition_eq_ok_iff.1 resolved).1.symm

/-- What a call does to an instance that has not ended. -/
def Leg.Proceeds (leg : Leg κ) : Prop :=
  leg.Continues ∨ ∃ output, leg.Ends output

theorem Leg.continues_of_still
    {leg : Leg κ}
    (still : leg.entered? = none)
    (goesOn : leg.after.status ≠ .done)
    (told : leg.sent = leg.notices) :
    leg.Continues := by
  refine ⟨?_, goesOn, told, fun _ => notify_of_mem_notices⟩
  intro state entered
  rw [still] at entered
  cases entered

theorem Leg.continues_of_entering
    {leg : Leg κ}
    {target : String}
    (entered : leg.entered? = some target)
    (proper : leg.before.definition.isTerminal target = false)
    (goesOn : leg.after.status ≠ .done)
    (told : leg.sent = leg.notices) :
    leg.Continues := by
  refine ⟨?_, goesOn, told, fun _ => notify_of_mem_notices⟩
  intro state same
  rw [entered] at same
  cases same
  exact proper

/-- A call that leads an instance to where it stands as `landed`, in a terminal state, ends
it there. -/
theorem Leg.ends_of_finished
    {leg : Leg κ}
    {landed : Instance κ}
    (after : leg.after = landed.finished)
    (entered : leg.entered? = some landed.current)
    (terminal : leg.before.definition.isTerminal landed.current = true)
    (told : leg.sent = leg.notices ++ landed.emit (.done landed.builtOutput))
    (answers : ∀ answer, leg.answer? = some answer →
      answer = .ok (.terminated landed.current landed.builtOutput)) :
    leg.Ends landed.builtOutput := by
  have stands : leg.after.current = landed.current := by
    rw [after]
    rfl
  constructor
  · rwa [stands]
  · rwa [stands]
  · rw [after]
    rfl
  · rw [after]
    rfl
  · rw [told, after, emit_eq_broadcast]
    rfl
  · exact fun _ => notify_of_mem_notices
  · rwa [stands]

theorem proceeds_start (alive : machine.status ≠ .done) :
    (⟨machine, .start⟩ : Leg κ).Proceeds := by
  by_cases idle : machine.status = .idle
  · have entered : (⟨machine, .start⟩ : Leg κ).entered? = some machine.current := if_pos idle
    cases terminal : machine.atTerminal with
    | true =>
      have ends : machine.start =
          ⟨machine.finished, .ok (), machine.emit (.done machine.builtOutput)⟩ := by
        simp [start, idle, terminal]
      refine .inr ⟨machine.builtOutput, Leg.ends_of_finished ?_ entered terminal ?_ ?_⟩
      · rw [Leg.after, perform, ends]
      · rw [Leg.sent, ends]
        rfl
      · intro answer none
        cases none
    | false =>
      have begins : machine.start = ⟨{ machine with status := .running }, .ok (), []⟩ := by
        simp [start, idle, terminal]
      refine .inl (Leg.continues_of_entering entered terminal ?_ ?_)
      · simp [Leg.after, perform, begins]
      · rw [Leg.sent, begins]
        rfl
  · have same := start_of_begun idle
    refine .inl (Leg.continues_of_still (if_neg idle) ?_ ?_)
    · rwa [Leg.after, perform, same]
    · rw [Leg.sent, same]
      rfl

/-- An instance that makes a transition ends if that leads into a terminal state, and goes
on otherwise. -/
theorem Sound.proceeds_follow
    {now : Timestamp}
    {event : Event}
    {transition : ResolvedTransition}
    (sound : machine.Sound effects)
    (running : machine.status = .running)
    (found : machine.transition? event.kind = some transition) :
    (⟨machine, .dispatch now event⟩ : Leg κ).Proceeds := by
  have alive : machine.status ≠ .done := by simp [running]
  have follows : machine.dispatch now event = machine.follow now event transition :=
    dispatch_eq_follow running found
  have notices : (⟨machine, .dispatch now event⟩ : Leg κ).notices =
      machine.notified event transition := by
    rw [notified_eq_broadcast]
    simp [Leg.notices, Leg.noticed, running, found]
  have entered : (⟨machine, .dispatch now event⟩ : Leg κ).entered? = transition.target := by
    simp [Leg.entered?, running, sound.declared_target, found]
  cases leads : transition.target with
  | none =>
    rw [leads] at entered
    rw [follow_stay leads] at follows
    refine .inl (Leg.continues_of_still entered ?_ ?_)
    · rwa [Leg.after_dispatch, follows]
    · rw [Leg.sent_dispatch, notices, follows]
  | some target =>
    rw [leads] at entered
    cases terminal : machine.definition.isTerminal target with
    | true =>
      rw [follow_end leads terminal] at follows
      have after : (⟨machine, .dispatch now event⟩ : Leg κ).after =
          (machine.landed now event transition target).finished := by
        rw [Leg.after_dispatch, follows]
      refine .inr ⟨_, Leg.ends_of_finished after entered terminal ?_ ?_⟩
      · rw [Leg.sent_dispatch, notices, follows]
      · intro answer answered
        rw [Leg.answer?_dispatch, follows] at answered
        exact (Option.some.inj answered).symm
    | false =>
      rw [follow_enter leads terminal] at follows
      refine .inl (Leg.continues_of_entering entered terminal ?_ ?_)
      · rwa [Leg.after_dispatch, follows]
      · rw [Leg.sent_dispatch, notices, follows]

theorem Sound.proceeds_dispatch
    (sound : machine.Sound effects)
    (alive : machine.status ≠ .done)
    (now : Timestamp)
    (event : Event) :
    (⟨machine, .dispatch now event⟩ : Leg κ).Proceeds := by
  cases status : machine.status with
  | idle =>
    have refused := dispatch_of_idle status now event
    have halted : ¬machine.status = .running := by simp [status]
    have unnoticed : (⟨machine, .dispatch now event⟩ : Leg κ).noticed = [] := if_neg halted
    refine .inl (Leg.continues_of_still (if_neg halted) ?_ ?_)
    · rwa [Leg.after_dispatch, refused]
    · rw [Leg.sent_dispatch, refused]
      exact (Leg.notices_of_unnoticed unnoticed).symm
  | done => exact absurd status alive
  | running =>
    cases found : machine.transition? event.kind with
    | none =>
      have ignored : machine.dispatch now event = ⟨machine, .ok .ignored, []⟩ := by
        simp [Instance.dispatch, status, found]
      have unnoticed : (⟨machine, .dispatch now event⟩ : Leg κ).noticed = [] := by
        simp [Leg.noticed, found]
      refine .inl (Leg.continues_of_still ?_ ?_ ?_)
      · simp [Leg.entered?, sound.declared_target, found]
      · rwa [Leg.after_dispatch, ignored]
      · rw [Leg.sent_dispatch, ignored]
        exact (Leg.notices_of_unnoticed unnoticed).symm
    | some transition => exact sound.proceeds_follow status found

/-- On every call an instance that has not ended goes on or ends. -/
theorem Sound.proceeds
    (sound : machine.Sound effects)
    (alive : machine.status ≠ .done)
    (action : Action κ) :
    (⟨machine, action⟩ : Leg κ).Proceeds := by
  cases action with
  | start => exact proceeds_start alive
  | dispatch now event => exact sound.proceeds_dispatch alive now event
  | subscribe outlet => exact .inl (Leg.continues_of_still rfl alive rfl)
  | unsubscribe subscription => exact .inl (Leg.continues_of_still rfl alive rfl)

/-! ## After the end -/

theorem dispatch_of_done
    (done : machine.status = .done)
    (now : Timestamp)
    (event : Event) :
    machine.dispatch now event = ⟨machine,
      .error (.protocol (.alreadyTerminated machine.definition.id machine.current)), []⟩ := by
  unfold dispatch
  rw [done]

/-- Who listens to an instance that has ended does not change how it ended. -/
theorem Remains.lasts_of_registration
    {leg : Leg κ}
    {subscribers : List (Subscription × κ)}
    {nextSubscription : Nat}
    (remains : Remains ended leg.before)
    (after : leg.after = { leg.before with subscribers, nextSubscription })
    (silent : leg.sent = [])
    (unanswered : leg.answer? = none) :
    leg.Lasts ended := by
  refine ⟨silent, ?_, ?_⟩
  · rw [after]
    exact ⟨remains.done, remains.definition, remains.current, remains.context, remains.output,
      remains.history⟩
  · intro answer answered
    rw [unanswered] at answered
    cases answered

/-- Whatever is done with an instance that has ended, it stays as it ended. -/
theorem Remains.lasts (remains : Remains ended machine) (action : Action κ) :
    Leg.Lasts ended ⟨machine, action⟩ := by
  cases action with
  | start =>
    have begun : machine.status ≠ .idle := by simp [remains.done]
    have same := start_of_begun begun
    refine ⟨?_, ?_, ?_⟩
    · rw [Leg.sent, same]
    · rwa [Leg.after, perform, same]
    · intro answer none
      cases none
  | dispatch now event =>
    have refused := dispatch_of_done remains.done now event
    refine ⟨?_, ?_, ?_⟩
    · rw [Leg.sent_dispatch, refused]
    · rwa [Leg.after_dispatch, refused]
    · intro answer answered
      rw [Leg.answer?_dispatch, refused] at answered
      rw [← Option.some.inj answered, remains.definition, remains.current]
  | subscribe outlet => exact remains.lasts_of_registration rfl rfl rfl
  | unsubscribe subscription => exact remains.lasts_of_registration rfl rfl rfl

/-- An instance that has ended stays as it ended on every call. -/
theorem Remains.lasts_legs (remains : Remains ended machine) (actions : List (Action κ)) :
    ∀ leg ∈ legs actions machine, leg.Lasts ended := by
  induction actions generalizing machine with
  | nil =>
    intro leg member
    cases member
  | cons action actions ih =>
    have lasts := remains.lasts action
    intro leg member
    rcases List.mem_cons.1 member with rfl | later
    · exact lasts
    · exact ih lasts.remains leg later

/-! ## Runs -/

theorem Held.endsOnce
    (held : machine.Held definition effects given)
    (alive : machine.status ≠ .done)
    (actions : List (Action κ)) :
    EndsOnce (legs actions machine) := by
  induction actions generalizing machine with
  | nil => exact .underway
  | cons action actions ih =>
    rcases held.sound.proceeds alive action with continues | ⟨output, ends⟩
    · exact .continues continues (ih (held.perform action) continues.goesOn)
    · have remains : Remains (Leg.after ⟨machine, action⟩) (Instance.perform action machine) :=
        ⟨ends.done, rfl, rfl, rfl, rfl, rfl⟩
      exact .ends ends (remains.lasts_legs actions)

/-- However a host came by an instance, and whatever it does with it: an instance that has
not ended ends on at most one call, the one on which it enters a terminal state; it tells
of its output there, last, and is as it ended ever after.  One that had ended when it was
resumed is as it was then, and tells nothing. -/
theorem endsOnce_of_run
    {first : Instance κ}
    (obtained : Obtained definition effects given first)
    (actions : List (Action κ)) :
    (first.status ≠ .done → EndsOnce (legs actions first)) ∧
      (first.status = .done → ∀ leg ∈ legs actions first, leg.Lasts first) := by
  constructor
  · intro alive
    exact obtained.held.endsOnce alive actions
  · intro done
    have remains : Remains first first := ⟨done, rfl, rfl, rfl, rfl, rfl⟩
    exact remains.lasts_legs actions

/-- A door that rings twice as it closes. -/
def door : Definition where
  id := "door"
  initial := "open"
  states := .ofList [
    ("open", { on := .ofList [("CLOSE", ⟨some "closed", ["ring", "ring"]⟩)] }),
    ("closed", { terminal := true, output := some (.constant (.str "closed")) })]

/-- The bell of the door. -/
def doorEffects : EffectTable :=
  ({} : EffectTable).notify "ring" fun _ => some (.ofKind "RING")

/-- What a host does with a door: it listens, opens it, and closes it twice. -/
def slam : List (Action Unit) :=
  [.subscribe (), .start, .dispatch .epoch (.ofKind "CLOSE"), .start,
    .dispatch .epoch (.ofKind "CLOSE")]

/-- A door rings twice and is then closed, once. -/
theorem endsOnce_of_slam :
    ∃ first : Instance Unit,
      create tallyIds.1 door doorEffects ∅ = .ok first ∧ first.status ≠ .done ∧
      (legs slam first).map (·.sent.map fun delivery => delivery.envelope.signal) =
        [[], [], [.notify (.ofKind "RING"), .notify (.ofKind "RING"), .done (.str "closed")],
          [], []] ∧
      EndsOnce (legs slam first) := by
  have checked : (create tallyIds.1 door doorEffects ∅).toOption.any
      (fun first => decide (first.status ≠ .done) &&
        decide ((legs slam first).map (·.sent.map fun delivery => delivery.envelope.signal) =
          [[], [], [.notify (.ofKind "RING"), .notify (.ofKind "RING"), .done (.str "closed")],
            [], []])) = true := by
    decide +kernel
  obtain ⟨first, built, passed⟩ := (Option.any_eq_true _ _).1 checked
  have created := toOption_eq_some_iff.1 built
  obtain ⟨alive, heard⟩ := Bool.and_eq_true_iff.1 passed
  have alive := of_decide_eq_true alive
  exact ⟨first, created, alive, of_decide_eq_true heard,
    (endsOnce_of_run (.built created) slam).1 alive⟩

end Instance
end Questionnaire
