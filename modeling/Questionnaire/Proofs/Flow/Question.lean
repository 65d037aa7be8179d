import Questionnaire.Child.Slot
import Questionnaire.Pod
import Questionnaire.Proofs.Instance.Soundness

/-!
# Pods as a flow runs them

A flow runs an instance of a pod with an empty context and one subscriber.  Whatever
event such an instance gets, it sends notices, each of which reports an answer or asks
to step back, and then its output if it ends; its context stays empty.
-/

namespace Questionnaire
namespace Pod

/-- A pod that a flow can spawn. -/
def Usable (pod : Definition) : Prop :=
  Pod.check pod = .ok ()

theorem usable_iff {pod : Definition} :
    Usable pod ↔ pod.Valid ∧ ∃ transitions, pod.resolve bindings = .ok transitions := by
  unfold Usable Pod.check
  constructor
  · intro checked
    obtain ⟨_, valid, resolved⟩ := bind_eq_ok_iff.1 checked
    obtain ⟨transitions, resolved, _⟩ := bind_eq_ok_iff.1 resolved
    exact ⟨Definition.check_eq_ok_iff.1 valid, transitions, resolved⟩
  · rintro ⟨valid, transitions, resolved⟩
    rw [Definition.check_eq_ok_iff.2 valid, resolved]
    rfl

theorem checkAll_eq_ok_iff {pods : List Definition} :
    checkAll pods = .ok () ↔ ∀ pod ∈ pods, Usable pod := by
  unfold checkAll
  induction pods with
  | nil => simp [List.forM, pure, Except.pure]
  | cons pod rest ih =>
    change (Pod.check pod >>= fun _ => rest.forM Pod.check) = _ ↔ _
    rw [bind_eq_ok_iff]
    simp only [ih, List.mem_cons, forall_eq_or_imp]
    constructor
    · rintro ⟨_, usable, others⟩
      exact ⟨usable, others⟩
    · rintro ⟨usable, others⟩
      exact ⟨_, usable, others⟩

/-! ## Effects of pods -/

/-- A notification that asks to step back. -/
def previousNotice : Event :=
  .ofKind previousEvent

theorem get?_bindings
    {id : String}
    {effect : Effect}
    (bound : bindings.bindings.get? id = some effect) :
    effect = .notify (fun input => some (answerNotice input)) ∨
      effect = .notify (fun _ => some previousNotice) ∨ effect = .assign fun _ => ∅ := by
  simp only [bindings, EffectTable.assign, EffectTable.notify, EffectTable.bind,
    KeyMap.get?_insert, KeyMap.get?_empty] at bound
  split at bound
  · exact .inr (.inr (Option.some.inj bound).symm)
  · split at bound
    · exact .inr (.inl (Option.some.inj bound).symm)
    · split at bound
      · exact .inl (Option.some.inj bound).symm
      · simp at bound

/-- The effects of a resolved transition of a pod. -/
theorem effect_of_resolved
    {machine : String}
    {declared : Transition}
    {transition : ResolvedTransition}
    (resolved : Definition.resolveTransition bindings machine declared = .ok transition)
    {entry : String × Effect}
    (member : entry ∈ transition.effects) :
    entry.2 = .notify (fun input => some (answerNotice input)) ∨
      entry.2 = .notify (fun _ => some previousNotice) ∨ entry.2 = .assign fun _ => ∅ := by
  have related := (Definition.resolveTransition_eq_ok_iff.1 resolved).2
  have bound : ∃ id, bindings.bindings.get? id = some entry.2 := by
    generalize declared.effects = ids at related
    generalize transition.effects = entries at related member
    induction related with
    | nil => simp at member
    | cons step _ ih =>
      rcases List.mem_cons.1 member with rfl | later
      · exact ⟨_, step.2⟩
      · exact ih later
  obtain ⟨id, found⟩ := bound
  exact get?_bindings found

/-- The effects of pods leave the context as it is. -/
theorem update_of_resolved
    {machine : String}
    {declared : Transition}
    {transition : ResolvedTransition}
    (resolved : Definition.resolveTransition bindings machine declared = .ok transition)
    (input : Effect.Input) :
    transition.update input = input.context := by
  unfold ResolvedTransition.update
  have each (entry : String × Effect) (member : entry ∈ transition.effects) :=
    effect_of_resolved resolved member
  generalize transition.effects = entries at each
  induction entries with
  | nil => rfl
  | cons entry rest ih =>
    have later := ih fun other member => each other (List.mem_cons_of_mem _ member)
    obtain ⟨id, effect⟩ := entry
    rw [List.foldl_cons]
    rcases each (id, effect) List.mem_cons_self with kind | kind | kind
    · cases kind
      exact later
    · cases kind
      exact later
    · cases kind
      exact later

/-- The notices of a pod report an answer or ask to step back. -/
theorem notice_of_resolved
    {machine : String}
    {declared : Transition}
    {transition : ResolvedTransition}
    (resolved : Definition.resolveTransition bindings machine declared = .ok transition)
    {input : Effect.Input}
    {notice : Event}
    (member : notice ∈ transition.notices input) :
    notice = answerNotice input ∨ notice = previousNotice := by
  obtain ⟨⟨id, effect⟩, entryMember, sent⟩ := List.mem_filterMap.1 member
  rcases effect_of_resolved resolved entryMember with kind | kind | kind
  · cases kind
    exact .inl (Option.some.inj sent).symm
  · cases kind
    exact .inr (Option.some.inj sent).symm
  · cases kind
    simp at sent

/-! ## What a pod is heard of -/

/-- A notification that a pod can send: it reports an answer under the name of a
question, or asks to step back. -/
def IsNotice (event : Event) : Prop :=
  event = previousNotice ∨
    event.kind = answerEvent ∧ ∃ question, event.text? questionKey = some question

theorem text?_answerNotice (input : Effect.Input) :
    (answerNotice input).text? questionKey =
      some ((input.event.text? questionKey).getD input.state) := by
  have different : questionKey ≠ answerKey := by decide
  simp [answerNotice, Event.text?, Event.get?, Event.withField, KeyMap.get?_insert, different,
    Json.text?]

theorem isNotice_answerNotice (input : Effect.Input) : IsNotice (answerNotice input) :=
  .inr ⟨rfl, _, text?_answerNotice input⟩

/-- What is heard of a pod, the oldest signal first: notices, and an output at the end
once the pod has ended. -/
def Trail (ended : Bool) (signals : List Signal) : Prop :=
  ∃ notices : List Event, (∀ notice ∈ notices, IsNotice notice) ∧
    ∃ output, signals =
      notices.map .notify ++ if ended then [.done output] else []

theorem trail_nil_iff {ended : Bool} : Trail ended [] ↔ ended = false := by
  constructor
  · rintro ⟨notices, _, output, same⟩
    cases ended <;> simp_all
  · rintro rfl
    exact ⟨[], by simp, .null, rfl⟩

/-- What is heard next is a notice, or an output after which nothing is heard. -/
theorem Trail.cons
    {ended : Bool}
    {signal : Signal}
    {rest : List Signal}
    (trail : Trail ended (signal :: rest)) :
    (∃ notice, signal = .notify notice ∧ IsNotice notice ∧ Trail ended rest) ∨
      ended = true ∧ (∃ output, signal = .done output) ∧ rest = [] := by
  obtain ⟨notices, each, output, same⟩ := trail
  cases notices with
  | nil =>
    cases ended with
    | false => simp at same
    | true =>
      simp only [List.map_nil, List.nil_append, if_true, List.cons.injEq] at same
      exact .inr ⟨rfl, ⟨output, same.1⟩, same.2⟩
  | cons notice later =>
    simp only [List.map_cons, List.cons_append, List.cons.injEq] at same
    exact .inl ⟨notice, same.1, each notice List.mem_cons_self, later,
      fun other member => each other (List.mem_cons_of_mem _ member), output, same.2⟩

/-! ## Instances of pods -/

/-- An instance of a pod as a flow runs it.  It goes on only if the pod asks something when
it is begun. -/
structure Asked (pod : Definition) (question : Instance Unit) : Prop where
  sound : question.Sound bindings
  definition : question.definition = pod
  context : question.context = ∅
  subscribers : question.subscribers = [(⟨0⟩, ())]
  begun : question.status ≠ .idle
  opens : question.isDone = false → pod.isTerminal pod.initial = false

/-- The envelopes of signals on their way to the flow. -/
def deliveries (question : Instance Unit) (signals : List Signal) : List (Delivery Unit) :=
  signals.map fun signal => ⟨(), question.envelope signal⟩

namespace Asked

variable {pod : Definition} {question : Instance Unit}

theorem emit (asked : Asked pod question) (signal : Signal) :
    question.emit signal = deliveries question [signal] := by
  rw [Instance.emit, asked.subscribers]
  rfl

theorem notified
    (asked : Asked pod question)
    (event : Event)
    (transition : ResolvedTransition) :
    question.notified event transition =
      deliveries question ((transition.notices (question.input event)).map .notify) := by
  simp only [Instance.notified, asked.emit, deliveries, List.map_cons, List.map_nil,
    List.map_map]
  exact List.flatMap_pure_eq_map _ _

/-- A running pod is in one of its questions. -/
theorem current_mem_questionIds
    (asked : Asked pod question)
    (running : question.status = .running) :
    question.current ∈ pod.questionIds := by
  obtain ⟨node, found⟩ := asked.sound.current
  have alive := asked.sound.live running
  rw [Instance.node?, Definition.state?, asked.definition] at found
  rw [Instance.atTerminal, Definition.isTerminal, asked.definition, Definition.state?, found]
    at alive
  rw [Definition.questionIds, KeyMap.mem_keys_iff]
  refine ⟨node, ?_⟩
  rw [KeyMap.get?_filter, found]
  simpa [Option.filter] using alive

/-- Following a transition, a pod sends its notices and, if it ends, its output. -/
theorem follow
    {event : Event}
    {transition : ResolvedTransition}
    (asked : Asked pod question)
    (running : question.status = .running)
    (found : question.transition? event.kind = some transition)
    (now : Timestamp) :
    let turn := question.follow now event transition
    Asked pod turn.next ∧ turn.next.id = question.id ∧ (∃ outcome, turn.result = .ok outcome) ∧
      ∃ output, turn.sent = deliveries question
        ((transition.notices (question.input event)).map .notify ++
          if turn.next.isDone then [.done output] else []) := by
  obtain ⟨declared, _, resolved⟩ := asked.sound.exists_declared found
  have kept : transition.update (question.input event) = ∅ :=
    (update_of_resolved resolved _).trans asked.context
  have sound : (question.follow now event transition).next.Sound bindings :=
    asked.sound.follow running found
  have opens : pod.isTerminal pod.initial = false :=
    asked.opens (by simp [Instance.isDone, running])
  cases leads : transition.target with
  | none =>
    rw [Instance.follow_stay leads] at sound ⊢
    refine ⟨⟨sound, asked.definition, kept, asked.subscribers, asked.begun, fun _ => opens⟩, rfl,
      ⟨_, rfl⟩, .null, ?_⟩
    simp [Instance.isDone, running, asked.notified]
  | some target =>
    cases terminal : question.definition.isTerminal target with
    | true =>
      rw [Instance.follow_end leads terminal] at sound ⊢
      refine ⟨⟨sound, asked.definition, kept, asked.subscribers, by simp [Instance.finished],
        fun _ => opens⟩, rfl, ⟨_, rfl⟩,
        (question.landed now event transition target).builtOutput, ?_⟩
      have sent (signal : Signal) :
          (question.landed now event transition target).emit signal =
            deliveries question [signal] :=
        asked.emit signal
      simp [sent, asked.notified, Instance.isDone, Instance.finished, deliveries]
    | false =>
      rw [Instance.follow_enter leads terminal] at sound ⊢
      refine ⟨⟨sound, asked.definition, kept, asked.subscribers, asked.begun, fun _ => opens⟩,
        rfl, ⟨_, rfl⟩, .null, ?_⟩
      simp [Instance.isDone, Instance.landed, Instance.entering, running, asked.notified]

/-- A running pod takes every event, and what it sends is a trail whose notices report
an answer for the question that was asked, or ask to step back. -/
theorem dispatch
    (asked : Asked pod question)
    (running : question.status = .running)
    (now : Timestamp)
    (event : Event) :
    let turn := question.dispatch now event
    Asked pod turn.next ∧ turn.next.id = question.id ∧ (∃ outcome, turn.result = .ok outcome) ∧
      ∃ signals, turn.sent = deliveries question signals ∧ Trail turn.next.isDone signals ∧
        ∀ notice, .notify notice ∈ signals →
          notice = answerNotice (question.input event) ∨ notice = previousNotice := by
  unfold Instance.dispatch
  rw [running]
  cases found : question.transition? event.kind with
  | none =>
    refine ⟨asked, rfl, ⟨_, rfl⟩, [], rfl, ?_, by simp⟩
    exact trail_nil_iff.2 (by simp [Instance.isDone, running])
  | some transition =>
    obtain ⟨still, sameId, answered, output, sent⟩ := asked.follow running found now
    obtain ⟨declared, _, resolved⟩ := asked.sound.exists_declared found
    have each (notice : Event) (member : notice ∈ transition.notices (question.input event)) :=
      notice_of_resolved resolved member
    refine ⟨still, sameId, answered, _, sent, ⟨_, ?_, output, rfl⟩, ?_⟩
    · intro notice member
      rcases each notice member with rfl | rfl
      · exact isNotice_answerNotice _
      · exact .inl rfl
    · intro notice member
      apply each notice
      split at member <;> simpa using member

end Asked

/-! ## Spawning -/

/-- The transitions of a pod with the effects of pods. -/
def transitions (pod : Definition) : TransitionTable :=
  match pod.resolve bindings with
  | .ok table => table
  | .error _ => ∅

/-- A pod before it is asked. -/
def unasked (id : InstanceId) (pod : Definition) : Instance Unit :=
  .idle id pod (transitions pod) ∅

/-- A pod that has just been asked. -/
def freshlyAsked (id : InstanceId) (pod : Definition) : Instance Unit :=
  ((unasked id pod).subscribe ()).2.start.next

/-- The output of a pod that ends as soon as it is asked. -/
def openingOutput (pod : Definition) : Json :=
  ((pod.state? pod.initial).bind StateNode.output).elim (.obj []) (·.build ∅)

/-- What a pod sends when it is asked: its output, if it ends at once. -/
def openingSignals (pod : Definition) : List Signal :=
  if pod.isTerminal pod.initial then [.done (openingOutput pod)] else []

variable {pod : Definition}

theorem Usable.create
    (usable : Usable pod)
    (id : InstanceId) :
    Instance.create id pod bindings ∅ = .ok (unasked id pod) := by
  obtain ⟨valid, table, resolved⟩ := usable_iff.1 usable
  have same : transitions pod = table := by simp [transitions, resolved]
  rw [unasked, same]
  exact Instance.create_eq_ok_iff.2 ⟨valid, table, resolved, rfl⟩

theorem start_unasked (id : InstanceId) (pod : Definition) :
    ((unasked id pod).subscribe ()).2.start =
      ⟨freshlyAsked id pod, .ok (), deliveries (freshlyAsked id pod) (openingSignals pod)⟩ := by
  cases terminal : pod.isTerminal pod.initial <;>
    simp [freshlyAsked, Instance.start, Instance.subscribe, unasked, Instance.idle,
      Instance.atTerminal, terminal, openingSignals, openingOutput, deliveries, Instance.emit,
      Instance.finished, Instance.envelope, Instance.builtOutput, Instance.node?]

theorem id_freshlyAsked (id : InstanceId) (pod : Definition) :
    (freshlyAsked id pod).id = id := by
  cases terminal : pod.isTerminal pod.initial <;>
    simp [freshlyAsked, Instance.start, Instance.subscribe, unasked, Instance.idle,
      Instance.atTerminal, terminal, Instance.finished]

theorem isDone_freshlyAsked (id : InstanceId) (pod : Definition) :
    (freshlyAsked id pod).isDone = pod.isTerminal pod.initial := by
  cases terminal : pod.isTerminal pod.initial <;>
    simp [freshlyAsked, Instance.start, Instance.subscribe, unasked, Instance.idle,
      Instance.atTerminal, terminal, Instance.finished, Instance.isDone]

theorem Usable.asked
    (usable : Usable pod)
    (id : InstanceId) :
    Asked pod (freshlyAsked id pod) := by
  have sound := Instance.sound_of_create (usable.create id)
  have opens : (freshlyAsked id pod).isDone = false → pod.isTerminal pod.initial = false := by
    rw [isDone_freshlyAsked]
    exact fun opens => opens
  refine ⟨(sound.subscribe ()).start, ?_, ?_, ?_, ?_, opens⟩ <;>
    cases terminal : pod.isTerminal pod.initial <;>
    simp [freshlyAsked, Instance.start, Instance.subscribe, unasked, Instance.idle,
      Instance.atTerminal, terminal, Instance.finished]

theorem trail_openingSignals (id : InstanceId) (pod : Definition) :
    Trail (freshlyAsked id pod).isDone (openingSignals pod) := by
  rw [isDone_freshlyAsked]
  exact ⟨[], by simp, openingOutput pod, rfl⟩

/-- A pod that is asked sends no notices before it gets an event. -/
theorem notify_notMem_openingSignals (pod : Definition) (notice : Event) :
    .notify notice ∉ openingSignals pod := by
  unfold openingSignals
  split <;> simp

end Pod
end Questionnaire
