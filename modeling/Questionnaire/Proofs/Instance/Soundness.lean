import Questionnaire.Instance.Dispatch
import Questionnaire.Proofs.Definition.Resolution

/-!
# Sound instances

A built instance runs a valid definition with a resolved table, is in one of its
states, does not run in a terminal one, and has an output exactly when it has ended.
Building an instance makes it sound, and every call keeps it so.
-/

namespace Questionnaire
namespace Instance

variable {κ : Type} {effects : EffectTable}

/-- What holds of every instance that was built with the given effects. -/
structure Sound (effects : EffectTable) (machine : Instance κ) : Prop where
  valid : machine.definition.Valid
  resolved : machine.definition.resolve effects = .ok machine.transitions
  current : ∃ node, machine.node? = some node
  live : machine.status = .running → machine.atTerminal = false
  output : machine.output = if machine.isDone then some machine.builtOutput else none

/-- The idle instance of a definition with a table of its transitions. -/
def idle
    (id : InstanceId)
    (definition : Definition)
    (transitions : TransitionTable)
    (context : Fields) :
    Instance κ where
  id := id
  definition := definition
  transitions := transitions
  current := definition.initial
  context := context
  status := .idle
  output := none
  history := {}
  subscribers := []
  nextSubscription := 0

/-- An instance can be built exactly when its definition is valid and all its effects
are bound, and then it is idle. -/
theorem create_eq_ok_iff
    {id : InstanceId}
    {definition : Definition}
    {context : Fields}
    {machine : Instance κ} :
    create id definition effects context = .ok machine ↔
      definition.Valid ∧ ∃ transitions, definition.resolve effects = .ok transitions ∧
        machine = idle id definition transitions context := by
  unfold create
  constructor
  · intro created
    obtain ⟨checked, valid, created⟩ := bind_eq_ok_iff.1 created
    obtain ⟨transitions, resolved, built⟩ := bind_eq_ok_iff.1 created
    cases built
    exact ⟨Definition.check_eq_ok_iff.1 valid, transitions, resolved, rfl⟩
  · rintro ⟨valid, transitions, resolved, rfl⟩
    rw [Definition.check_eq_ok_iff.2 valid, resolved]
    rfl

theorem sound_idle
    {id : InstanceId}
    {definition : Definition}
    {transitions : TransitionTable}
    {context : Fields}
    (valid : definition.Valid)
    (resolved : definition.resolve effects = .ok transitions) :
    (idle id definition transitions context : Instance κ).Sound effects where
  valid := valid
  resolved := resolved
  current := valid.initial
  live := by simp [idle]
  output := by simp [idle, isDone]

theorem sound_of_create
    {id : InstanceId}
    {definition : Definition}
    {context : Fields}
    {machine : Instance κ}
    (created : create id definition effects context = .ok machine) :
    machine.Sound effects := by
  obtain ⟨valid, transitions, resolved, rfl⟩ := create_eq_ok_iff.1 created
  exact sound_idle valid resolved

/-! ## What subscribers are told -/

/-- Signals as they reach the subscribers: one after the other, each of them to everybody
who is registered, in the order in which they subscribed, from the instance by its identity
and the name of its definition. -/
def broadcast (machine : Instance κ) (signals : List Signal) : List (Delivery κ) :=
  signals.flatMap fun signal =>
    machine.subscribers.map fun (_, outlet) =>
      ⟨outlet, ⟨machine.id, machine.definition.id, signal⟩⟩

theorem emit_eq_broadcast (machine : Instance κ) (signal : Signal) :
    machine.emit signal = machine.broadcast [signal] := by
  rw [broadcast, List.flatMap_singleton]
  rfl

theorem broadcast_append (machine : Instance κ) (earlier later : List Signal) :
    machine.broadcast (earlier ++ later) =
      machine.broadcast earlier ++ machine.broadcast later :=
  List.flatMap_append

/-! ## Following a transition -/

/-- What the notifying effects of a transition send. -/
def notified (event : Event) (transition : ResolvedTransition) (machine : Instance κ) :
    List (Delivery κ) :=
  (transition.notices (machine.input event)).flatMap fun notice =>
    machine.emit (.notify notice)

theorem notified_eq_broadcast
    (event : Event)
    (transition : ResolvedTransition)
    (machine : Instance κ) :
    machine.notified event transition =
      machine.broadcast ((transition.notices (machine.input event)).map .notify) := by
  rw [broadcast, List.flatMap_map]
  rfl

/-- The instance once a transition led it into `target`. -/
def landed
    (now : Timestamp)
    (event : Event)
    (transition : ResolvedTransition)
    (target : String)
    (machine : Instance κ) :
    Instance κ :=
  ({ machine with context := transition.update (machine.input event) } : Instance κ).entering
    now event.kind target

section Following

variable {machine : Instance κ} {now : Timestamp} {event : Event}
  {transition : ResolvedTransition} {target : String}

/-- A running instance follows the transition that its state makes on an event. -/
theorem dispatch_eq_follow
    (running : machine.status = .running)
    (found : machine.transition? event.kind = some transition) :
    machine.dispatch now event = machine.follow now event transition := by
  simp [dispatch, running, found]

/-- A transition without target changes the context and sends the notices. -/
theorem follow_stay (leads : transition.target = none) :
    machine.follow now event transition =
      ⟨{ machine with context := transition.update (machine.input event) },
        .ok (.stayed machine.current), machine.notified event transition⟩ := by
  simp [follow, leads, notified]

/-- A transition into a state that is not terminal enters it. -/
theorem follow_enter
    (leads : transition.target = some target)
    (notTerminal : machine.definition.isTerminal target = false) :
    machine.follow now event transition =
      ⟨machine.landed now event transition target, .ok (.transitioned machine.current target),
        machine.notified event transition⟩ := by
  simp [follow, leads, atTerminal, entering, notTerminal, landed, notified]

/-- A transition into a terminal state ends the instance, which sends its output last. -/
theorem follow_end
    (leads : transition.target = some target)
    (terminal : machine.definition.isTerminal target = true) :
    let ended := machine.landed now event transition target
    machine.follow now event transition =
      ⟨ended.finished, .ok (.terminated target ended.builtOutput),
        machine.notified event transition ++ ended.emit (.done ended.builtOutput)⟩ := by
  simp [follow, leads, atTerminal, entering, terminal, landed, notified]

/-- A state builds its output from the context that it is entered with. -/
theorem builtOutput_landed
    {node : StateNode}
    (found : machine.definition.state? target = some node)
    (now : Timestamp)
    (event : Event) :
    (machine.landed now event transition target).builtOutput =
      node.output.elim (.obj []) (·.build (transition.update (machine.input event))) := by
  simp [builtOutput, node?, landed, entering, found]

end Following

/-! ## What no call changes -/

theorem definition_start (machine : Instance κ) :
    machine.start.next.definition = machine.definition := by
  unfold start
  split
  · split <;> rfl
  · rfl

theorem definition_follow
    (machine : Instance κ)
    (now : Timestamp)
    (event : Event)
    (transition : ResolvedTransition) :
    (machine.follow now event transition).next.definition = machine.definition := by
  cases leads : transition.target with
  | none => rw [follow_stay leads]
  | some target =>
    cases terminal : machine.definition.isTerminal target with
    | true =>
      rw [follow_end leads terminal]
      rfl
    | false =>
      rw [follow_enter leads terminal]
      rfl

theorem definition_dispatch
    (machine : Instance κ)
    (now : Timestamp)
    (event : Event) :
    (machine.dispatch now event).next.definition = machine.definition := by
  unfold dispatch
  split
  · rfl
  · rfl
  · split
    · rfl
    · exact definition_follow machine now event _

namespace Sound

variable {machine : Instance κ}

/-! ## Calls -/

theorem finished (sound : machine.Sound effects) :
    machine.finished.Sound effects where
  valid := sound.valid
  resolved := sound.resolved
  current := sound.current
  live := by simp [Instance.finished]
  output := by simp [Instance.finished, isDone, builtOutput, node?]

theorem start (sound : machine.Sound effects) :
    machine.start.next.Sound effects := by
  unfold Instance.start
  split
  · rename_i idle
    split
    · exact sound.finished
    · rename_i notTerminal
      refine ⟨sound.valid, sound.resolved, sound.current, ?_, ?_⟩
      · intro _
        exact eq_false_of_ne_true notTerminal
      · simpa [isDone, idle] using sound.output
  · exact sound

/-- The transition that a sound instance makes is the resolution of the one that its
definition declares. -/
theorem transition?
    (sound : machine.Sound effects)
    (kind : String) :
    Option.Rel
      (fun transition result =>
        Definition.resolveTransition effects machine.definition.id transition = .ok result)
      (machine.definition.transition? machine.current kind)
      (machine.transition? kind) :=
  Definition.resolve_transition? sound.resolved machine.current kind

theorem exists_declared
    {kind : String}
    {transition : ResolvedTransition}
    (sound : machine.Sound effects)
    (found : machine.transition? kind = some transition) :
    ∃ declared, machine.definition.transition? machine.current kind = some declared ∧
      Definition.resolveTransition effects machine.definition.id declared =
        .ok transition := by
  have related := sound.transition? kind
  rw [found] at related
  generalize declaredEq : machine.definition.transition? machine.current kind = declared?
    at related
  cases related with
  | some resolved => exact ⟨_, rfl, resolved⟩

/-- A sound instance has the resolution of every transition that its state declares. -/
theorem exists_resolved
    {kind : String}
    {declared : Transition}
    (sound : machine.Sound effects)
    (declares : machine.definition.transition? machine.current kind = some declared) :
    ∃ transition, machine.transition? kind = some transition ∧
      Definition.resolveTransition effects machine.definition.id declared =
        .ok transition := by
  have related := sound.transition? kind
  rw [declares] at related
  generalize machine.transition? kind = transition? at related
  cases related with
  | some resolved => exact ⟨_, rfl, resolved⟩

/-- A running instance ignores an event that its state declares no transition for. -/
theorem dispatch_of_undeclared
    {event : Event}
    (sound : machine.Sound effects)
    (running : machine.status = .running)
    (undeclared : machine.definition.transition? machine.current event.kind = none)
    (now : Timestamp) :
    machine.dispatch now event = ⟨machine, .ok .ignored, []⟩ := by
  have related := sound.transition? event.kind
  rw [undeclared] at related
  generalize found : machine.transition? event.kind = transition? at related
  cases related
  simp [Instance.dispatch, running, found]

theorem follow
    {now : Timestamp}
    {event : Event}
    {transition : ResolvedTransition}
    (sound : machine.Sound effects)
    (running : machine.status = .running)
    (found : machine.transition? event.kind = some transition) :
    (machine.follow now event transition).next.Sound effects := by
  have silent : machine.output = none := by
    simpa [isDone, running] using sound.output
  cases leads : transition.target with
  | none =>
    rw [follow_stay leads]
    refine ⟨sound.valid, sound.resolved, sound.current, fun _ => sound.live running, ?_⟩
    simpa [isDone, running] using silent
  | some target =>
    obtain ⟨declared, declaredEq, resolved⟩ := sound.exists_declared found
    have same := (Definition.resolveTransition_eq_ok_iff.1 resolved).1
    have current := sound.valid.target declaredEq (same.symm.trans leads)
    cases terminal : machine.definition.isTerminal target with
    | true =>
      rw [follow_end leads terminal]
      exact ⟨sound.valid, sound.resolved, current, by simp [Instance.finished],
        by simp [Instance.finished, isDone, builtOutput, node?]⟩
    | false =>
      rw [follow_enter leads terminal]
      refine ⟨sound.valid, sound.resolved, current, fun _ => terminal, ?_⟩
      simpa [isDone, running, landed, entering] using silent

theorem dispatch
    (sound : machine.Sound effects)
    (now : Timestamp)
    (event : Event) :
    (machine.dispatch now event).next.Sound effects := by
  unfold Instance.dispatch
  split
  · exact sound
  · exact sound
  · rename_i running
    split
    · exact sound
    · rename_i found
      exact sound.follow running found

theorem subscribe
    (sound : machine.Sound effects)
    (outlet : κ) :
    (machine.subscribe outlet).2.Sound effects :=
  ⟨sound.valid, sound.resolved, sound.current, sound.live, sound.output⟩

theorem unsubscribe
    (sound : machine.Sound effects)
    (subscription : Subscription) :
    (machine.unsubscribe subscription).2.Sound effects :=
  ⟨sound.valid, sound.resolved, sound.current, sound.live, sound.output⟩

end Sound
end Instance
end Questionnaire
