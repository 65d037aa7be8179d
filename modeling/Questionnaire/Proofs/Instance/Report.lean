import Questionnaire.Proofs.Instance.Soundness

/-!
# What an instance reports of a call

A call changes neither the identity of an instance nor its subscribers.  On an event a
running instance sends the notices of its transition and then its output, if it has one
now; the answer to the event tells the same output.
-/

namespace Questionnaire

/-! ## Notices -/

/-- The notification that an effect sends, if it sends any. -/
def Effect.notice? (input : Effect.Input) : Effect → Option Event
  | .assign _ => none
  | .notify notice => notice input

theorem ResolvedTransition.notices_eq
    (transition : ResolvedTransition)
    (input : Effect.Input) :
    transition.notices input = transition.effects.filterMap (·.2.notice? input) :=
  rfl

namespace EffectTable

/-- A table of effects that send no notifications. -/
def Mute (effects : EffectTable) : Prop :=
  ∀ id effect, effects.bindings.get? id = some effect → ∃ patch, effect = .assign patch

theorem mute_empty : ({} : EffectTable).Mute := by
  intro id effect bound
  simp at bound

theorem Mute.assign
    {effects : EffectTable}
    (mute : effects.Mute)
    (id : String)
    (patch : Effect.Input → Fields) :
    (effects.assign id patch).Mute := by
  intro other effect bound
  rw [EffectTable.assign, bind, KeyMap.get?_insert] at bound
  split at bound
  · exact ⟨patch, (Option.some.inj bound).symm⟩
  · exact mute other effect bound

theorem Mute.notices_of_resolved
    {effects : EffectTable}
    {machine : String}
    {declared : Transition}
    {transition : ResolvedTransition}
    (mute : effects.Mute)
    (resolved : Definition.resolveTransition effects machine declared = .ok transition)
    (input : Effect.Input) :
    transition.notices input = [] := by
  have related := (Definition.resolveTransition_eq_ok_iff.1 resolved).2
  rw [transition.notices_eq input]
  generalize declared.effects = ids at related
  generalize transition.effects = entries at related
  induction related with
  | nil => rfl
  | cons step _ ih =>
    obtain ⟨patch, isAssign⟩ := mute _ _ step.2
    rw [List.filterMap_cons, ih, isAssign]
    rfl

end EffectTable

/-- The output with which a machine ended, if it did. -/
def Outcome.output? : Outcome → Option Json
  | .terminated _ output => some output
  | _ => none

namespace Instance

variable {κ : Type} {effects : EffectTable}

/-! ## What no call changes -/

theorem follow_next_eq
    (machine : Instance κ)
    (now : Timestamp)
    (event : Event)
    (transition : ResolvedTransition) :
    ∃ current context status output history,
      (machine.follow now event transition).next =
        { machine with current, context, status, output, history } := by
  cases leads : transition.target with
  | none =>
    rw [follow_stay leads]
    exact ⟨_, _, _, _, _, rfl⟩
  | some target =>
    cases terminal : machine.definition.isTerminal target with
    | true =>
      rw [follow_end leads terminal]
      exact ⟨_, _, _, _, _, rfl⟩
    | false =>
      rw [follow_enter leads terminal]
      exact ⟨_, _, _, _, _, rfl⟩

/-- An event changes where an instance stands, and nothing else. -/
theorem dispatch_next_eq
    (machine : Instance κ)
    (now : Timestamp)
    (event : Event) :
    ∃ current context status output history,
      (machine.dispatch now event).next =
        { machine with current, context, status, output, history } := by
  unfold dispatch
  split
  · exact ⟨_, _, _, _, _, rfl⟩
  · exact ⟨_, _, _, _, _, rfl⟩
  · split
    · exact ⟨_, _, _, _, _, rfl⟩
    · exact follow_next_eq machine now event _

theorem id_dispatch
    (machine : Instance κ)
    (now : Timestamp)
    (event : Event) :
    (machine.dispatch now event).next.id = machine.id := by
  obtain ⟨_, _, _, _, _, same⟩ := dispatch_next_eq machine now event
  rw [same]

theorem subscribers_dispatch
    (machine : Instance κ)
    (now : Timestamp)
    (event : Event) :
    (machine.dispatch now event).next.subscribers = machine.subscribers := by
  obtain ⟨_, _, _, _, _, same⟩ := dispatch_next_eq machine now event
  rw [same]

theorem nextSubscription_dispatch
    (machine : Instance κ)
    (now : Timestamp)
    (event : Event) :
    (machine.dispatch now event).next.nextSubscription = machine.nextSubscription := by
  obtain ⟨_, _, _, _, _, same⟩ := dispatch_next_eq machine now event
  rw [same]

/-! ## Outputs -/

/-- What an instance that has an output tells its subscribers at the end. -/
def farewell (machine : Instance κ) : List (Delivery κ) :=
  machine.output.toList.flatMap fun output => machine.emit (.done output)

theorem farewell_of_silent
    {machine : Instance κ}
    (silent : machine.output = none) :
    machine.farewell = [] := by
  simp [farewell, silent]

theorem farewell_finished (machine : Instance κ) :
    machine.finished.farewell = machine.emit (.done machine.builtOutput) := by
  simp [farewell, finished, emit, envelope]

/-- A single subscriber is told of the output, if there is one. -/
theorem envelopes_farewell
    {machine : Instance κ}
    {subscription : Subscription}
    {outlet : κ}
    (subscribers : machine.subscribers = [(subscription, outlet)]) :
    machine.farewell.map Delivery.envelope =
      machine.output.toList.map fun output => machine.envelope (.done output) := by
  cases output : machine.output <;> simp [farewell, output, emit, subscribers]

section Following

variable {machine : Instance κ} {transition : ResolvedTransition}

/-- Following a transition, an instance sends its notices and then its farewell. -/
theorem sent_follow
    (silent : machine.output = none)
    (now : Timestamp)
    (event : Event) :
    (machine.follow now event transition).sent =
      machine.notified event transition ++
        (machine.follow now event transition).next.farewell := by
  cases leads : transition.target with
  | none =>
    rw [follow_stay leads]
    simp [farewell, silent]
  | some target =>
    cases terminal : machine.definition.isTerminal target with
    | true => rw [follow_end leads terminal, farewell_finished]
    | false =>
      rw [follow_enter leads terminal]
      simp [farewell, landed, entering, silent]

/-- The answer to an event tells the output that the instance has afterwards. -/
theorem result_follow
    (silent : machine.output = none)
    (now : Timestamp)
    (event : Event) :
    ∃ outcome, (machine.follow now event transition).result = .ok outcome ∧
      outcome.output? = (machine.follow now event transition).next.output := by
  cases leads : transition.target with
  | none =>
    rw [follow_stay leads]
    exact ⟨_, rfl, silent.symm⟩
  | some target =>
    cases terminal : machine.definition.isTerminal target with
    | true =>
      rw [follow_end leads terminal]
      exact ⟨_, rfl, rfl⟩
    | false =>
      rw [follow_enter leads terminal]
      exact ⟨_, rfl, silent.symm⟩

end Following

/-- A running instance runs on until it has an output. -/
theorem running_dispatch
    {machine : Instance κ}
    {now : Timestamp}
    {event : Event}
    (running : machine.status = .running)
    (silent : (machine.dispatch now event).next.output = none) :
    (machine.dispatch now event).next.status = .running := by
  unfold Instance.dispatch at silent ⊢
  rw [running] at silent ⊢
  cases found : machine.transition? event.kind with
  | none => exact running
  | some transition =>
    simp only [found] at silent ⊢
    cases leads : transition.target with
    | none =>
      rw [follow_stay leads]
      exact running
    | some target =>
      cases terminal : machine.definition.isTerminal target with
      | true =>
        rw [follow_end leads terminal] at silent
        cases silent
      | false =>
        rw [follow_enter leads terminal]
        exact running

namespace Sound

variable {machine : Instance κ}

theorem silent_of_running
    (sound : machine.Sound effects)
    (running : machine.status = .running) :
    machine.output = none := by
  simpa [isDone, running] using sound.output

/-- An instance has an output exactly when it has ended. -/
theorem isDone_eq (sound : machine.Sound effects) :
    machine.isDone = machine.output.isSome := by
  rw [sound.output]
  cases machine.isDone <;> rfl

/-- A running instance answers every event, and the answer tells its output. -/
theorem result_dispatch
    (sound : machine.Sound effects)
    (running : machine.status = .running)
    (now : Timestamp)
    (event : Event) :
    ∃ outcome, (machine.dispatch now event).result = .ok outcome ∧
      outcome.output? = (machine.dispatch now event).next.output := by
  have silent := sound.silent_of_running running
  unfold Instance.dispatch
  rw [running]
  cases found : machine.transition? event.kind with
  | none => exact ⟨.ignored, rfl, silent.symm⟩
  | some transition => exact result_follow silent now event

end Sound

/-! ## Instances without notices -/

/-- What an instance without notices tells its subscribers in one or several calls: if it
had no output, its farewell, and nothing once it had told that. -/
structure Tells (before after : Instance κ) (sent : List (Delivery κ)) : Prop where
  id : after.id = before.id
  subscribers : after.subscribers = before.subscribers
  handles : after.nextSubscription = before.nextSubscription
  news : before.output = none → sent = after.farewell
  silence : before.output ≠ none → after = before ∧ sent = []

theorem Tells.refl (machine : Instance κ) : Tells machine machine [] where
  id := rfl
  subscribers := rfl
  handles := rfl
  news := fun silent => (farewell_of_silent silent).symm
  silence := fun _ => ⟨rfl, rfl⟩

theorem Tells.trans
    {first second third : Instance κ}
    {sent more : List (Delivery κ)}
    (before : Tells first second sent)
    (after : Tells second third more) :
    Tells first third (sent ++ more) where
  id := after.id.trans before.id
  subscribers := after.subscribers.trans before.subscribers
  handles := after.handles.trans before.handles
  news := by
    intro silent
    rw [before.news silent]
    cases output : second.output with
    | none => rw [farewell_of_silent output, after.news output, List.nil_append]
    | some value =>
      obtain ⟨same, nothing⟩ := after.silence (by simp [output])
      rw [same, nothing, List.append_nil]
  silence := by
    intro spoken
    obtain ⟨same, nothing⟩ := before.silence spoken
    obtain ⟨still, nothingMore⟩ := after.silence (same ▸ spoken)
    exact ⟨still.trans same, by rw [nothing, nothingMore, List.append_nil]⟩

namespace Sound

variable {machine : Instance κ}

/-- On an event, an instance whose effects are mute tells nothing but its farewell. -/
theorem tells_dispatch
    (sound : machine.Sound effects)
    (mute : effects.Mute)
    (now : Timestamp)
    (event : Event) :
    Tells machine (machine.dispatch now event).next (machine.dispatch now event).sent := by
  have id := id_dispatch machine now event
  have subscribers := subscribers_dispatch machine now event
  have handles := nextSubscription_dispatch machine now event
  unfold Instance.dispatch at id subscribers handles ⊢
  cases status : machine.status with
  | idle => exact .refl machine
  | done => exact .refl machine
  | running =>
    simp only [status] at id subscribers handles ⊢
    cases found : machine.transition? event.kind with
    | none => exact .refl machine
    | some transition =>
      simp only [found] at id subscribers handles ⊢
      have silent := sound.silent_of_running status
      obtain ⟨declared, _, resolved⟩ := sound.exists_declared found
      refine ⟨id, subscribers, handles, fun _ => ?_, fun spoken => absurd silent spoken⟩
      rw [sent_follow silent, notified, mute.notices_of_resolved resolved, List.flatMap_nil,
        List.nil_append]

/-- Starting an instance tells nothing but its farewell. -/
theorem tells_start (sound : machine.Sound effects) :
    Tells machine machine.start.next machine.start.sent := by
  unfold Instance.start
  cases status : machine.status with
  | idle =>
    have silent : machine.output = none := by
      simpa [isDone, status] using sound.output
    simp only
    split
    · exact ⟨rfl, rfl, rfl, fun _ => (farewell_finished machine).symm,
        fun spoken => absurd silent spoken⟩
    · exact ⟨rfl, rfl, rfl, fun _ => (farewell_of_silent silent).symm,
        fun spoken => absurd silent spoken⟩
  | running => exact .refl machine
  | done => exact .refl machine

end Sound

/-! ## Handles -/

/-- Every handle under which a subscriber is registered was made before. -/
def Numbered (machine : Instance κ) : Prop :=
  ∀ entry ∈ machine.subscribers, entry.1.number < machine.nextSubscription

/-- Exactly one subscriber is registered under a handle, at an outlet. -/
def Registers (subscription : Subscription) (outlet : κ) (machine : Instance κ) : Prop :=
  machine.subscribers.filter (·.1 = subscription) = [(subscription, outlet)]

section Handles

variable {machine after : Instance κ} {sent : List (Delivery κ)} {subscription : Subscription}
  {outlet : κ}

theorem Numbered.tells
    (numbered : machine.Numbered)
    (tells : machine.Tells after sent) :
    after.Numbered := by
  rw [Numbered, tells.subscribers, tells.handles]
  exact numbered

theorem Numbered.subscribe
    (numbered : machine.Numbered)
    (outlet : κ) :
    (machine.subscribe outlet).2.Numbered := by
  intro entry member
  rcases List.mem_append.1 member with before | new
  · exact Nat.lt_succ_of_lt (numbered entry before)
  · rw [List.mem_singleton.1 new]
    exact Nat.lt_succ_self _

theorem Numbered.unsubscribe
    (numbered : machine.Numbered)
    (subscription : Subscription) :
    (machine.unsubscribe subscription).2.Numbered :=
  fun entry member => numbered entry (List.mem_of_mem_filter member)

/-- A new subscriber is the only one under its handle. -/
theorem Numbered.registers_subscribe
    (numbered : machine.Numbered)
    (outlet : κ) :
    (machine.subscribe outlet).2.Registers (machine.subscribe outlet).1 outlet := by
  have fresh : machine.subscribers.filter (·.1 = ⟨machine.nextSubscription⟩) = [] := by
    rw [List.filter_eq_nil_iff]
    intro entry member same
    have older := numbered entry member
    rw [of_decide_eq_true same] at older
    exact Nat.lt_irrefl _ older
  let subscription : Subscription := ⟨machine.nextSubscription⟩
  show (machine.subscribers ++ [(subscription, outlet)]).filter (·.1 = subscription) =
    [(subscription, outlet)]
  rw [List.filter_append, fresh]
  simp

theorem Registers.mem (registers : machine.Registers subscription outlet) :
    (subscription, outlet) ∈ machine.subscribers := by
  apply List.mem_of_mem_filter
  rw [registers]
  exact .head _

theorem Registers.tells
    (registers : machine.Registers subscription outlet)
    (tells : machine.Tells after sent) :
    after.Registers subscription outlet := by
  rw [Registers, tells.subscribers]
  exact registers

theorem Registers.subscribe
    (registers : machine.Registers subscription outlet)
    (numbered : machine.Numbered)
    (other : κ) :
    (machine.subscribe other).2.Registers subscription outlet := by
  have older := numbered _ registers.mem
  have distinct : (⟨machine.nextSubscription⟩ : Subscription) ≠ subscription := by
    rintro rfl
    exact Nat.lt_irrefl _ older
  show (machine.subscribers ++ [_]).filter _ = _
  rw [List.filter_append, registers]
  simp [distinct]

theorem Registers.unsubscribe
    {other : Subscription}
    (registers : machine.Registers subscription outlet)
    (distinct : other ≠ subscription) :
    (machine.unsubscribe other).2.Registers subscription outlet := by
  show (machine.subscribers.filter _).filter _ = _
  rw [List.filter_comm, registers]
  simp [distinct.symm]

end Handles
end Instance
end Questionnaire
