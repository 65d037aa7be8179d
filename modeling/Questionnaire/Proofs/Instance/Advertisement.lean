import Questionnaire.Proofs.Instance.Ending
import Questionnaire.Proofs.Instance.Semantics

/-!
# The events that an instance advertises

A snapshot lists event types as the definition declares them for the current state, while an
event is looked up in the resolved table.  The two agree: a running instance takes the events
that it advertises, and ignores all others.  It advertises none once it has ended of itself.
-/

namespace Questionnaire
namespace Instance

variable {κ : Type} {definition : Definition} {effects : EffectTable} {given : Option Fields}
  {machine : Instance κ}

/-! ## Advertised and resolved -/

theorem nextEvents_increasing (machine : Instance κ) : machine.nextEvents.Pairwise (· < ·) := by
  unfold nextEvents
  cases machine.node? with
  | none => exact .nil
  | some node => exact node.on.keys_increasing

theorem mem_nextEvents_iff {kind : String} :
    kind ∈ machine.nextEvents ↔
      ∃ declared, machine.definition.transition? machine.current kind = some declared := by
  unfold nextEvents Definition.transition?
  change kind ∈ machine.node?.elim [] StateNode.nextEvents ↔
    ∃ declared, (machine.node?.bind fun node => node.on.get? kind) = some declared
  cases machine.node? with
  | none => simp
  | some node => exact KeyMap.mem_keys_iff

/-- The table has a transition for the events that are advertised, and for no others. -/
theorem Sound.transition?_eq_none_iff
    (sound : machine.Sound effects)
    {kind : String} :
    machine.transition? kind = none ↔ kind ∉ machine.nextEvents := by
  rw [mem_nextEvents_iff]
  have related := sound.transition? kind
  generalize machine.definition.transition? machine.current kind = declared? at related ⊢
  generalize machine.transition? kind = transition? at related ⊢
  cases related <;> simp

/-! ## Taken and ignored -/

theorem exists_result_follow
    (now : Timestamp)
    (event : Event)
    (transition : ResolvedTransition)
    (machine : Instance κ) :
    ∃ outcome, (machine.follow now event transition).result = .ok outcome ∧
      outcome ≠ .ignored := by
  cases leads : transition.target with
  | none =>
    rw [follow_stay leads]
    exact ⟨_, rfl, nofun⟩
  | some target =>
    cases terminal : machine.definition.isTerminal target with
    | true =>
      rw [follow_end leads terminal]
      exact ⟨_, rfl, nofun⟩
    | false =>
      rw [follow_enter leads terminal]
      exact ⟨_, rfl, nofun⟩

/-- A running instance does nothing on an event that it does not advertise. -/
theorem Sound.dispatch_of_unadvertised
    {event : Event}
    (sound : machine.Sound effects)
    (running : machine.status = .running)
    (unadvertised : event.kind ∉ machine.nextEvents)
    (now : Timestamp) :
    machine.dispatch now event = ⟨machine, .ok .ignored, []⟩ := by
  have absent := sound.transition?_eq_none_iff.2 unadvertised
  simp [Instance.dispatch, running, absent]

theorem Sound.result_of_advertised
    {event : Event}
    (sound : machine.Sound effects)
    (running : machine.status = .running)
    (advertised : event.kind ∈ machine.nextEvents)
    (now : Timestamp) :
    ∃ outcome, (machine.dispatch now event).result = .ok outcome ∧ outcome ≠ .ignored := by
  cases found : machine.transition? event.kind with
  | none => exact absurd advertised (sound.transition?_eq_none_iff.1 found)
  | some transition =>
    rw [dispatch_eq_follow running found]
    exact exists_result_follow now event transition machine

/-! ## Nothing left to take -/

/-- An instance that has ended did so in a terminal state. -/
def EndsAtTerminal (machine : Instance κ) : Prop :=
  machine.status = .done → machine.atTerminal = true

/-- On a call an instance ends in a terminal state or not at all. -/
theorem Held.endsAtTerminal_perform
    (held : machine.Held definition effects given)
    (endsAtTerminal : machine.EndsAtTerminal)
    (action : Action κ) :
    (Instance.perform action machine).EndsAtTerminal := by
  intro done
  have same : (Instance.perform action machine).definition = machine.definition :=
    (held.perform action).runs.trans held.runs.symm
  rw [atTerminal, same]
  -- After the end no call moves the instance, so the state it ended in is still the current one.
  by_cases ended : machine.status = .done
  · have remains : Remains machine machine := ⟨ended, rfl, rfl, rfl, rfl, rfl⟩
    have still : Remains machine (Instance.perform action machine) :=
      (remains.lasts action).remains
    rw [still.current]
    exact endsAtTerminal ended
  · rcases held.sound.proceeds ended action with continues | ⟨output, ends⟩
    · exact absurd done continues.goesOn
    · exact ends.terminal

theorem Held.endsAtTerminal_run
    (held : machine.Held definition effects given)
    (endsAtTerminal : machine.EndsAtTerminal)
    (actions : List (Action κ)) :
    (Instance.run actions machine).EndsAtTerminal := by
  induction actions generalizing machine with
  | nil => exact endsAtTerminal
  | cons action actions ih =>
    exact ih (held.perform action) (held.endsAtTerminal_perform endsAtTerminal action)

/-- A terminal state of a valid definition has no transitions to advertise. -/
theorem Sound.nextEvents_of_terminal
    (sound : machine.Sound effects)
    (terminal : machine.atTerminal = true) :
    machine.nextEvents = [] := by
  obtain ⟨node, found⟩ := sound.current
  have state : machine.definition.state? machine.current = some node := found
  rw [atTerminal, Definition.isTerminal, state] at terminal
  rw [nextEvents, found, Option.elim_some, StateNode.nextEvents,
    sound.valid.on_eq_empty state terminal]
  rfl

/-- However an instance was reached, it can be driven on as one that was built or resumed. -/
theorem Reachable.exists_held
    (reached : Reachable definition effects machine) :
    ∃ given, machine.Held definition effects given := by
  induction reached with
  | create created => exact ⟨_, (Obtained.built created).held⟩
  | start _ ih => exact ih.imp fun _ held => held.perform .start
  | dispatch _ now event ih => exact ih.imp fun _ held => held.perform (.dispatch now event)
  | subscribe _ outlet ih => exact ih.imp fun _ held => held.perform (.subscribe outlet)
  | unsubscribe _ subscription ih =>
    exact ih.imp fun _ held => held.perform (.unsubscribe subscription)
  | resume resumed => exact ⟨_, (Obtained.resumed resumed).held⟩

/-- A snapshot lists the events that an instance takes, in order and each once.  While it runs,
these are answered, and all others are ignored, which changes nothing and tells nothing.  If it
ends on some later call, be it a start or an event, then nothing is listed from there on. -/
structure Advertises (machine : Instance κ) : Prop where
  increasing : machine.snapshot.nextEvents.Pairwise (· < ·)
  ignored_iff : machine.status = .running → ∀ now event,
    (machine.dispatch now event).result = .ok .ignored ↔
      event.kind ∉ machine.snapshot.nextEvents
  taken_iff : machine.status = .running → ∀ now event,
    (∃ outcome, (machine.dispatch now event).result = .ok outcome ∧ outcome ≠ .ignored) ↔
      event.kind ∈ machine.snapshot.nextEvents
  untouched : machine.status = .running → ∀ now event,
    (machine.dispatch now event).result = .ok .ignored →
      machine.dispatch now event = ⟨machine, .ok .ignored, []⟩
  exhausted : machine.status ≠ .done → ∀ actions, (run actions machine).status = .done →
    (run actions machine).snapshot.nextEvents = []

/-- However an instance was reached, the events that it advertises are those that it takes. -/
theorem advertises_of_reachable (reached : Reachable definition effects machine) :
    machine.Advertises := by
  obtain ⟨given, held⟩ := reached.exists_held
  have ignores (running : machine.status = .running) (now : Timestamp) (event : Event) :
      (machine.dispatch now event).result = .ok .ignored ↔
        event.kind ∉ machine.nextEvents := by
    constructor
    · intro ignored advertised
      obtain ⟨outcome, result, taken⟩ := held.sound.result_of_advertised running advertised now
      exact taken (Except.ok.inj (result.symm.trans ignored))
    · intro unadvertised
      rw [held.sound.dispatch_of_unadvertised running unadvertised now]
  refine ⟨machine.nextEvents_increasing, ignores, ?_, ?_, ?_⟩
  · intro running now event
    constructor
    · rintro ⟨outcome, result, taken⟩
      by_contra unadvertised
      have ignored := (ignores running now event).2 unadvertised
      exact taken (Except.ok.inj (result.symm.trans ignored))
    · intro advertised
      exact held.sound.result_of_advertised running advertised now
  · intro running now event ignored
    exact held.sound.dispatch_of_unadvertised running ((ignores running now event).1 ignored) now
  · intro alive actions done
    have terminal := held.endsAtTerminal_run (fun ended => absurd ended alive) actions done
    exact (held.run actions).sound.nextEvents_of_terminal terminal

/-- The open till advertises that it is closed and that something is sold; once it is closed
it advertises nothing. -/
theorem advertises_of_till :
    ∃ first : Instance Unit,
      create tallyIds.1 till tillEffects ∅ = .ok first ∧
      (opened first).status = .running ∧
      (opened first).snapshot.nextEvents = ["CLOSE", "SALE"] ∧
      (run [.dispatch .epoch (.ofKind "CLOSE")] (opened first)).status = .done ∧
      Reachable till tillEffects (opened first) ∧
      (opened first).Advertises := by
  have checked : (create tallyIds.1 till tillEffects ∅).toOption.any
      (fun first => decide ((opened first).status = .running) &&
        decide ((opened first).snapshot.nextEvents = ["CLOSE", "SALE"]) &&
        decide ((run [.dispatch .epoch (.ofKind "CLOSE")] (opened first)).status = .done)) =
          true := by
    decide +kernel
  obtain ⟨first, built, passed⟩ := (Option.any_eq_true _ _).1 checked
  have created := toOption_eq_some_iff.1 built
  simp only [Bool.and_eq_true, decide_eq_true_eq] at passed
  obtain ⟨⟨running, listed⟩, closed⟩ := passed
  have reached : Reachable till tillEffects (opened first) :=
    .start (.subscribe (.create created) ())
  exact ⟨first, created, running, listed, closed, reached, advertises_of_reachable reached⟩

end Instance
end Questionnaire
