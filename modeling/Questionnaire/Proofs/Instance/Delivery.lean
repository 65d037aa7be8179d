import Mathlib.Data.List.Induction
import Questionnaire.Proofs.Instance.Control

/-!
# Who hears what

Every signal of an instance reaches the subscribers that are registered at the time, in the
order in which they subscribed.  A subscriber is registered from the call on which it is
given its handle until the first one that removes this handle, and no handle is given twice.
-/

namespace Questionnaire
namespace Instance

variable {κ : Type} {definition : Definition} {effects : EffectTable} {given : Option Fields}
  {machine first : Instance κ}

/-! ## Signals -/

namespace Leg

/-- The signals of an instance on a call, whoever hears them: a notification for each notice,
and its output if it ends. -/
def emitted (leg : Leg κ) : List Signal :=
  leg.noticed.map .notify ++
    if leg.before.isDone then [] else leg.after.output.toList.map .done

/-- What is told on a call under which handle: each signal, to each subscriber. -/
def receipts (leg : Leg κ) : List (Subscription × Delivery κ) :=
  leg.emitted.flatMap fun signal =>
    leg.before.subscribers.map fun (subscription, outlet) =>
      (subscription, ⟨outlet, leg.before.envelope signal⟩)

/-- The registration that is made on a call: the handle that the host is given, and the
outlet. -/
def registered? (leg : Leg κ) : Option (Subscription × κ) :=
  match leg.action with
  | .subscribe outlet => some ((leg.before.subscribe outlet).1, outlet)
  | _ => none

/-- Whether a call removes what is registered under a handle. -/
def removes (subscription : Subscription) (leg : Leg κ) : Bool :=
  match leg.action with
  | .unsubscribe other => other = subscription
  | _ => false

/-- The receipts are the deliveries of the signals, each with the handle that it is for. -/
theorem map_receipts (leg : Leg κ) :
    leg.receipts.map Prod.snd = leg.before.broadcast leg.emitted := by
  unfold receipts broadcast
  rw [List.map_flatMap]
  simp only [List.map_map]
  rfl

end Leg

/-- The registrations that are in force after some calls, in the order in which they were
made: those whose handle no later call removed. -/
def inForce : List (Leg κ) → List (Subscription × κ)
  | [] => []
  | leg :: later =>
    (leg.registered?.filter fun entry => later.all fun other => !other.removes entry.1).toList
      ++ inForce later

/-- A further call removes what it removes, and then registers what it registers. -/
theorem inForce_concat (calls : List (Leg κ)) (leg : Leg κ) :
    inForce (calls ++ [leg]) =
      (inForce calls).filter (fun entry => !leg.removes entry.1) ++ leg.registered?.toList := by
  induction calls with
  | nil => cases registered : leg.registered? <;> simp [inForce, registered]
  | cons call calls ih =>
    rw [List.cons_append, inForce, ih, inForce, List.filter_append, List.append_assoc]
    congr 1
    cases call.registered? with
    | none => rfl
    | some entry =>
      simp only [Option.filter_some, List.all_append, List.all_cons, List.all_nil, Bool.and_true]
      cases calls.all _ <;> cases removed : leg.removes entry.1 <;> simp [removed]

/-! ## What is told on one call -/

/-- Starting an instance changes whether it runs, and nothing else. -/
theorem start_next_eq (machine : Instance κ) :
    ∃ status output, machine.start.next = { machine with status, output } := by
  unfold start
  split
  · split <;> exact ⟨_, _, rfl⟩
  · exact ⟨_, _, rfl⟩

/-- A call on which nobody is registered or removed leaves the registrations alone, and every
call leaves the identity and the definition. -/
theorem perform_keeps (machine : Instance κ) (action : Action κ) :
    (perform action machine).id = machine.id ∧
      (perform action machine).definition = machine.definition ∧
      (action.stimulus ≠ .registration →
        (perform action machine).subscribers = machine.subscribers ∧
          (perform action machine).nextSubscription = machine.nextSubscription) := by
  cases action with
  | start =>
    obtain ⟨_, _, same⟩ := start_next_eq machine
    rw [perform, same]
    exact ⟨rfl, rfl, fun _ => ⟨rfl, rfl⟩⟩
  | dispatch now event =>
    obtain ⟨_, _, _, _, _, same⟩ := dispatch_next_eq machine now event
    rw [perform, same]
    exact ⟨rfl, rfl, fun _ => ⟨rfl, rfl⟩⟩
  | subscribe outlet => exact ⟨rfl, rfl, fun other => absurd rfl other⟩
  | unsubscribe subscription => exact ⟨rfl, rfl, fun other => absurd rfl other⟩

theorem broadcast_perform
    {action : Action κ}
    (proper : action.stimulus ≠ .registration)
    (signals : List Signal) :
    (perform action machine).broadcast signals = machine.broadcast signals := by
  obtain ⟨id, definition, kept⟩ := perform_keeps machine action
  rw [broadcast, broadcast, id, definition, (kept proper).1]

/-- Registering and removing subscribers changes nothing else. -/
theorem perform_of_registration
    {action : Action κ}
    (machine : Instance κ)
    (registration : action.stimulus = .registration) :
    ∃ subscribers nextSubscription,
      perform action machine = { machine with subscribers, nextSubscription } := by
  cases action with
  | start => cases registration
  | dispatch now event => cases registration
  | subscribe outlet => exact ⟨_, _, rfl⟩
  | unsubscribe subscription => exact ⟨_, _, rfl⟩

theorem status_of_registration
    {action : Action κ}
    (registration : action.stimulus = .registration) :
    (perform action machine).status = machine.status := by
  obtain ⟨_, _, same⟩ := perform_of_registration machine registration
  rw [same]

namespace Held

theorem emitted_of_goesOn
    {action : Action κ}
    (held : machine.Held definition effects given)
    (goesOn : (Instance.perform action machine).status ≠ .done) :
    let leg : Leg κ := ⟨machine, action⟩
    leg.emitted = leg.noticed.map .notify := by
  have silent : (Instance.perform action machine).output = none := by
    simpa [isDone, goesOn] using (held.perform action).sound.output
  simp [Leg.emitted, Leg.after, silent]

theorem emitted_of_registration
    {action : Action κ}
    (held : machine.Held definition effects given)
    (registration : action.stimulus = .registration) :
    (⟨machine, action⟩ : Leg κ).emitted = [] := by
  have unnoticed : (⟨machine, action⟩ : Leg κ).noticed = [] := by
    cases action with
    | start => rfl
    | dispatch now event => cases registration
    | subscribe outlet => rfl
    | unsubscribe subscription => rfl
  by_cases done : machine.status = .done
  · simp [Leg.emitted, unnoticed, isDone, done]
  · have goesOn : (Instance.perform action machine).status ≠ .done := by
      rwa [status_of_registration registration]
    rw [emitted_of_goesOn held goesOn, unnoticed]
    rfl

/-- The signals of a call are sent to the subscribers that are registered then. -/
theorem sent_leg
    (held : machine.Held definition effects given)
    (action : Action κ) :
    (⟨machine, action⟩ : Leg κ).sent =
      machine.broadcast (⟨machine, action⟩ : Leg κ).emitted := by
  by_cases done : machine.status = .done
  · have remains : Remains machine machine := ⟨done, rfl, rfl, rfl, rfl, rfl⟩
    have unnoticed : (⟨machine, action⟩ : Leg κ).noticed = [] := by
      cases action <;> simp [Leg.noticed, done]
    rw [(remains.lasts action).silent]
    simp [Leg.emitted, unnoticed, isDone, done, broadcast]
  · rcases held.sound.proceeds done action with continues | ⟨output, ends⟩
    · rw [continues.told, emitted_of_goesOn held continues.goesOn]
      rfl
    · have proper : action.stimulus ≠ .registration := by
        intro registration
        exact done ((status_of_registration registration).symm.trans ends.done)
      have farewell : (⟨machine, action⟩ : Leg κ).after.broadcast [.done output] =
          machine.broadcast [.done output] := broadcast_perform proper _
      have emitted : (⟨machine, action⟩ : Leg κ).emitted =
          (⟨machine, action⟩ : Leg κ).noticed.map .notify ++ [.done output] := by
        simp [Leg.emitted, ends.outputs, isDone, done]
      rw [ends.told, farewell, emitted, broadcast_append]
      rfl

end Held

/-! ## Registrations -/

theorem subscribers_perform (machine : Instance κ) (action : Action κ) :
    let leg : Leg κ := ⟨machine, action⟩
    (perform action machine).subscribers =
      machine.subscribers.filter (fun entry => !leg.removes entry.1) ++
        leg.registered?.toList := by
  obtain ⟨_, _, kept⟩ := perform_keeps machine action
  cases action with
  | start => simpa [Leg.removes, Leg.registered?] using (kept (by simp [Action.stimulus])).1
  | dispatch now event =>
    simpa [Leg.removes, Leg.registered?] using (kept (by simp [Action.stimulus])).1
  | subscribe outlet => simp [Leg.removes, Leg.registered?, perform, subscribe]
  | unsubscribe subscription =>
    simp [Leg.removes, Leg.registered?, perform, unsubscribe, eq_comm]

theorem nextSubscription_perform (machine : Instance κ) (action : Action κ) :
    (perform action machine).nextSubscription =
      machine.nextSubscription + (⟨machine, action⟩ : Leg κ).registered?.toList.length := by
  obtain ⟨_, _, kept⟩ := perform_keeps machine action
  cases action with
  | start => exact (kept (by simp [Action.stimulus])).2
  | dispatch now event => exact (kept (by simp [Action.stimulus])).2
  | subscribe outlet => rfl
  | unsubscribe subscription => rfl

/-- Registered are those whose registrations are in force. -/
theorem subscribers_run
    (unheard : first.subscribers = [])
    (actions : List (Action κ)) :
    (run actions first).subscribers = inForce (legs actions first) := by
  induction actions using List.reverseRecOn with
  | nil => exact unheard
  | append_singleton actions action ih =>
    rw [run_append, legs_append, run, run, subscribers_perform, ih]
    exact (inForce_concat _ _).symm

/-- The handles that a host is given on some calls. -/
def handles (calls : List (Leg κ)) : List Subscription :=
  (calls.filterMap Leg.registered?).map Prod.fst

theorem handles_append (earlier later : List (Leg κ)) :
    handles (earlier ++ later) = handles earlier ++ handles later := by
  rw [handles, List.filterMap_append, List.map_append]
  rfl

theorem handles_cons (leg : Leg κ) (later : List (Leg κ)) :
    handles (leg :: later) = (leg.registered?.toList.map Prod.fst) ++ handles later := by
  cases registered : leg.registered? <;> simp [handles, registered]

/-- The handle of a new registration is the number of those before. -/
theorem number_of_registered
    {action : Action κ}
    {entry : Subscription × κ}
    (registered : (⟨machine, action⟩ : Leg κ).registered? = some entry) :
    entry.1 = ⟨machine.nextSubscription⟩ := by
  cases action with
  | subscribe outlet =>
    cases registered
    rfl
  | _ => cases registered

/-- No handle is given twice, or was given before. -/
theorem nodup_handles (actions : List (Action κ)) (machine : Instance κ) :
    (∀ handle ∈ handles (legs actions machine), machine.nextSubscription ≤ handle.number) ∧
      (handles (legs actions machine)).Nodup := by
  induction actions generalizing machine with
  | nil => simp [legs, handles]
  | cons action actions ih =>
    obtain ⟨later, distinct⟩ := ih (perform action machine)
    have counted := nextSubscription_perform machine action
    rw [legs, handles_cons]
    cases registered : (⟨machine, action⟩ : Leg κ).registered? with
    | none =>
      rw [registered] at counted
      rw [counted] at later
      exact ⟨later, distinct⟩
    | some entry =>
      rw [registered] at counted
      have number := number_of_registered registered
      have fresh : ∀ handle ∈ handles (legs actions (perform action machine)),
          machine.nextSubscription < handle.number := by
        intro handle member
        have after := later handle member
        rw [counted] at after
        exact after
      rw [Option.toList_some, List.map_singleton, List.singleton_append, List.forall_mem_cons,
        List.nodup_cons, number]
      refine ⟨⟨Nat.le_refl _, fun handle member => Nat.le_of_lt (fresh handle member)⟩, ?_,
        distinct⟩
      intro again
      exact Nat.lt_irrefl _ (fresh _ again)

/-! ## What one subscriber hears -/

section Hearing

variable {subscription : Subscription} {outlet : κ}

/-- What is registered under a handle. -/
def entriesUnder (subscription : Subscription) (machine : Instance κ) : List (Subscription × κ) :=
  machine.subscribers.filter (·.1 = subscription)

/-- What is told on some calls under a handle. -/
def heardUnder (subscription : Subscription) (calls : List (Leg κ)) :
    List (Subscription × Delivery κ) :=
  (calls.flatMap Leg.receipts).filter (·.1 = subscription)

theorem heardUnder_append (earlier later : List (Leg κ)) :
    heardUnder subscription (earlier ++ later) =
      heardUnder subscription earlier ++ heardUnder subscription later := by
  unfold heardUnder
  rw [List.flatMap_append, List.filter_append]

theorem heardUnder_cons (leg : Leg κ) (later : List (Leg κ)) :
    heardUnder subscription (leg :: later) =
      (leg.emitted.flatMap fun signal =>
        (leg.before.entriesUnder subscription).map fun (handle, outlet) =>
          (handle, ⟨outlet, leg.before.envelope signal⟩)) ++
        heardUnder subscription later := by
  unfold heardUnder
  rw [List.flatMap_cons, List.filter_append]
  congr 1
  simp only [Leg.receipts, entriesUnder, List.filter_flatMap, List.filter_map]
  rfl

/-- On a call, what is registered under a handle that is not given then stays, unless it is
removed. -/
theorem entriesUnder_perform
    {action : Action κ}
    (ungiven : subscription ∉ (⟨machine, action⟩ : Leg κ).registered?.toList.map Prod.fst) :
    (perform action machine).entriesUnder subscription =
      if (⟨machine, action⟩ : Leg κ).removes subscription then []
      else machine.entriesUnder subscription := by
  let leg : Leg κ := ⟨machine, action⟩
  have new : leg.registered?.toList.filter (·.1 = subscription) = [] := by
    rw [List.filter_eq_nil_iff]
    intro entry member same
    exact ungiven (List.mem_map.2 ⟨entry, member, of_decide_eq_true same⟩)
  unfold entriesUnder
  rw [subscribers_perform, List.filter_append, new, List.append_nil, List.filter_filter]
  split
  · rename_i removed
    rw [List.filter_eq_nil_iff]
    intro entry _ both
    simp only [Bool.and_eq_true, decide_eq_true_eq] at both
    rw [both.1, removed] at both
    exact absurd both.2 (by decide)
  · rename_i kept
    apply List.filter_congr
    intro entry _
    by_cases same : entry.1 = subscription
    · simp [same, kept]
    · simp [same]

/-- Nothing is told under a handle under which nothing is registered. -/
theorem heardUnder_of_absent
    {actions : List (Action κ)}
    (absent : machine.entriesUnder subscription = [])
    (ungiven : subscription ∉ handles (legs actions machine)) :
    heardUnder subscription (legs actions machine) = [] := by
  induction actions generalizing machine with
  | nil => rfl
  | cons action actions ih =>
    rw [legs, handles_cons, List.mem_append, not_or] at ungiven
    have stays := entriesUnder_perform ungiven.1
    rw [absent, ite_self] at stays
    rw [legs, heardUnder_cons, ih stays ungiven.2]
    simp [absent]

/-- Under a handle under which one subscriber is registered, every signal is told to it until
it is removed, and nothing afterwards. -/
theorem Held.heardUnder_of_registers
    {actions : List (Action κ)}
    (held : machine.Held definition effects given)
    (registers : machine.Registers subscription outlet)
    (ungiven : subscription ∉ handles (legs actions machine)) :
    heardUnder subscription (legs actions machine) =
      ((legs actions machine).takeWhile fun leg => !leg.removes subscription).flatMap fun leg =>
        leg.emitted.map fun signal => (subscription, ⟨outlet, machine.envelope signal⟩) := by
  induction actions generalizing machine with
  | nil => rfl
  | cons action actions ih =>
    rw [legs, handles_cons, List.mem_append, not_or] at ungiven
    have stays := entriesUnder_perform ungiven.1
    have entries : machine.entriesUnder subscription = [(subscription, outlet)] := registers
    rw [legs, heardUnder_cons]
    cases removed : (⟨machine, action⟩ : Leg κ).removes subscription with
    | true =>
      -- The removal itself sends nothing, and afterwards nothing is registered under the handle.
      rw [removed, if_pos rfl] at stays
      have registration : action.stimulus = .registration := by
        cases action with
        | unsubscribe other => rfl
        | _ => cases removed
      rw [heardUnder_of_absent stays ungiven.2, held.emitted_of_registration registration]
      simp [removed]
    | false =>
      rw [removed, if_neg Bool.false_ne_true, entries] at stays
      obtain ⟨id, definition, _⟩ := perform_keeps machine action
      rw [ih (held.perform action) stays ungiven.2]
      simp [removed, entries, envelope, id, definition, List.map_eq_flatMap]

end Hearing

/-! ## Runs -/

theorem Numbered.perform
    (numbered : machine.Numbered)
    (action : Action κ) :
    (Instance.perform action machine).Numbered := by
  obtain ⟨_, _, kept⟩ := perform_keeps machine action
  cases action with
  | subscribe outlet => exact numbered.subscribe outlet
  | unsubscribe subscription => exact numbered.unsubscribe subscription
  | start =>
    obtain ⟨subscribers, count⟩ := kept (by simp [Action.stimulus])
    rwa [Numbered, subscribers, count]
  | dispatch now event =>
    obtain ⟨subscribers, count⟩ := kept (by simp [Action.stimulus])
    rwa [Numbered, subscribers, count]

theorem Numbered.run
    (numbered : machine.Numbered)
    (actions : List (Action κ)) :
    (Instance.run actions machine).Numbered := by
  induction actions generalizing machine with
  | nil => exact numbered
  | cons action actions ih => exact ih (numbered.perform action)

theorem envelope_run
    (actions : List (Action κ))
    (machine : Instance κ)
    (signal : Signal) :
    (run actions machine).envelope signal = machine.envelope signal := by
  induction actions generalizing machine with
  | nil => rfl
  | cons action actions ih =>
    obtain ⟨id, definition, _⟩ := perform_keeps machine action
    rw [run, ih, envelope, envelope, id, definition]

/-- Nobody subscribed to an instance that a host just came by. -/
theorem Obtained.unheard (obtained : Obtained definition effects given first) :
    first.subscribers = [] := by
  cases obtained with
  | built created =>
    obtain ⟨_, _, _, rfl⟩ := create_eq_ok_iff.1 created
    rfl
  | resumed resumed =>
    obtain ⟨_, fresh, _, built, _, rfl⟩ := exists_restored_of_resume resumed
    obtain ⟨_, _, _, rfl⟩ := create_eq_ok_iff.1 built
    obtain ⟨_, _, _, restored⟩ := restored_eq _ _
    rw [restored]
    rfl

/-- Exact delivery, whatever a host does with an instance: no handle is given twice; registered
are those whose registrations are in force; a removal tells whether there was one under its
handle, and removes only that; what is sent on a call are its signals, each to those
registered, in the order of their subscriptions; under the handle of a subscriber, every
signal from then to the removal of the handle is told, and no other; and registering and
removing change nothing but who is registered. -/
structure DeliversExactly (first : Instance κ) : Prop where
  distinct : ∀ actions, (handles (legs actions first)).Nodup
  registry : ∀ actions, (run actions first).subscribers = inForce (legs actions first)
  removal : ∀ actions subscription,
    let removed := (run actions first).unsubscribe subscription
    (removed.1 = true ↔ subscription ∈ (inForce (legs actions first)).map Prod.fst) ∧
      removed.2.subscribers = (inForce (legs actions first)).filter (·.1 ≠ subscription)
  told : ∀ actions action,
    let leg : Leg κ := ⟨run actions first, action⟩
    leg.sent = leg.receipts.map Prod.snd ∧
      leg.receipts = leg.emitted.flatMap fun signal =>
        (inForce (legs actions first)).map fun (subscription, outlet) =>
          (subscription, ⟨outlet, ⟨first.id, first.definition.id, signal⟩⟩)
  heard : ∀ earlier outlet later,
    let registered := (run earlier first).subscribe outlet
    heardUnder registered.1 (legs (earlier ++ .subscribe outlet :: later) first) =
      ((legs later registered.2).takeWhile fun leg => !leg.removes registered.1).flatMap
        fun leg => leg.emitted.map fun signal =>
          (registered.1, ⟨outlet, ⟨first.id, first.definition.id, signal⟩⟩)
  apart : ∀ actions action, action.stimulus = .registration →
    ∃ subscribers nextSubscription,
      perform action (run actions first) =
        { run actions first with subscribers, nextSubscription }

theorem Held.heard
    (held : first.Held definition effects given)
    (unheard : first.subscribers = [])
    (earlier : List (Action κ))
    (outlet : κ)
    (later : List (Action κ)) :
    let registered := (Instance.run earlier first).subscribe outlet
    heardUnder registered.1 (legs (earlier ++ .subscribe outlet :: later) first) =
      ((legs later registered.2).takeWhile fun leg => !leg.removes registered.1).flatMap
        fun leg => leg.emitted.map fun signal =>
          (registered.1, ⟨outlet, first.envelope signal⟩) := by
  intro registered
  let action : Action κ := .subscribe outlet
  have heldThen := held.run earlier
  have heldAfter := heldThen.perform action
  have numbered : first.Numbered := by
    intro entry member
    rw [unheard] at member
    cases member
  have absent : first.entriesUnder registered.1 = [] := by
    rw [entriesUnder, unheard, List.filter_nil]
  -- The handle is given on this call, so it is given on no other.
  have distinct := (nodup_handles (earlier ++ action :: later) first).2
  rw [legs_append, legs, handles_append, handles_cons, List.nodup_append] at distinct
  obtain ⟨_, thenAfter, apart⟩ := distinct
  have ungivenBefore : registered.1 ∉ handles (legs earlier first) :=
    fun before => apart _ before _ List.mem_cons_self rfl
  have ungivenAfter : registered.1 ∉ handles (legs later registered.2) :=
    (List.nodup_cons.1 thenAfter).1
  have sameEnvelope (signal : Signal) :
      (Instance.perform action (Instance.run earlier first)).envelope signal =
        first.envelope signal :=
    envelope_run earlier first signal
  have told := heldAfter.heardUnder_of_registers
    ((numbered.run earlier).registers_subscribe outlet) ungivenAfter
  simp only [sameEnvelope] at told
  rw [legs_append, legs, heardUnder_append, heardUnder_of_absent absent ungivenBefore,
    heardUnder_cons, heldThen.emitted_of_registration rfl]
  exact told

/-- However a host came by an instance, it delivers exactly. -/
theorem deliversExactly_of_obtained (obtained : Obtained definition effects given first) :
    DeliversExactly first := by
  have registry := subscribers_run obtained.unheard
  refine ⟨fun actions => (nodup_handles actions first).2, registry, ?_, ?_,
    obtained.held.heard obtained.unheard, ?_⟩
  · intro actions subscription
    constructor
    · rw [← registry actions]
      simp [unsubscribe, isSubscribed]
    · rw [← registry actions]
      rfl
  · intro actions action
    constructor
    · rw [Leg.map_receipts]
      exact (obtained.held.run actions).sent_leg action
    · rw [← registry actions]
      unfold Leg.receipts
      simp only [envelope_run]
      rfl
  · intro actions action registration
    exact perform_of_registration _ registration

/-- What a host does with an instance that rings on `ADD` and ends on `STOP`: two subscribe,
and the first leaves for the time of the second ring. -/
def comingAndGoing : List (Action String) :=
  [.subscribe "screen", .subscribe "log", .start, .dispatch .epoch (.ofKind "ADD"),
    .unsubscribe ⟨0⟩, .dispatch .epoch (.ofKind "ADD"), .subscribe "screen",
    .dispatch .epoch (.ofKind "STOP")]

/-- Both hear the first ring, the one that stayed hears the second, and it hears of the end
before the one that came back. -/
theorem deliversExactly_of_comingAndGoing :
    ∃ first : Instance String,
      create tallyIds.1 tally noticeEffects ∅ = .ok first ∧
      ((legs comingAndGoing first).flatMap Leg.sent).map
          (fun delivery => (delivery.outlet, delivery.envelope.signal)) =
        [("screen", .notify (.ofKind "ADD")), ("log", .notify (.ofKind "ADD")),
          ("log", .notify (.ofKind "ADD")), ("log", .done (.obj [])),
          ("screen", .done (.obj []))] ∧
      handles (legs comingAndGoing first) = [⟨0⟩, ⟨1⟩, ⟨2⟩] ∧
      DeliversExactly first := by
  have checked : (create tallyIds.1 tally noticeEffects ∅).toOption.any
      (fun first => decide (((legs comingAndGoing first).flatMap Leg.sent).map
          (fun delivery => (delivery.outlet, delivery.envelope.signal)) =
        [("screen", .notify (.ofKind "ADD")), ("log", .notify (.ofKind "ADD")),
          ("log", .notify (.ofKind "ADD")), ("log", .done (.obj [])),
          ("screen", .done (.obj []))]) &&
        decide (handles (legs comingAndGoing first) = [⟨0⟩, ⟨1⟩, ⟨2⟩])) = true := by
    decide +kernel
  obtain ⟨first, built, passed⟩ := (Option.any_eq_true _ _).1 checked
  obtain ⟨heard, given⟩ := Bool.and_eq_true_iff.1 passed
  have created := toOption_eq_some_iff.1 built
  exact ⟨first, created, of_decide_eq_true heard, of_decide_eq_true given,
    deliversExactly_of_obtained (.built created)⟩

end Instance
end Questionnaire
