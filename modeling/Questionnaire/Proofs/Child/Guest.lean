import Questionnaire.Proofs.Instance.Delivery

/-!
# Children that a parent hears

What an instance does and says does not depend on who hears it.  So a parent that listens
to a child hears the signals of the child as it would be on its own, and once the parent
leaves, the child is as if the parent had never listened, but for a handle that is used up.
-/

namespace Questionnaire
namespace Instance

variable {κ : Type} {definition : Definition} {effects : EffectTable} {given : Option Fields}
  {machine child : Instance κ} {action : Action κ} {parent : κ}

/-! ## Other subscribers -/

/-- The instance with other subscribers. -/
def heardBy (subscribers : List (Subscription × κ)) (machine : Instance κ) : Instance κ :=
  { machine with subscribers }

theorem start_heardBy (subscribers : List (Subscription × κ)) (machine : Instance κ) :
    (machine.heardBy subscribers).start.next = machine.start.next.heardBy subscribers := by
  have terminal : (machine.heardBy subscribers).atTerminal = machine.atTerminal := rfl
  have status : (machine.heardBy subscribers).status = machine.status := rfl
  unfold start
  rw [terminal, status]
  split
  · split <;> rfl
  · rfl

theorem follow_heardBy
    (subscribers : List (Subscription × κ))
    (machine : Instance κ)
    (now : Timestamp)
    (event : Event)
    (transition : ResolvedTransition) :
    ((machine.heardBy subscribers).follow now event transition).next =
      (machine.follow now event transition).next.heardBy subscribers := by
  cases leads : transition.target with
  | none =>
    rw [follow_stay leads, follow_stay leads]
    rfl
  | some target =>
    have same : (machine.heardBy subscribers).definition.isTerminal target =
        machine.definition.isTerminal target := rfl
    cases terminal : machine.definition.isTerminal target with
    | true =>
      rw [follow_end leads terminal, follow_end leads (same.trans terminal)]
      rfl
    | false =>
      rw [follow_enter leads terminal, follow_enter leads (same.trans terminal)]
      rfl

theorem perform_heardBy
    (proper : action.stimulus ≠ .registration)
    (subscribers : List (Subscription × κ))
    (machine : Instance κ) :
    perform action (machine.heardBy subscribers) =
      (perform action machine).heardBy subscribers := by
  cases action with
  | start => exact start_heardBy subscribers machine
  | dispatch now event =>
    have status : (machine.heardBy subscribers).status = machine.status := rfl
    have transition : (machine.heardBy subscribers).transition? event.kind =
        machine.transition? event.kind := rfl
    unfold perform dispatch
    dsimp only
    rw [status, transition]
    split
    · rfl
    · rfl
    · split
      · rfl
      · exact follow_heardBy subscribers machine now event _
  | subscribe outlet => exact absurd rfl proper
  | unsubscribe subscription => exact absurd rfl proper

theorem emitted_heardBy
    (proper : action.stimulus ≠ .registration)
    (subscribers : List (Subscription × κ))
    (machine : Instance κ) :
    (⟨machine.heardBy subscribers, action⟩ : Leg κ).emitted =
      (⟨machine, action⟩ : Leg κ).emitted := by
  unfold Leg.emitted Leg.after
  dsimp only
  rw [perform_heardBy proper]
  rfl

theorem Held.heardBy
    (held : machine.Held definition effects given)
    (subscribers : List (Subscription × κ)) :
    (machine.heardBy subscribers).Held definition effects given :=
  ⟨⟨held.sound.valid, held.sound.resolved, held.sound.current, held.sound.live,
    held.sound.output⟩, held.runs, held.untouched⟩

/-- What is sent to one outlet on a call: each signal, as often as the outlet is registered. -/
theorem Held.sent_to
    [DecidableEq κ]
    (held : machine.Held definition effects given)
    (action : Action κ)
    (outlet : κ) :
    (⟨machine, action⟩ : Leg κ).sent.filter (·.outlet = outlet) =
      (⟨machine, action⟩ : Leg κ).emitted.flatMap fun signal =>
        (machine.subscribers.filter (·.2 = outlet)).map fun entry =>
          ⟨entry.2, machine.envelope signal⟩ := by
  rw [held.sent_leg, broadcast, List.filter_flatMap]
  simp only [List.filter_map]
  rfl

/-! ## Guests -/

/-- A child that a host may bring to a parent: an instance with which anything was done, as
long as the parent does not hear it. -/
structure Guest (parent : κ) (child : Instance κ) : Prop where
  obtained : ∃ definition effects given first actions,
    Obtained definition effects given first ∧ child = run actions first
  unheard : ∀ entry ∈ child.subscribers, entry.2 ≠ parent

namespace Guest

theorem exists_held (guest : child.Guest parent) :
    ∃ definition effects given, child.Held definition effects given := by
  obtain ⟨definition, effects, given, first, actions, obtained, rfl⟩ := guest.obtained
  exact ⟨definition, effects, given, obtained.held.run actions⟩

theorem of_obtained
    (obtained : Obtained definition effects given child)
    (parent : κ) :
    child.Guest parent := by
  refine ⟨⟨definition, effects, given, child, [], obtained, rfl⟩, ?_⟩
  rw [obtained.unheard]
  simp

theorem numbered (guest : child.Guest parent) : child.Numbered := by
  obtain ⟨_, _, _, first, actions, obtained, rfl⟩ := guest.obtained
  have numbered : first.Numbered := by
    intro entry member
    rw [obtained.unheard] at member
    cases member
  exact numbered.run actions

/-- Whatever is done with a guest, it stays one unless the parent subscribes. -/
theorem perform
    (guest : child.Guest parent)
    (apart : action ≠ .subscribe parent) :
    (perform action child).Guest parent := by
  constructor
  · obtain ⟨definition, effects, given, first, actions, obtained, rfl⟩ := guest.obtained
    exact ⟨definition, effects, given, first, actions ++ [action], obtained,
      (run_append actions [action] first).symm⟩
  · rw [subscribers_perform]
    intro entry member
    rcases List.mem_append.1 member with before | new
    · exact guest.unheard entry (List.mem_of_mem_filter before)
    · cases action with
      | subscribe outlet =>
        rw [List.mem_singleton.1 new]
        rintro rfl
        exact apart rfl
      | _ => cases new

theorem filter_unheard [DecidableEq κ] (guest : child.Guest parent) :
    child.subscribers.filter (·.2 = parent) = [] := by
  rw [List.filter_eq_nil_iff]
  intro entry member
  simpa using guest.unheard entry member

/-- Nothing that a guest says is sent to the parent. -/
theorem filter_sent
    [DecidableEq κ]
    (guest : child.Guest parent)
    (action : Action κ) :
    (⟨child, action⟩ : Leg κ).sent.filter (·.outlet = parent) = [] := by
  obtain ⟨_, _, _, held⟩ := guest.exists_held
  rw [held.sent_to, guest.filter_unheard]
  simp

/-- A guest stays unheard on any number of calls. -/
theorem unheard_legs
    {actions : List (Action κ)}
    (guest : child.Guest parent)
    (apart : ∀ action ∈ actions, action ≠ .subscribe parent) :
    ∀ leg ∈ legs actions child, ∀ delivery ∈ leg.sent, delivery.outlet ≠ parent := by
  classical
  induction actions generalizing child with
  | nil =>
    intro leg member
    cases member
  | cons action actions ih =>
    obtain ⟨this, later⟩ := List.forall_mem_cons.1 apart
    rw [legs, List.forall_mem_cons]
    refine ⟨?_, ih (guest.perform this) later⟩
    simpa [List.filter_eq_nil_iff] using guest.filter_sent action

end Guest

/-! ## Listening -/

/-- The instance once a subscriber came and left again, whose handle is used up. -/
def passedOver (machine : Instance κ) : Instance κ :=
  { machine with nextSubscription := machine.nextSubscription + 1 }

/-- The handle that was given last. -/
def lastHandle (machine : Instance κ) : Subscription :=
  ⟨machine.nextSubscription - 1⟩

/-- The instance with a last subscriber, under the handle that was given last. -/
def listenedTo (outlet : κ) (machine : Instance κ) : Instance κ :=
  machine.heardBy (machine.subscribers ++ [(machine.lastHandle, outlet)])

/-- Nobody is registered under the handle that was given last. -/
def Vacant (machine : Instance κ) : Prop :=
  ∀ entry ∈ machine.subscribers, entry.1 ≠ machine.lastHandle

theorem Numbered.vacant_passedOver (numbered : machine.Numbered) : machine.passedOver.Vacant := by
  intro entry member same
  have older := numbered entry member
  rw [same] at older
  exact Nat.lt_irrefl _ older

theorem Vacant.unsubscribe_listenedTo
    (vacant : machine.Vacant)
    (outlet : κ) :
    ((machine.listenedTo outlet).unsubscribe machine.lastHandle).2 = machine := by
  have others : machine.subscribers.filter (·.1 ≠ machine.lastHandle) = machine.subscribers :=
    List.filter_eq_self.2 fun entry member => decide_eq_true (vacant entry member)
  have removed : (machine.subscribers ++ [(machine.lastHandle, outlet)]).filter
      (·.1 ≠ machine.lastHandle) = machine.subscribers := by
    rw [List.filter_append, others]
    simp
  unfold unsubscribe listenedTo heardBy
  dsimp only
  rw [removed]

/-- Passing over is what coming and leaving again does. -/
theorem Guest.passedOver (guest : child.Guest parent) : child.passedOver.Guest parent := by
  refine ⟨?_, guest.unheard⟩
  obtain ⟨definition, effects, given, first, actions, obtained, same⟩ := guest.obtained
  refine ⟨definition, effects, given, first,
    actions ++ [.subscribe parent, .unsubscribe child.passedOver.lastHandle], obtained, ?_⟩
  rw [run_append, ← same]
  exact (guest.numbered.vacant_passedOver.unsubscribe_listenedTo parent).symm

section Proper

variable (proper : action.stimulus ≠ .registration)
include proper

theorem lastHandle_perform : (perform action machine).lastHandle = machine.lastHandle := by
  rw [lastHandle, ((perform_keeps machine action).2.2 proper).2]
  rfl

theorem perform_listenedTo (outlet : κ) :
    perform action (machine.listenedTo outlet) = (perform action machine).listenedTo outlet := by
  rw [listenedTo, perform_heardBy proper, listenedTo, lastHandle_perform proper,
    ((perform_keeps machine action).2.2 proper).1]

theorem Vacant.perform (vacant : machine.Vacant) : (perform action machine).Vacant := by
  unfold Vacant
  rw [((perform_keeps machine action).2.2 proper).1, lastHandle_perform proper]
  exact vacant

/-- A parent that listens to a guest hears each of its signals once. -/
theorem Guest.filter_sent_listenedTo
    [DecidableEq κ]
    (guest : child.Guest parent) :
    ((⟨child.listenedTo parent, action⟩ : Leg κ).sent.filter (·.outlet = parent)).map
        Delivery.envelope =
      (⟨child, action⟩ : Leg κ).emitted.map child.envelope := by
  obtain ⟨_, _, _, held⟩ := guest.exists_held
  have listening : (child.listenedTo parent).subscribers.filter (·.2 = parent) =
      [(child.lastHandle, parent)] := by
    show (child.subscribers ++ [(child.lastHandle, parent)]).filter _ = _
    rw [List.filter_append, guest.filter_unheard]
    simp
  have heard : (child.listenedTo parent).Held _ _ _ := held.heardBy _
  rw [heard.sent_to, listening, listenedTo, emitted_heardBy proper]
  simp only [List.map_flatMap, List.map_cons, List.map_nil]
  exact List.map_eq_flatMap.symm

end Proper

end Instance
end Questionnaire
