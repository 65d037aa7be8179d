import Mathlib.Data.List.Induction
import Questionnaire.Proofs.Discovery.Machine

/-!
# The language of signing in

Of the events that it is sent, the machine that establishes the user accepts those that
spell a word of a regular language: the user is known, or was not found and then signs in
or registers after any number of failed attempts.  It ends with the whole word, and only
the last event of the word tells the user.
-/

namespace Questionnaire

namespace Instance

variable {κ : Type}

/-- Whether an answer to an event is that a transition was followed. -/
def accepts : Except DispatchError Outcome → Bool
  | .ok .ignored => false
  | .ok _ => true
  | .error _ => false

/-- The instance after several events. -/
def hearing : List (Timestamp × Event) → Instance κ → Instance κ
  | [], machine => machine
  | (now, event) :: rest, machine => hearing rest (machine.dispatch now event).next

/-- Those of several events that the instance accepts. -/
def accepted : List (Timestamp × Event) → Instance κ → List Event
  | [], _ => []
  | (now, event) :: rest, machine =>
    let turn := machine.dispatch now event
    if accepts turn.result then event :: accepted rest turn.next else accepted rest turn.next

end Instance

namespace EstablishUser

variable {κ : Type} {step target : Step} {kind : String} {kinds : List String}

/-! ## The language -/

/-- The words of event types that establish a user. -/
inductive Word : List String → Prop
  | known : Word ["LOADED"]
  | signedIn (failures : Nat) :
      Word (["NOT_FOUND", "HAS_ACCOUNT"] ++ List.replicate failures "SIGN_IN_FAIL" ++
        ["SIGN_IN_SUCCESS"])
  | registered (failures : Nat) :
      Word (["NOT_FOUND", "NEEDS_ACCOUNT"] ++ List.replicate failures "REGISTER_FAIL" ++
        ["REGISTER_SUCCESS"])

/-- The beginnings of words. -/
def Begins (kinds : List String) : Prop :=
  ∃ word, Word word ∧ kinds <+: word

/-- The step that an event type leads to. -/
def Step.next? (kind : String) : Step → Option Step
  | .loading =>
    if kind = "NOT_FOUND" then some .choosing
    else if kind = "LOADED" then some .complete
    else none
  | .choosing =>
    if kind = "NEEDS_ACCOUNT" then some .registration
    else if kind = "HAS_ACCOUNT" then some .signIn
    else none
  | .signIn =>
    if kind = "SIGN_IN_FAIL" then some .signIn
    else if kind = "SIGN_IN_SUCCESS" then some .complete
    else none
  | .registration =>
    if kind = "REGISTER_FAIL" then some .registration
    else if kind = "REGISTER_SUCCESS" then some .complete
    else none
  | .complete => none

/-- The step that several event types lead to, each of them from the step before. -/
def Step.walk? (kinds : List String) (step : Step) : Option Step :=
  kinds.foldlM (fun step kind => step.next? kind) step

theorem Step.walk?_append (earlier later : List String) (step : Step) :
    step.walk? (earlier ++ later) = (step.walk? earlier).bind (walk? later) :=
  List.foldlM_append

theorem Step.walk?_concat (kinds : List String) (kind : String) (step : Step) :
    step.walk? (kinds ++ [kind]) = (step.walk? kinds).bind (next? kind) := by
  rw [walk?_append]
  congr 1
  funext step
  simp [walk?]

/-- Attempts that fail lead nowhere. -/
theorem Step.walk?_replicate
    (loops : step.next? kind = some step)
    (count : Nat) :
    step.walk? (List.replicate count kind) = some step := by
  induction count with
  | zero => rfl
  | succ count ih =>
    rw [List.replicate_succ', walk?_concat, ih]
    exact loops

/-- What was spelled when a step is reached. -/
inductive Spells : List String → Step → Prop
  | nothing : Spells [] .loading
  | unknown : Spells ["NOT_FOUND"] .choosing
  | signingIn (failures : Nat) :
      Spells (["NOT_FOUND", "HAS_ACCOUNT"] ++ List.replicate failures "SIGN_IN_FAIL") .signIn
  | registering (failures : Nat) :
      Spells (["NOT_FOUND", "NEEDS_ACCOUNT"] ++ List.replicate failures "REGISTER_FAIL")
        .registration
  | word {kinds : List String} (word : Word kinds) : Spells kinds .complete

theorem Spells.next
    (spells : Spells kinds step)
    (leads : step.next? kind = some target) :
    Spells (kinds ++ [kind]) target := by
  cases spells <;> simp only [Step.next?, reduceCtorEq] at leads
  case nothing =>
    split_ifs at leads with unknown known <;> cases leads
    · exact unknown ▸ .unknown
    · exact known ▸ .word .known
  case unknown =>
    split_ifs at leads with registers signsIn <;> cases leads
    · exact registers ▸ .registering 0
    · exact signsIn ▸ .signingIn 0
  case signingIn failures =>
    split_ifs at leads with fails succeeds <;> cases leads
    · rw [fails, List.append_assoc, ← List.replicate_succ']
      exact .signingIn (failures + 1)
    · exact succeeds ▸ .word (.signedIn failures)
  case registering failures =>
    split_ifs at leads with fails succeeds <;> cases leads
    · rw [fails, List.append_assoc, ← List.replicate_succ']
      exact .registering (failures + 1)
    · exact succeeds ▸ .word (.registered failures)

/-- Whatever step is reached, a word can still be spelled. -/
theorem Spells.begins (spells : Spells kinds step) : Begins kinds := by
  cases spells with
  | nothing => exact ⟨_, .known, List.nil_prefix⟩
  | unknown => exact ⟨_, .signedIn 0, by simp⟩
  | signingIn failures => exact ⟨_, .signedIn failures, List.prefix_append _ _⟩
  | registering failures => exact ⟨_, .registered failures, List.prefix_append _ _⟩
  | word word => exact ⟨_, word, List.prefix_rfl⟩

theorem Spells.walk? (spells : Spells kinds step) : Step.loading.walk? kinds = some step := by
  have signingIn (failures : Nat) : Step.loading.walk?
      (["NOT_FOUND", "HAS_ACCOUNT"] ++ List.replicate failures "SIGN_IN_FAIL") =
        some .signIn := by
    rw [Step.walk?_append]
    exact Step.walk?_replicate rfl failures
  have registering (failures : Nat) : Step.loading.walk?
      (["NOT_FOUND", "NEEDS_ACCOUNT"] ++ List.replicate failures "REGISTER_FAIL") =
        some .registration := by
    rw [Step.walk?_append]
    exact Step.walk?_replicate rfl failures
  cases spells with
  | nothing => rfl
  | unknown => rfl
  | signingIn failures => exact signingIn failures
  | registering failures => exact registering failures
  | word word =>
    cases word with
    | known => rfl
    | signedIn failures =>
      rw [Step.walk?_concat, signingIn]
      rfl
    | registered failures =>
      rw [Step.walk?_concat, registering]
      rfl

/-- Event types lead to a step exactly if they spell what reaches it. -/
theorem walk?_eq_some_iff : Step.loading.walk? kinds = some step ↔ Spells kinds step := by
  refine ⟨fun walked => ?_, Spells.walk?⟩
  induction kinds using List.reverseRecOn generalizing step with
  | nil =>
    cases walked
    exact .nothing
  | append_singleton kinds kind ih =>
    rw [Step.walk?_concat] at walked
    obtain ⟨before, reached, leads⟩ := Option.bind_eq_some_iff.1 walked
    exact (ih reached).next leads

theorem begins_iff : Begins kinds ↔ ∃ step, Step.loading.walk? kinds = some step := by
  constructor
  · rintro ⟨word, isWord, rest, rfl⟩
    have walked := walk?_eq_some_iff.2 (.word isWord)
    rw [Step.walk?_append] at walked
    obtain ⟨step, reached, _⟩ := Option.bind_eq_some_iff.1 walked
    exact ⟨step, reached⟩
  · rintro ⟨step, reached⟩
    exact (walk?_eq_some_iff.1 reached).begins

theorem word_iff : Word kinds ↔ Step.loading.walk? kinds = some .complete := by
  rw [walk?_eq_some_iff]
  constructor
  · exact .word
  · rintro (_ | _ | _ | _ | word)
    exact word

/-! ## Steps of the machine -/

theorem isTerminal_state (step : Step) :
    EstablishUser.definition.isTerminal step.state = decide (step = .complete) := by
  cases step <;> rfl

theorem Step.state_inj {left right : Step} : left.state = right.state ↔ left = right := by
  constructor
  · cases left <;> cases right <;> decide
  · rintro rfl
    rfl

theorem Step.ne_complete_of_next (leads : step.next? kind = some target) :
    step ≠ .complete := by
  rintro rfl
  cases leads

/-- The transition that leads to a step. -/
def leadingTo (target : Step) : Transition :=
  if target = .complete then completing else ⟨some target.state, []⟩

/-- What a step does with an event type is what the definition declares. -/
theorem transition?_definition (step : Step) (kind : String) :
    EstablishUser.definition.transition? step.state kind =
      (step.next? kind).map leadingTo := by
  cases step <;>
    simp only [Definition.transition?, EstablishUser.definition, Definition.state?,
      KeyMap.get?_ofList, List.reverse_cons, List.reverse_nil, List.nil_append,
      List.cons_append, KeyMap.lookup_cons_if, List.lookup_nil, Step.state_inj, reduceCtorEq,
      if_false, if_true, Option.bind_some, Step.next?, KeyMap.get?_empty]
  case complete => rfl
  all_goals
    split_ifs
    all_goals rfl

/-- The user that an event tells; null if it has none. -/
def userOf (event : Event) : Json :=
  (event.get? userKey).getD .null

/-- What an event that leads to a step puts over the context. -/
def Step.patch (event : Event) (target : Step) : Fields :=
  if target = .complete then .singleton userKey (userOf event) else ∅

theorem update_leadingTo
    {transition : ResolvedTransition}
    (resolved : Definition.resolveTransition effects machineId (leadingTo target) =
      .ok transition)
    (input : Effect.Input) :
    transition.target = some target.state ∧
      transition.update input = input.context.merge (target.patch input.event) := by
  cases target <;> cases resolved <;> exact ⟨rfl, rfl⟩

/-- The answer of the machine to an event. -/
def Step.reply (event : Event) (step : Step) : Except DispatchError Outcome :=
  match step.next? event.kind with
  | none =>
    if step = .complete then .error (.protocol (.alreadyTerminated machineId step.state))
    else .ok .ignored
  | some .complete => .ok (.terminated Step.complete.state (userOf event))
  | some target => .ok (.transitioned step.state target.state)

/-- Exactly the events that lead to a step are accepted. -/
theorem Step.accepts_reply (event : Event) (step : Step) :
    Instance.accepts (step.reply event) = (step.next? event.kind).isSome := by
  unfold reply
  cases step.next? event.kind with
  | none => by_cases ended : step = .complete <;> simp [ended, Instance.accepts]
  | some target => cases target <;> rfl

/-- The machine that was started with a context, at a step. -/
structure Keeps (seed : Fields) (step : Step) (machine : Instance κ) : Prop where
  sound : machine.Sound effects
  definition : machine.definition = EstablishUser.definition
  current : machine.current = step.state
  begun : machine.status ≠ .idle
  done : machine.status = .done ↔ step = .complete
  context : step ≠ .complete → machine.context = seed

namespace Keeps

variable {seed : Fields} {machine : Instance κ} {event : Event}

theorem isDone_iff (keeps : Keeps seed step machine) :
    machine.isDone = true ↔ step = .complete := by
  simp [Instance.isDone, keeps.done]

theorem running (keeps : Keeps seed step machine) (underway : step ≠ .complete) :
    machine.status = .running := by
  have begun := keeps.begun
  have done := keeps.done
  cases status : machine.status <;> simp_all

/-- On an event that leads to a step, the machine follows a transition to it. -/
theorem exists_follow
    (keeps : Keeps seed step machine)
    (leads : step.next? event.kind = some target)
    (now : Timestamp) :
    ∃ transition : ResolvedTransition,
      machine.dispatch now event = machine.follow now event transition ∧
        machine.transition? event.kind = some transition ∧
        transition.target = some target.state ∧
        transition.update (machine.input event) =
          machine.context.merge (target.patch event) := by
  have underway := Step.ne_complete_of_next leads
  have declared : machine.definition.transition? machine.current event.kind =
      some (leadingTo target) := by
    rw [keeps.definition, keeps.current, transition?_definition, leads, Option.map_some]
  obtain ⟨transition, found, resolved⟩ := keeps.sound.exists_resolved declared
  rw [keeps.definition] at resolved
  obtain ⟨enters, update⟩ := update_leadingTo resolved (machine.input event)
  exact ⟨transition, Instance.dispatch_eq_follow (keeps.running underway) found, found, enters,
    update⟩

/-- On an event that leads to a step before the last, the machine enters it. -/
theorem dispatch_entered
    (keeps : Keeps seed step machine)
    (leads : step.next? event.kind = some target)
    (underway : target ≠ .complete)
    (now : Timestamp) :
    (machine.dispatch now event).result = .ok (.transitioned step.state target.state) ∧
      Keeps seed target (machine.dispatch now event).next := by
  obtain ⟨transition, followed, found, enters, update⟩ := keeps.exists_follow leads now
  have running := keeps.running (Step.ne_complete_of_next leads)
  have notTerminal : machine.definition.isTerminal target.state = false := by
    rw [keeps.definition, isTerminal_state, decide_eq_false underway]
  have sound : (machine.follow now event transition).next.Sound effects :=
    keeps.sound.follow running found
  have context : transition.update (machine.input event) = seed := by
    rw [update, Step.patch, if_neg underway, KeyMap.merge_empty,
      keeps.context (Step.ne_complete_of_next leads)]
  rw [Instance.follow_enter enters notTerminal] at followed sound
  rw [followed, keeps.current]
  refine ⟨rfl, sound, keeps.definition, rfl, keeps.begun, ?_, fun _ => context⟩
  show machine.status = .done ↔ _
  simp [running, underway]

/-- On an event that leads to the last step, the machine ends with the user of the event. -/
theorem dispatch_completed
    (keeps : Keeps seed step machine)
    (leads : step.next? event.kind = some .complete)
    (now : Timestamp) :
    (machine.dispatch now event).result =
        .ok (.terminated Step.complete.state (userOf event)) ∧
      Keeps seed .complete (machine.dispatch now event).next ∧
      (machine.dispatch now event).next.output = some (userOf event) := by
  obtain ⟨transition, followed, known, enters, update⟩ := keeps.exists_follow leads now
  have running := keeps.running (Step.ne_complete_of_next leads)
  have terminal : machine.definition.isTerminal Step.complete.state = true := by
    rw [keeps.definition, isTerminal_state]
    rfl
  have sound : (machine.follow now event transition).next.Sound effects :=
    keeps.sound.follow running known
  have found : machine.definition.state? Step.complete.state =
      some { terminal := true, output := some (.field userKey) } := by
    rw [keeps.definition]
    rfl
  have built : (machine.landed now event transition Step.complete.state).builtOutput =
      userOf event := by
    rw [Instance.builtOutput_landed found]
    show ((transition.update (machine.input event)).get? userKey).getD .null = userOf event
    rw [update, Step.patch, if_pos rfl, KeyMap.get?_merge, KeyMap.get?_singleton, if_pos rfl]
    rfl
  rw [Instance.follow_end enters terminal] at followed sound
  rw [followed, built]
  refine ⟨rfl, ⟨sound, keeps.definition, rfl, ?_, ?_, fun underway => absurd rfl underway⟩, ?_⟩
  · simp [Instance.finished]
  · simp [Instance.finished]
  · rw [Instance.finished, built]

/-- An event that leads to no step leaves the machine as it is. -/
theorem dispatch_idle
    (keeps : Keeps seed step machine)
    (nowhere : step.next? event.kind = none)
    (now : Timestamp) :
    machine.dispatch now event = ⟨machine, step.reply event, []⟩ := by
  unfold Step.reply
  rw [nowhere]
  by_cases ended : step = .complete
  · have done := keeps.done.2 ended
    simp only [Instance.dispatch, done, keeps.definition, keeps.current, ended]
    rfl
  · have undeclared :
        machine.definition.transition? machine.current event.kind = none := by
      rw [keeps.definition, keeps.current, transition?_definition, nowhere, Option.map_none]
    rw [keeps.sound.dispatch_of_undeclared (keeps.running ended) undeclared, if_neg ended]

/-- What an event does to the machine. -/
theorem dispatch
    (keeps : Keeps seed step machine)
    (now : Timestamp)
    (event : Event) :
    (machine.dispatch now event).result = step.reply event ∧
      Keeps seed ((step.next? event.kind).getD step) (machine.dispatch now event).next ∧
      (step.next? event.kind = some .complete →
        (machine.dispatch now event).next.output = some (userOf event)) := by
  cases leads : step.next? event.kind with
  | none =>
    rw [keeps.dispatch_idle leads]
    exact ⟨rfl, keeps, by simp⟩
  | some target =>
    by_cases ends : target = .complete
    · subst ends
      obtain ⟨answer, ended, output⟩ := keeps.dispatch_completed leads now
      exact ⟨by simp [answer, Step.reply, leads], ended, fun _ => output⟩
    · obtain ⟨answer, entered⟩ := keeps.dispatch_entered leads ends now
      refine ⟨?_, entered, fun same => absurd (Option.some.inj same) ends⟩
      rw [answer, Step.reply, leads]
      cases target <;> first | rfl | exact absurd rfl ends

end Keeps

/-! ## Runs of the machine -/

variable {seed : Fields} {machine : Instance κ} {heard : List Event}

/-- The machine at the step to which the events that it accepted lead.  At the last step it
has the user of the last of them. -/
structure Reached (seed : Fields) (heard : List Event) (step : Step) (machine : Instance κ) :
    Prop where
  keeps : Keeps seed step machine
  walked : Step.loading.walk? (heard.map Event.kind) = some step
  output : step = .complete →
    ∃ last, heard.getLast? = some last ∧ machine.output = some (userOf last)

theorem keeps_of_create
    {id : InstanceId}
    (created : Instance.create id EstablishUser.definition effects seed = .ok machine) :
    Keeps seed .loading machine.start.next := by
  have sound := (Instance.sound_of_create created).start
  obtain ⟨_, transitions, _, rfl⟩ := Instance.create_eq_ok_iff.1 created
  have started : (Instance.idle id EstablishUser.definition transitions seed : Instance κ).start =
      ⟨{ Instance.idle id EstablishUser.definition transitions seed with status := .running },
        .ok (), []⟩ := rfl
  rw [started] at sound ⊢
  exact ⟨sound, rfl, rfl, by simp, by simp, fun _ => rfl⟩

theorem Reached.dispatch
    (reached : Reached seed heard step machine)
    (now : Timestamp)
    (event : Event) :
    Reached seed
      (if Instance.accepts (machine.dispatch now event).result then heard ++ [event] else heard)
      ((step.next? event.kind).getD step) (machine.dispatch now event).next := by
  obtain ⟨answer, keeps, output⟩ := reached.keeps.dispatch now event
  rw [answer, Step.accepts_reply]
  cases leads : step.next? event.kind with
  | none =>
    rw [reached.keeps.dispatch_idle leads]
    exact reached
  | some target =>
    rw [leads] at keeps output
    refine ⟨keeps, ?_, fun ends => ⟨event, ?_, output (congrArg some ends)⟩⟩
    · simp [Step.walk?_concat, reached.walked, leads]
    · simp

/-- After several events the machine is where those of them that it accepted lead. -/
theorem Reached.hearing
    (reached : Reached seed heard step machine)
    (events : List (Timestamp × Event)) :
    ∃ target, Reached seed (heard ++ Instance.accepted events machine) target
      (Instance.hearing events machine) := by
  induction events generalizing heard step machine with
  | nil =>
    rw [Instance.accepted, List.append_nil]
    exact ⟨step, reached⟩
  | cons first rest ih =>
    obtain ⟨now, event⟩ := first
    have next := ih (reached.dispatch now event)
    rw [Instance.accepted, Instance.hearing]
    split at next
    · rename_i accepts
      rw [if_pos accepts]
      rwa [List.append_assoc] at next
    · rename_i refuses
      rwa [if_neg refuses]

/-- The machine accepted the events of a word, or of the beginning of one.  It has ended
exactly with the whole word, and then has the user of its last event, null if that has none;
until then its context is the one that it was started with.  It accepts exactly the events
with which the beginning of a word goes on. -/
structure Speaks (seed : Fields) (heard : List Event) (machine : Instance κ) : Prop where
  begins : Begins (heard.map Event.kind)
  done : machine.isDone = true ↔ Word (heard.map Event.kind)
  underway : machine.isDone = false → machine.context = seed ∧ machine.output = none
  output : machine.isDone = true →
    ∃ last, heard.getLast? = some last ∧ machine.output = some ((last.get? userKey).getD .null)
  next : ∀ now event, Instance.accepts (machine.dispatch now event).result = true ↔
    Begins (heard.map Event.kind ++ [event.kind])

theorem Reached.speaks (reached : Reached seed heard step machine) :
    Speaks seed heard machine where
  begins := begins_iff.2 ⟨step, reached.walked⟩
  done := by
    rw [reached.keeps.isDone_iff, word_iff, reached.walked, Option.some.injEq]
  underway := by
    intro underway
    have proper : step ≠ .complete := by
      rw [← reached.keeps.isDone_iff.ne, underway]
      decide
    exact ⟨reached.keeps.context proper,
      reached.keeps.sound.silent_of_running (reached.keeps.running proper)⟩
  output := fun done => reached.output (reached.keeps.isDone_iff.1 done)
  next := by
    intro now event
    rw [(reached.keeps.dispatch now event).1, Step.accepts_reply, begins_iff,
      Step.walk?_concat, reached.walked, Option.bind_some, Option.isSome_iff_exists]

/-- A machine that was started speaks the language, whatever events it is sent. -/
theorem speaks_of_create
    {id : InstanceId}
    (created : Instance.create id EstablishUser.definition effects seed = .ok machine)
    (events : List (Timestamp × Event)) :
    Speaks seed (Instance.accepted events machine.start.next)
      (Instance.hearing events machine.start.next) := by
  have reached : Reached seed [] .loading machine.start.next :=
    ⟨keeps_of_create created, rfl, by simp⟩
  obtain ⟨target, after⟩ := reached.hearing events
  exact after.speaks

end EstablishUser
end Questionnaire
