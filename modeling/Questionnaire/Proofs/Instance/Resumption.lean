import Questionnaire.Effect.Script
import Questionnaire.Instance.Resumption
import Questionnaire.Proofs.Checkpoint.Binary
import Questionnaire.Proofs.Instance.Twins

/-!
# Resuming goes unnoticed

A checkpoint of a started instance, whichever way it was carried, resumes to an instance
that cannot be told apart from the captured one.  Status and output are not carried: a
sound instance has those that its state, its context and its end determine.
-/

namespace Questionnaire

/-! ## Contexts that last -/

/-- A context that is read back from its text: it has no reals, its integers are in the
range of the reader and its nesting below the limit, and the fields of every object in it
stand in the order of their keys, as they do in whatever is built or read. -/
structure Fields.Lasting (context : Fields) : Prop where
  fits : (Json.object context).Fits 0
  ordered : (Json.object context).Ordered

theorem Fields.Lasting.read
    {context : Fields}
    (lasting : Fields.Lasting context) :
    (Json.Raw.ofText? (Json.object context).text).bind Json.Raw.fields? = some context := by
  rw [Json.ofText?_text lasting.fits, Option.bind_some, Json.fields?_toRaw lasting.ordered]

namespace Instance

variable {κ : Type} {definition : Definition} {effects : EffectTable}
  {machine : Instance κ} {checkpoint : Checkpoint}

/-! ## Soundness -/

/-- A restored instance stands where the checkpoint was taken, and was started.  Its identity,
context and subscribers are those of the instance in which it is restored. -/
theorem restored_eq (machine : Instance κ) (checkpoint : Checkpoint) :
    ∃ status output, status ≠ .idle ∧
      machine.restored checkpoint =
        { machine with
          current := checkpoint.state, history := checkpoint.history, status, output } := by
  unfold restored
  dsimp only
  split
  · exact ⟨.done, _, by decide, rfl⟩
  · exact ⟨.running, _, by decide, rfl⟩

/-- A checkpoint that was resumed is for the definition and in one of its states, and was
restored in a new instance with the captured context. -/
theorem exists_restored_of_resume
    {id : InstanceId}
    (resumed : resume id definition effects checkpoint = .ok machine) :
    ∃ context, ∃ fresh : Instance κ, checkpoint.contextFields = .ok context ∧
      create id definition effects context = .ok fresh ∧
      (∃ node, definition.state? checkpoint.state = some node) ∧
      machine = fresh.restored checkpoint := by
  obtain ⟨_, _, resumed⟩ := bind_eq_ok_iff.1 resumed
  obtain ⟨context, captured, resumed⟩ := bind_eq_ok_iff.1 resumed
  obtain ⟨fresh, built, resumed⟩ := bind_eq_ok_iff.1 resumed
  split at resumed
  · cases resumed
  · split at resumed
    · cases resumed
    · rename_i known
      cases resumed
      have current : ∃ node, definition.state? checkpoint.state = some node :=
        KeyMap.contains_eq_true_iff.1 (by simpa using known)
      exact ⟨context, fresh, captured, mapError_eq_ok_iff.1 built, current, rfl⟩

/-- An instance that was resumed is sound, whatever the checkpoint. -/
theorem sound_of_resume
    {id : InstanceId}
    (resumed : resume id definition effects checkpoint = .ok machine) :
    machine.Sound effects ∧ machine.definition = definition := by
  obtain ⟨context, fresh, _, built, current, rfl⟩ := exists_restored_of_resume resumed
  obtain ⟨valid, transitions, resolved, rfl⟩ := create_eq_ok_iff.1 built
  unfold restored
  dsimp only
  split
  · exact ⟨⟨valid, resolved, current, by simp, rfl⟩, rfl⟩
  · rename_i goesOn
    refine ⟨⟨valid, resolved, current, ?_, rfl⟩, rfl⟩
    intro _
    simp only [Bool.or_eq_true, not_or] at goesOn
    exact eq_false_of_ne_true goesOn.2

/-- The instances of a definition that building, calls and resumptions lead to. -/
inductive Reachable (definition : Definition) (effects : EffectTable) : Instance κ → Prop
  | create {id : InstanceId} {context : Fields} {machine : Instance κ}
      (created : create id definition effects context = .ok machine) :
      Reachable definition effects machine
  | start {machine : Instance κ} (reached : Reachable definition effects machine) :
      Reachable definition effects machine.start.next
  | dispatch {machine : Instance κ} (reached : Reachable definition effects machine)
      (now : Timestamp) (event : Event) :
      Reachable definition effects (machine.dispatch now event).next
  | subscribe {machine : Instance κ} (reached : Reachable definition effects machine)
      (outlet : κ) :
      Reachable definition effects (machine.subscribe outlet).2
  | unsubscribe {machine : Instance κ} (reached : Reachable definition effects machine)
      (subscription : Subscription) :
      Reachable definition effects (machine.unsubscribe subscription).2
  | resume {id : InstanceId} {checkpoint : Checkpoint} {machine : Instance κ}
      (resumed : resume id definition effects checkpoint = .ok machine) :
      Reachable definition effects machine

theorem Reachable.sound
    (reached : Reachable definition effects machine) :
    machine.Sound effects ∧ machine.definition = definition := by
  induction reached with
  | create created =>
    refine ⟨sound_of_create created, ?_⟩
    obtain ⟨_, _, _, rfl⟩ := create_eq_ok_iff.1 created
    rfl
  | start _ ih => exact ⟨ih.1.start, (definition_start _).trans ih.2⟩
  | dispatch _ now event ih =>
    exact ⟨ih.1.dispatch now event, (definition_dispatch _ now event).trans ih.2⟩
  | subscribe _ outlet ih => exact ⟨ih.1.subscribe outlet, ih.2⟩
  | unsubscribe _ subscription ih => exact ⟨ih.1.unsubscribe subscription, ih.2⟩
  | resume resumed => exact sound_of_resume resumed

/-! ## Resuming -/

/-- The instance as it is resumed: under another identity and without subscribers. -/
def revived (id : InstanceId) (machine : Instance κ) : Instance κ :=
  { machine with id := id, subscribers := [], nextSubscription := 0 }

/-- The state, the context and the history of a sound instance determine its status and
its output once it was started. -/
theorem Sound.restored_checkpoint
    {id : InstanceId}
    {checkpointId : String}
    {now : Timestamp}
    (sound : machine.Sound effects)
    (started : machine.status ≠ .idle) :
    (idle id machine.definition machine.transitions machine.context : Instance κ).restored
        (machine.checkpoint checkpointId now) = machine.revived id := by
  have output := sound.output
  unfold restored
  cases status : machine.status with
  | idle => exact absurd status started
  | done =>
    have ended : machine.isDone = true := by simp [isDone, status]
    rw [ended, if_pos rfl] at output
    simp [checkpoint, ended, idle, revived, status, output, builtOutput, node?]
  | running =>
    have goesOn : machine.isDone = false := by simp [isDone, status]
    have live := sound.live status
    rw [goesOn, if_neg Bool.false_ne_true] at output
    unfold atTerminal at live
    simp [checkpoint, goesOn, idle, revived, status, output, atTerminal, live]

/-- A checkpoint is resumed by building an instance with the captured context, if it is
for the definition and in one of its states. -/
theorem resume_eq_ok
    {id : InstanceId}
    {context : Fields}
    {fresh : Instance κ}
    (supported : checkpoint.version = Checkpoint.supportedVersion)
    (captured : checkpoint.contextFields = .ok context)
    (built : create id definition effects context = .ok fresh)
    (same : checkpoint.machine = definition.id)
    (known : ∃ node, definition.state? checkpoint.state = some node) :
    resume id definition effects checkpoint = .ok (fresh.restored checkpoint) := by
  have checked : checkpoint.check = .ok () := if_pos supported
  have contained : definition.states.contains checkpoint.state = true :=
    KeyMap.contains_eq_true_iff.2 known
  unfold resume
  simp only [checked, captured, built, Except.mapError, bind, Except.bind]
  rw [if_neg (not_not_intro same), contained, if_neg (by decide)]
  rfl

/-- The checkpoint of a started instance resumes to the instance itself, under another
identity and without its subscribers. -/
theorem Sound.resume_checkpoint
    (sound : machine.Sound effects)
    (started : machine.status ≠ .idle)
    (lasting : Fields.Lasting machine.context)
    (id : InstanceId)
    (checkpointId : String)
    (now : Timestamp) :
    resume id machine.definition effects (machine.checkpoint checkpointId now) =
      .ok (machine.revived id) := by
  have captured : (machine.checkpoint checkpointId now).contextFields =
      .ok machine.context := by
    rw [Checkpoint.contextFields]
    simp only [checkpoint, lasting.read]
  have built : create id machine.definition effects machine.context =
      .ok (idle id machine.definition machine.transitions machine.context : Instance κ) :=
    create_eq_ok_iff.2 ⟨sound.valid, machine.transitions, sound.resolved, rfl⟩
  rw [resume_eq_ok rfl captured built rfl sound.current, sound.restored_checkpoint started]

/-! ## Ways to carry a checkpoint -/

/-- How a checkpoint gets from one host to another. -/
inductive Route where
  | direct
  | text
  | bytes
  deriving DecidableEq

/-- The checkpoint at the end of the route. -/
def Route.carry : Route → Checkpoint → Except CheckpointError Checkpoint
  | .direct, checkpoint => .ok checkpoint
  | .text, checkpoint => Checkpoint.ofText checkpoint.text
  | .bytes, checkpoint => Checkpoint.ofBytes checkpoint.toBytes

/-- Every route keeps a supported checkpoint whose timestamps survive; the bytes need to be
few enough for their number to be written. -/
theorem Route.carry_eq_ok
    {route : Route}
    (supported : checkpoint.version = Checkpoint.supportedVersion)
    (written : checkpoint.timestamp.Survives)
    (recorded : checkpoint.history.Survives)
    (short : route = .bytes → checkpoint.toBytes.Short) :
    route.carry checkpoint = .ok checkpoint := by
  cases route with
  | direct => rfl
  | text => rw [carry, Checkpoint.ofText_text supported written recorded]
  | bytes =>
    have few : checkpoint.toBytes.Short := short rfl
    rw [carry, Checkpoint.ofBytes_toBytes supported written recorded few]

/-- Resume a checkpoint at the end of a route. -/
def resumeBy
    (route : Route)
    (id : InstanceId)
    (definition : Definition)
    (effects : EffectTable)
    (checkpoint : Checkpoint) :
    Except CheckpointError (Instance κ) := do
  resume id definition effects (← route.carry checkpoint)

/-! ## Before and after -/

/-- An instance and its revival have nothing to tell them apart but the subscribers. -/
theorem alike_revived (id : InstanceId) (machine : Instance κ) :
    Alike machine.history machine (machine.revived id) :=
  ⟨rfl, rfl, rfl, rfl, rfl, rfl, .refl machine.history⟩

/-- With its subscribers back, and with the same further ones, a revival is a twin. -/
theorem twins_revived (id : InstanceId) (machine : Instance κ) (observers : List κ) :
    Twins machine.history (machine.attach observers)
      ((machine.revived id).attach (machine.outlets ++ observers)) where
  toAlike := ((alike_revived id machine).attach_left observers).attach_right _
  outlets := by
    rw [outlets_attach, outlets_attach]
    rfl

/-- A checkpoint of a started instance with a lasting context resumes, whichever way it
was carried.  The resumed instance has the same snapshot, status, output and history; and
with its subscribers back it answers any further events as the first one does, sends the
same signals, and records the same history, but for its identity and the times. -/
theorem resumes_unnoticed
    {checkpointId : String}
    {now : Timestamp}
    {route : Route}
    (reached : Reachable definition effects machine)
    (started : machine.status ≠ .idle)
    (lasting : Fields.Lasting machine.context)
    (written : now.Survives)
    (recorded : machine.history.Survives)
    (short : route = .bytes → (machine.checkpoint checkpointId now).toBytes.Short)
    (id : InstanceId) :
    ∃ resumed : Instance κ,
      resumeBy route id definition effects (machine.checkpoint checkpointId now) =
          .ok resumed ∧
        resumed.snapshot = machine.snapshot ∧ resumed.status = machine.status ∧
        resumed.output = machine.output ∧ resumed.history = machine.history ∧
        ∀ (observers : List κ) (events : List (Event × Timestamp × Timestamp)),
          List.Forall₂ (Report.Agree machine.history)
            ((machine.attach observers).transcript
              (events.map fun (event, now, _) => (now, event)))
            ((resumed.attach (machine.outlets ++ observers)).transcript
              (events.map fun (event, _, later) => (later, event))) := by
  obtain ⟨sound, rfl⟩ := reached.sound
  have carried : route.carry (machine.checkpoint checkpointId now) =
      .ok (machine.checkpoint checkpointId now) :=
    Route.carry_eq_ok rfl written recorded short
  refine ⟨machine.revived id, ?_, rfl, rfl, rfl, rfl, ?_⟩
  · rw [resumeBy, carried]
    exact sound.resume_checkpoint started lasting id checkpointId now
  · intro observers events
    exact (twins_revived id machine observers).transcript events

/-- A machine that logs and counts what it is told to add, until it is told to stop. -/
def tally : Definition where
  id := "tally"
  initial := "counting"
  states := .ofList [
    ("counting", {
      on := .ofList [("ADD", ⟨some "counting", ["add"]⟩), ("STOP", ⟨some "stopped", []⟩)] }),
    ("stopped", { terminal := true, output := some (.pick ["total"]) })]

/-- The effect of the tally. -/
def tallyEffects : EffectTable :=
  .ofScripts [("add", .assign [.append "log", .add "total" 1])]

/-- The tally once it was started and told to add, for the first time. -/
def tallied (machine : Instance Unit) : Instance Unit :=
  (machine.start.next.dispatch .epoch (.ofKind "ADD")).next

/-- The context of the tally then. -/
def talliedContext : Fields :=
  ⟨[("log", .arr [.str "ADD"]), ("total", .int 1)], by decide⟩

theorem lasting_talliedContext : Fields.Lasting talliedContext where
  fits := by
    simp [Json.object, talliedContext, Json.Fits, Json.FieldsFit, Json.ItemsFit,
      Json.depthLimit, Json.InRange]
  ordered := by
    apply Json.ordered_object
    simp [talliedContext, Json.Ordered, Json.ItemsOrdered]

/-- The identities of a tally and of its revival. -/
def tallyIds : InstanceId × InstanceId :=
  (.root ⟨0, by decide⟩, .root ⟨1, by decide⟩)

/-- A tally that is resumed from bytes goes on as the first one. -/
theorem resumes_unnoticed_of_tally :
    ∃ first : Instance Unit,
      create tallyIds.1 tally tallyEffects ∅ = .ok first ∧
      (tallied first).status = .running ∧ (tallied first).history.length = 1 ∧
      ∃ resumed : Instance Unit,
        resumeBy .bytes tallyIds.2 tally tallyEffects
            ((tallied first).checkpoint "first" .epoch) = .ok resumed ∧
          resumed.snapshot = (tallied first).snapshot ∧
          resumed.status = (tallied first).status ∧
          resumed.output = (tallied first).output ∧
          resumed.history = (tallied first).history ∧
          ∀ (observers : List Unit) (events : List (Event × Timestamp × Timestamp)),
            List.Forall₂ (Report.Agree (tallied first).history)
              (((tallied first).attach observers).transcript
                (events.map fun (event, now, _) => (now, event)))
              ((resumed.attach ((tallied first).outlets ++ observers)).transcript
                (events.map fun (event, _, later) => (later, event))) := by
  have checked : (create tallyIds.1 tally tallyEffects ∅).toOption.any
      (fun first => decide ((tallied first).status = .running) &&
        decide ((tallied first).history.length = 1) &&
        decide ((tallied first).context = talliedContext) &&
        decide (tallied first).history.Survives &&
        decide ((tallied first).checkpoint "first" .epoch).toBytes.Short) = true := by
    decide +kernel
  obtain ⟨first, built, passed⟩ := (Option.any_eq_true _ _).1 checked
  have created := toOption_eq_some_iff.1 built
  simp only [Bool.and_eq_true, decide_eq_true_eq] at passed
  obtain ⟨⟨⟨⟨running, once⟩, context⟩, recorded⟩, short⟩ := passed
  have reached : Reachable tally tallyEffects (tallied first) :=
    .dispatch (.start (.create created)) .epoch (.ofKind "ADD")
  have lasting : Fields.Lasting (tallied first).context := context ▸ lasting_talliedContext
  exact ⟨first, created, running, once,
    resumes_unnoticed reached (by simp [running]) lasting (by decide +kernel) recorded
      (fun _ => short) tallyIds.2⟩

end Instance
end Questionnaire
