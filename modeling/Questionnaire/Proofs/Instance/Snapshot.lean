import Questionnaire.Proofs.Definition.RoundTrip
import Questionnaire.Proofs.Instance.Advertisement

/-!
# What a snapshot loses in JSON

A snapshot without an output is written with a null for it, and a null is read as no output.  So
a snapshot is read back as it was unless its output is itself a null; and that is the output of an
instance that ended in a state which builds a null from the context.
-/

namespace Questionnaire

open Json (Raw)

/-! ## Outputs -/

/-- An output that is a null in a given context: a constant one, or the value of a field that is
not there or holds a null. -/
inductive OutputBuilder.BuildsNull (context : Fields) : OutputBuilder → Prop
  | constant : BuildsNull context (.constant .null)
  | missing {name : String} (absent : context.get? name = none) : BuildsNull context (.field name)
  | null {name : String} (found : context.get? name = some .null) : BuildsNull context (.field name)

theorem OutputBuilder.build_eq_null_iff {context : Fields} {output : OutputBuilder} :
    output.build context = .null ↔ output.BuildsNull context := by
  constructor
  · intro null
    cases output with
    | constant value =>
      cases null
      exact .constant
    | field name =>
      rw [build] at null
      cases found : context.get? name with
      | none => exact .missing found
      | some value =>
        rw [found, Option.getD_some] at null
        exact .null (null ▸ found)
    | pick names => cases null
  · intro builds
    cases builds with
    | constant => rfl
    | missing absent => rw [build, absent, Option.getD_none]
    | null found => rw [build, found, Option.getD_some]

/-! ## Texts of snapshots -/

namespace Snapshot

variable {snapshot : Snapshot}

/-- The snapshot that is read from the text of another. -/
def reread? (snapshot : Snapshot) : Option Snapshot :=
  (Raw.ofText? snapshot.toJson.text).bind ofRaw?

/-- The free-form data of a snapshot lasts inside the object that is written. -/
structure Lasting (snapshot : Snapshot) : Prop where
  context : (Json.object snapshot.context).Lasting 1
  presentation : snapshot.presentation.Lasting 1
  output : ∀ output, snapshot.output = some output → output.Lasting 1

/-- The snapshot without its output, if that is a null. -/
def withoutNull (snapshot : Snapshot) : Snapshot :=
  { snapshot with output := if snapshot.output = some .null then none else snapshot.output }

theorem orNull?_output
    {output? : Option Json}
    (ordered : ∀ output, output? = some output → output.Ordered) :
    (output?.getD .null).toRaw.orNull? Raw.value? =
      some (if output? = some .null then none else output?) := by
  cases output? with
  | none => rfl
  | some output =>
    have read := Json.value?_toRaw output (ordered output rfl)
    cases output with
    | null => rfl
    | bool _ | int _ | real _ | str _ | arr _ | obj _ => exact congrArg (Option.map some) read

theorem ofRaw?_toJson (lasting : snapshot.Lasting) :
    ofRaw? snapshot.toJson.toRaw = some snapshot.withoutNull := by
  have context := Json.fields?_toRaw lasting.context.ordered
  have presentation := Json.value?_toRaw _ lasting.presentation.ordered
  have nextEvents := Json.list?_ofTexts snapshot.nextEvents
  have output := orNull?_output fun output found => (lasting.output output found).ordered
  unfold ofRaw? toJson
  rw [Json.record?_ofFields]
  simp [fieldNames, KeyMap.lookup_cons_if, Json.toRaw, Raw.text?, Raw.flag?, context,
    presentation, nextEvents, output, withoutNull]

theorem fits_toJson (lasting : snapshot.Lasting) : snapshot.toJson.Fits 0 := by
  have output : (snapshot.output.getD .null).Fits 1 := by
    cases found : snapshot.output with
    | none => trivial
    | some output => exact (lasting.output output found).fits
  apply Json.fits_ofFields (by decide)
  simp only [List.forall_mem_cons]
  exact ⟨trivial, trivial, lasting.context.fits, lasting.presentation.fits,
    Json.fits_ofTexts (by decide) _, trivial, output, by simp⟩

theorem reread?_eq (lasting : snapshot.Lasting) :
    snapshot.reread? = some snapshot.withoutNull := by
  rw [reread?, Json.ofText?_text (fits_toJson lasting), Option.bind_some, ofRaw?_toJson lasting]

/-- How a snapshot is read from its own text: as it was, but for an output that is a null, which
is lost. -/
structure Rereads (snapshot : Snapshot) : Prop where
  exact : snapshot.output ≠ some .null → snapshot.reread? = some snapshot
  lossy : snapshot.output = some .null →
    snapshot.reread? = some { snapshot with output := none }

theorem rereads (lasting : snapshot.Lasting) : snapshot.Rereads where
  exact present := by rw [reread?_eq lasting, withoutNull, if_neg present]
  lossy null := by rw [reread?_eq lasting, withoutNull, if_pos null]

theorem Rereads.eq_self_iff (rereads : snapshot.Rereads) :
    snapshot.reread? = some snapshot ↔ snapshot.output ≠ some .null := by
  refine ⟨?_, rereads.exact⟩
  intro same null
  rw [rereads.lossy null, Option.some.injEq] at same
  have absent : snapshot.output = none := congrArg output same.symm
  rw [null] at absent
  cases absent

end Snapshot

/-! ## Snapshots of instances -/

namespace Instance

variable {κ : Type} {definition : Definition} {effects : EffectTable} {machine : Instance κ}

/-- What the snapshots of an instance lose in JSON: a null that it ended with.  If it ends on some
later call, be it a start or an event, it ends with a null just if the output of the terminal
state builds one from the context. -/
structure LosesOnlyNull (machine : Instance κ) : Prop where
  exact_iff : machine.snapshot.Lasting →
    (machine.snapshot.reread? = some machine.snapshot ↔
      ¬(machine.status = .done ∧ machine.output = some .null))
  null_iff : machine.status ≠ .done → ∀ actions, (run actions machine).status = .done →
    ∃ node, (run actions machine).node? = some node ∧ node.terminal = true ∧
      ((run actions machine).output = some .null ↔
        ∃ output, node.output = some output ∧ output.BuildsNull (run actions machine).context)

/-- An instance has ended if it has an output. -/
theorem Sound.done_of_output
    {output : Json}
    (sound : machine.Sound effects)
    (present : machine.output = some output) :
    machine.status = .done := by
  have ended : machine.output.isSome = true := by rw [present, Option.isSome_some]
  rw [← sound.isDone_eq, isDone, decide_eq_true_iff] at ended
  exact ended

/-- An instance that has ended did so with a null just if its state builds one. -/
theorem Sound.output_eq_null_iff
    {node : StateNode}
    (sound : machine.Sound effects)
    (done : machine.status = .done)
    (current : machine.node? = some node) :
    machine.output = some .null ↔
      ∃ output, node.output = some output ∧ output.BuildsNull machine.context := by
  have built := sound.output
  rw [isDone, decide_eq_true done, if_pos rfl, builtOutput, current, Option.bind_some] at built
  rw [built, Option.some.injEq]
  cases node.output with
  | none => simp
  | some output => simp [OutputBuilder.build_eq_null_iff]

theorem Reachable.losesOnlyNull (reached : Reachable definition effects machine) :
    machine.LosesOnlyNull where
  exact_iff := by
    intro lasting
    rw [(Snapshot.rereads lasting).eq_self_iff]
    have same : machine.snapshot.output = machine.output := rfl
    rw [same]
    constructor
    · intro present ended
      exact present ended.2
    · intro kept null
      exact kept ⟨reached.sound.1.done_of_output null, null⟩
  null_iff := by
    intro alive actions done
    obtain ⟨given, held⟩ := reached.exists_held
    have terminal := held.endsAtTerminal_run (fun ended => absurd ended alive) actions done
    have sound := (held.run actions).sound
    obtain ⟨node, current⟩ := sound.current
    refine ⟨node, current, ?_, sound.output_eq_null_iff done current⟩
    have state : (run actions machine).definition.state? (run actions machine).current =
        some node := current
    rwa [atTerminal, Definition.isTerminal, state] at terminal

/-- A snapshot is read from its text as it was, but for an output that is a null; and of an
instance, however it was reached, that is all that is lost. -/
theorem loses_only_null
    {snapshot : Snapshot}
    (lasting : snapshot.Lasting)
    (reached : Reachable definition effects machine) :
    snapshot.Rereads ∧ machine.LosesOnlyNull :=
  ⟨Snapshot.rereads lasting, reached.losesOnlyNull⟩

/-- A vote that may be closed without a verdict. -/
def ballot : Definition where
  id := "ballot"
  initial := "open"
  states := .ofList [
    ("open", { on := .ofList [("CLOSE", ⟨some "closed", []⟩)] }),
    ("closed", {
      terminal := true
      output := some (.field "verdict")
      presentation := .arr [.str "verdict"] })]

/-- The ballot once it was opened and closed. -/
def closed (machine : Instance Unit) : Instance Unit :=
  run [.start, .dispatch .epoch (.ofKind "CLOSE")] machine

/-- The snapshot of the ballot then. -/
def closedBallot : Snapshot where
  machine := "ballot"
  state := "closed"
  context := .singleton "votes" (.int 3)
  presentation := .arr [.str "verdict"]
  nextEvents := []
  done := true
  output := some .null

theorem lasting_closedBallot : closedBallot.Lasting where
  context := by
    refine ⟨?_, Json.ordered_object ?_⟩
    · simp [closedBallot, Json.object, KeyMap.singleton, Json.Fits, Json.FieldsFit,
        Json.depthLimit, Json.InRange]
    · simp [closedBallot, KeyMap.singleton, Json.Ordered]
  presentation := by
    constructor
    · simp [closedBallot, Json.Fits, Json.ItemsFit, Json.depthLimit]
    · simp [closedBallot, Json.Ordered, Json.ItemsOrdered]
  output output present := by
    cases present
    exact ⟨trivial, trivial⟩

/-- The snapshot of the closed ballot is read as if the ballot had no output. -/
theorem loses_only_null_of_ballot :
    ∃ first : Instance Unit,
      create tallyIds.1 ballot {} (.singleton "votes" (.int 3)) = .ok first ∧
      closedBallot.Lasting ∧ Reachable ballot {} first ∧
      first.status ≠ .done ∧ (closed first).status = .done ∧
      (closed first).snapshot = closedBallot ∧
      closedBallot.reread? = some { closedBallot with output := none } ∧
      first.LosesOnlyNull := by
  have checked : (create tallyIds.1 ballot {} (.singleton "votes" (.int 3))).toOption.any
      (fun first : Instance Unit => decide (first.status ≠ .done) &&
        decide ((closed first).status = .done) &&
        decide ((closed first).snapshot = closedBallot)) = true := by
    decide +kernel
  obtain ⟨first, built, passed⟩ := (Option.any_eq_true _ _).1 checked
  have created := toOption_eq_some_iff.1 built
  simp only [Bool.and_eq_true, decide_eq_true_eq] at passed
  obtain ⟨⟨alive, done⟩, snapshot⟩ := passed
  have reached : Reachable ballot {} first := .create created
  obtain ⟨rereads, loses⟩ := loses_only_null lasting_closedBallot reached
  exact ⟨first, created, lasting_closedBallot, reached, alive, done, snapshot,
    rereads.lossy rfl, loses⟩

end Instance
end Questionnaire
