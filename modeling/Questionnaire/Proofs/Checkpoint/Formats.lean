import Questionnaire.Proofs.Checkpoint.Binary
import Questionnaire.Proofs.Definition.Resolution
import Questionnaire.Proofs.Timestamp

/-!
# Changing the format of a checkpoint

Both formats hold the whole checkpoint, and every timestamp survives its text form.  So a
checkpoint that was read from one format, however it was written there, can be written in
the other one and read from it.
-/

namespace Questionnaire

theorem Timestamp.survives (timestamp : Timestamp) : timestamp.Survives :=
  timestamp.ofText?_text

theorem History.survives (history : History) : history.Survives :=
  fun passage _ => passage.timestamp.survives

namespace Checkpoint

variable {checkpoint : Checkpoint}

/-- A reader hands out only checkpoints of the supported version. -/
theorem map_check_eq_ok_iff
    {found : Checkpoint} :
    (found.check.map fun _ => found) = .ok checkpoint ↔
      found = checkpoint ∧ checkpoint.version = supportedVersion := by
  unfold check
  split
  · rename_i supported
    constructor
    · intro same
      cases same
      exact ⟨rfl, supported⟩
    · rintro ⟨rfl, _⟩
      rfl
  · rename_i unsupported
    constructor
    · intro same
      cases same
    · rintro ⟨rfl, supported⟩
      exact absurd supported unsupported

theorem supported_of_ofText
    {text : String}
    (read : ofText text = .ok checkpoint) :
    checkpoint.version = supportedVersion := by
  unfold ofText at read
  split at read
  · exact (map_check_eq_ok_iff.1 read).2
  · cases read

theorem supported_of_ofBytes
    {bytes : Bytes}
    (read : ofBytes bytes = .ok checkpoint) :
    checkpoint.version = supportedVersion := by
  unfold ofBytes at read
  split at read
  · exact (map_check_eq_ok_iff.1 read).2
  · cases read

/-- The text of a checkpoint of another version is refused with that version. -/
theorem ofText_text_of_unsupported
    (unsupported : checkpoint.version ≠ supportedVersion) :
    ofText checkpoint.text =
      .error (.unsupportedVersion checkpoint.version supportedVersion) := by
  rw [ofText, ofRaw?_text checkpoint.timestamp.survives checkpoint.history.survives]
  simp [check, unsupported, Except.map]

/-- Every checkpoint is read back from its text, or refused with its version if that is not
the supported one.  A checkpoint that was read from any text is read back from its bytes,
and one that was read from any bytes is read back from its text. -/
theorem formats_agree :
    (∀ checkpoint : Checkpoint,
      ofText checkpoint.text =
        if checkpoint.version = supportedVersion then .ok checkpoint
        else .error (.unsupportedVersion checkpoint.version supportedVersion)) ∧
    (∀ (text : String) (checkpoint : Checkpoint),
      ofText text = .ok checkpoint → checkpoint.toBytes.Short →
        ofBytes checkpoint.toBytes = .ok checkpoint) ∧
    ∀ (bytes : Bytes) (checkpoint : Checkpoint),
      ofBytes bytes = .ok checkpoint → ofText checkpoint.text = .ok checkpoint := by
  refine ⟨?_, ?_, ?_⟩
  · intro checkpoint
    split
    · rename_i supported
      exact ofText_text supported checkpoint.timestamp.survives checkpoint.history.survives
    · rename_i unsupported
      exact ofText_text_of_unsupported unsupported
  · intro text checkpoint read short
    exact ofBytes_toBytes (supported_of_ofText read) checkpoint.timestamp.survives
      checkpoint.history.survives short
  · intro bytes checkpoint read
    exact ofText_text (supported_of_ofBytes read) checkpoint.timestamp.survives
      checkpoint.history.survives

/-- A checkpoint as another hand may write it: with its fields in another order and one that
is not known, with a passage as an array, and in local time. -/
def foreignJson : Json :=
  .obj [
    ("timestamp", .str "1999-12-31t00:00:00.500z"),
    ("history", .obj [("transitions", .arr [
      .arr [.str "a", .str "b", .str "GO", .str "2024-3-1 1:30:00+02:00"]])]),
    ("extra", .arr [.null]),
    ("version", .int 1),
    ("id", .str "é\n"),
    ("machine", .str "door"),
    ("state", .str "b"),
    ("done", .bool false),
    ("context", .str "\x7b\"say\":\"\\\"hi\\\"\"\x7d")]

/-- The checkpoint that it is read as. -/
def foreign : Checkpoint where
  version := 1
  id := "é\n"
  timestamp := ⟨⟨1999, 12, 31⟩, ⟨0, 0, 0, 500000000⟩, by decide, by decide⟩
  machine := "door"
  state := "b"
  context := "\x7b\"say\":\"\\\"hi\\\"\"\x7d"
  done := false
  history := ⟨[⟨"a", "b", "GO", ⟨⟨2024, 2, 29⟩, ⟨23, 30, 0, 0⟩, by decide, by decide⟩⟩]⟩

theorem fits_foreignJson : foreignJson.Fits 0 := by
  simp [foreignJson, Json.Fits, Json.FieldsFit, Json.ItemsFit, Json.depthLimit, Json.InRange]

/-- The foreign text, and the bytes of the checkpoint with others after them, are read as the
same checkpoint, which is read back from either format. -/
theorem formats_agree_of_foreign :
    ofText foreignJson.text = .ok foreign ∧ foreign.toBytes.Short ∧
      ofBytes foreign.toBytes = .ok foreign ∧
      ofBytes (foreign.toBytes ++ [0, 1]) = .ok foreign ∧
      ofText foreign.text = .ok foreign := by
  have text : ofText foreignJson.text = .ok foreign := by
    have read : ofRaw? foreignJson.toRaw = some foreign := by decide +kernel
    rw [ofText, Json.ofText?_text fits_foreignJson, Option.bind_some, read]
    rfl
  have bytes : ofBytes (foreign.toBytes ++ [0, 1]) = .ok foreign :=
    toOption_eq_some_iff.1 (by decide +kernel)
  have short : foreign.toBytes.Short := by decide +kernel
  obtain ⟨_, fromText, fromBytes⟩ := formats_agree
  exact ⟨text, short, fromText foreignJson.text foreign text short, bytes,
    fromBytes (foreign.toBytes ++ [0, 1]) foreign bytes⟩

end Checkpoint
end Questionnaire
