import Questionnaire.Checkpoint.Text
import Questionnaire.Proofs.Json.Record
import Questionnaire.Proofs.Json.RoundTrip

/-!
# Reading back the JSON text of a checkpoint

A checkpoint whose timestamps survive their text form is read back from its JSON text.
The context is one string in that text, whatever it holds.
-/

namespace Questionnaire

/-- A timestamp is read back from its text. -/
def Timestamp.Survives (timestamp : Timestamp) : Prop :=
  Timestamp.ofText? timestamp.text = some timestamp

instance (timestamp : Timestamp) : Decidable timestamp.Survives :=
  inferInstanceAs (Decidable (_ = _))

/-- Every timestamp of a history is read back from its text. -/
def History.Survives (history : History) : Prop :=
  ∀ passage ∈ history.passages, passage.timestamp.Survives

instance (history : History) : Decidable history.Survives :=
  inferInstanceAs (Decidable (∀ passage ∈ history.passages, passage.timestamp.Survives))

open Json (Raw)

theorem Passage.ofRaw?_toJson {passage : Passage} (survives : passage.timestamp.Survives) :
    Passage.ofRaw? passage.toJson.toRaw = some passage := by
  unfold Passage.ofRaw? Passage.toJson
  rw [Json.record?_ofFields]
  have read : Timestamp.ofText? passage.timestamp.text = some passage.timestamp := survives
  simp [KeyMap.lookup_cons_if, Json.toRaw, Raw.text?, read]

theorem History.ofRaw?_toJson {history : History} (survives : history.Survives) :
    History.ofRaw? history.toJson.toRaw = some history := by
  have read : (Json.arr (history.passages.map Passage.toJson)).toRaw.list? Passage.ofRaw? =
      some history.passages :=
    Json.list?_arr fun passage member => Passage.ofRaw?_toJson (survives passage member)
  unfold History.ofRaw? History.toJson
  rw [Json.record?_ofFields]
  simp [KeyMap.lookup_cons_if, read]

theorem Passage.fits_toJson
    {depth : Nat}
    (passage : Passage)
    (inside : depth < Json.depthLimit) :
    passage.toJson.Fits depth := by
  apply Json.fits_ofFields inside
  simp only [List.forall_mem_cons]
  exact ⟨trivial, trivial, trivial, trivial, by simp⟩

/-- A history is an object around an array of objects. -/
theorem History.fits_toJson
    {depth : Nat}
    (history : History)
    (inside : depth + 2 < Json.depthLimit) :
    history.toJson.Fits depth := by
  have outer : depth < Json.depthLimit := by omega
  have middle : depth + 1 < Json.depthLimit := by omega
  apply Json.fits_ofFields outer
  intro field member
  rw [List.mem_singleton.1 member]
  refine ⟨middle, Json.itemsFit_iff.2 ?_⟩
  intro item itemMember
  obtain ⟨passage, _, rfl⟩ := List.mem_map.1 itemMember
  exact passage.fits_toJson inside

theorem Json.natBelow?_ofNat {value bound : Nat} (below : value < bound) :
    Raw.natBelow? bound (Json.ofNat value).toRaw = some value := by
  show (some value).filter (fun number => decide (number < bound)) = some value
  rw [Option.filter_some, if_pos (decide_eq_true below)]

namespace Checkpoint

variable {checkpoint : Checkpoint}

theorem ofRaw?_toJson
    (written : checkpoint.timestamp.Survives)
    (recorded : checkpoint.history.Survives) :
    ofRaw? checkpoint.toJson.toRaw = some checkpoint := by
  have time : Timestamp.ofText? checkpoint.timestamp.text = some checkpoint.timestamp := written
  have history := History.ofRaw?_toJson recorded
  have version := Json.natBelow?_ofNat checkpoint.version.toNat_lt
  unfold ofRaw? toJson
  rw [Json.record?_ofFields]
  simp [fieldNames, KeyMap.lookup_cons_if, Json.toRaw, Raw.text?, Raw.flag?, time, history,
    version]

/-- A checkpoint is written with its passages three levels inside. -/
theorem fits_toJson (checkpoint : Checkpoint) : checkpoint.toJson.Fits 0 := by
  apply Json.fits_ofFields (by decide)
  have version : Json.InRange checkpoint.version.toNat := by
    have small := checkpoint.version.toNat_lt
    unfold Json.InRange
    omega
  simp only [List.forall_mem_cons]
  exact ⟨version, trivial, trivial, trivial, trivial, trivial, trivial,
    checkpoint.history.fits_toJson (by decide), by simp⟩

/-- A checkpoint of any version is read back from its text. -/
theorem ofRaw?_text
    (written : checkpoint.timestamp.Survives)
    (recorded : checkpoint.history.Survives) :
    (Raw.ofText? checkpoint.text).bind ofRaw? = some checkpoint := by
  rw [text, Json.ofText?_text checkpoint.fits_toJson, Option.bind_some,
    ofRaw?_toJson written recorded]

/-- A checkpoint of the supported version is read back from its text. -/
theorem ofText_text
    (supported : checkpoint.version = supportedVersion)
    (written : checkpoint.timestamp.Survives)
    (recorded : checkpoint.history.Survives) :
    ofText checkpoint.text = .ok checkpoint := by
  rw [ofText, ofRaw?_text written recorded]
  simp [check, supported, Except.map]

end Checkpoint
end Questionnaire
