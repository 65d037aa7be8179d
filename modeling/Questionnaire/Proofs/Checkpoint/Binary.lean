import Questionnaire.Checkpoint.Binary
import Questionnaire.Proofs.Checkpoint.Text

/-!
# Reading back the bytes of a checkpoint

Each reader takes the bytes that its writer put in front of any others and leaves those.
Lengths stand in eight bytes, so what is read back has less than `2 ^ 64` bytes, as
whatever a memory holds.
-/

namespace Questionnaire
namespace Bytes

/-- Few enough bytes for their number to be written. -/
def Short (bytes : Bytes) : Prop :=
  bytes.length < 2 ^ 64

instance (bytes : Bytes) : Decidable bytes.Short :=
  inferInstanceAs (Decidable (_ < _))

theorem Short.left
    {first last : Bytes}
    (short : Bytes.Short (first ++ last)) :
    first.Short := by
  unfold Short at short ⊢
  rw [List.length_append] at short
  omega

theorem Short.right
    {first last : Bytes}
    (short : Bytes.Short (first ++ last)) :
    last.Short := by
  unfold Short at short ⊢
  rw [List.length_append] at short
  omega

theorem Short.of_mem
    {α : Type}
    {values : List α}
    {value : α}
    {write : α → Bytes}
    (short : Bytes.Short (values.flatMap write))
    (member : value ∈ values) :
    (write value).Short := by
  unfold Short at short ⊢
  have included : (write value).Sublist (values.map write).flatten :=
    List.sublist_flatten_of_mem (List.mem_map.2 ⟨value, member, rfl⟩)
  rw [List.flatMap_def] at short
  exact Nat.lt_of_le_of_lt included.length_le short

/-! ## Fields -/

theorem readNat_ofNat
    {width value : Nat}
    (below : value < 256 ^ width)
    (rest : Bytes) :
    readNat width (ofNat value width ++ rest) = some (value, rest) := by
  induction width generalizing value with
  | zero =>
    have zero : value = 0 := by simpa using below
    rw [zero, ofNat, readNat, List.nil_append]
  | succ width ih =>
    rw [Nat.pow_succ] at below
    have high : value / 256 < 256 ^ width := Nat.div_lt_of_lt_mul (by omega)
    have low : (UInt8.ofNat value).toNat = value % 256 := UInt8.toNat_ofNat'
    rw [ofNat, List.cons_append, readNat, ih high, Option.map_some]
    simp only [low, Nat.mod_add_div]

theorem length_ofNat (value width : Nat) : (ofNat value width).length = width := by
  induction width generalizing value with
  | zero => rfl
  | succ width ih => rw [ofNat, List.length_cons, ih]

theorem fromUTF8?_toByteArray (text : String) :
    String.fromUTF8? text.toByteArray = some text := by
  rw [String.fromUTF8?, dif_pos text.isValidUTF8]
  rfl

theorem readText_ofText
    {text : String}
    (short : (ofText text).Short)
    (rest : Bytes) :
    readText (ofText text ++ rest) = some (text, rest) := by
  have length : text.toByteArray.data.toList.length < 256 ^ 8 := by
    simp only [Short, ofText, List.length_append] at short
    omega
  have read : String.fromUTF8? ⟨text.toByteArray.data.toList.toArray⟩ = some text := by
    rw [Array.toArray_toList]
    exact fromUTF8?_toByteArray text
  unfold readText ofText
  rw [List.append_assoc, readNat_ofNat length, Option.bind_eq_bind, Option.bind_some]
  simp only [List.length_append, List.take_left, List.drop_left]
  rw [if_neg (by omega), read]
  rfl

theorem readBool_ofBool (value : Bool) (rest : Bytes) :
    readBool (ofBool value ++ rest) = some (value, rest) := by
  cases value <;> rfl

theorem readTimestamp_ofText
    {timestamp : Timestamp}
    (survives : timestamp.Survives)
    (short : (ofText timestamp.text).Short)
    (rest : Bytes) :
    readTimestamp (ofText timestamp.text ++ rest) = some (timestamp, rest) := by
  have read : Timestamp.ofText? timestamp.text = some timestamp := survives
  unfold readTimestamp
  simp only [readText_ofText short, read, Option.bind_eq_bind, Option.bind_some]
  rfl

/-- A list is read back by its number of elements when each element is. -/
theorem readMany_flatMap
    {α : Type}
    {read : Bytes → Option (α × Bytes)}
    {write : α → Bytes}
    {values : List α}
    (each : ∀ value ∈ values, ∀ rest, read (write value ++ rest) = some (value, rest))
    (rest : Bytes) :
    readMany read values.length (values.flatMap write ++ rest) = some (values, rest) := by
  induction values with
  | nil => rfl
  | cons value values ih =>
    have later := ih fun other member => each other (List.mem_cons_of_mem _ member)
    rw [List.flatMap_cons, List.append_assoc, List.length_cons, readMany]
    simp only [each value List.mem_cons_self, later, Option.bind_eq_bind, Option.bind_some]
    rfl

end Bytes

open Bytes

/-! ## Passages -/

namespace Passage

variable {passage : Passage}

theorem readBytes_toBytes
    (survives : passage.timestamp.Survives)
    (short : passage.toBytes.Short)
    (rest : Bytes) :
    readBytes (passage.toBytes ++ rest) = some (passage, rest) := by
  unfold toBytes at short ⊢
  simp only [List.append_assoc] at short ⊢
  unfold readBytes
  simp only [readText_ofText short.left, readText_ofText short.right.left,
    readText_ofText short.right.right.left, Option.bind_eq_bind, Option.bind_some,
    readTimestamp_ofText survives short.right.right.right]
  rfl

theorem length_toBytes_pos (passage : Passage) : 0 < passage.toBytes.length := by
  unfold toBytes ofText
  simp only [List.length_append, length_ofNat]
  omega

end Passage

/-- A history has no more passages than bytes. -/
theorem History.length_le_length_toBytes (history : History) :
    history.length ≤ (history.passages.flatMap Passage.toBytes).length := by
  unfold History.length
  induction history.passages with
  | nil => exact Nat.le_refl 0
  | cons passage passages ih =>
    have positive := passage.length_toBytes_pos
    rw [List.flatMap_cons, List.length_append, List.length_cons]
    omega

namespace Checkpoint

variable {checkpoint : Checkpoint}

theorem readBytes_toBytes
    (written : checkpoint.timestamp.Survives)
    (recorded : checkpoint.history.Survives)
    (short : checkpoint.toBytes.Short)
    (rest : Bytes) :
    readBytes (checkpoint.toBytes ++ rest) = some (checkpoint, rest) := by
  unfold toBytes at short ⊢
  simp only [List.append_assoc] at short ⊢
  have version : checkpoint.version.toNat < 256 ^ 4 := checkpoint.version.toNat_lt
  have afterVersion := short.right
  have afterId := afterVersion.right
  have afterTime := afterId.right
  have afterMachine := afterTime.right
  have afterState := afterMachine.right
  have afterContext := afterState.right
  have passages := afterContext.right.right
  have count : checkpoint.history.length < 256 ^ 8 :=
    Nat.lt_of_le_of_lt checkpoint.history.length_le_length_toBytes passages
  have history : readMany Passage.readBytes checkpoint.history.passages.length
      (checkpoint.history.passages.flatMap Passage.toBytes ++ rest) =
        some (checkpoint.history.passages, rest) :=
    readMany_flatMap (fun passage member =>
      Passage.readBytes_toBytes (recorded passage member) (passages.of_mem member)) rest
  unfold readBytes
  simp only [readNat_ofNat version, readText_ofText afterVersion.left,
    readTimestamp_ofText written afterId.left, readText_ofText afterTime.left,
    readText_ofText afterMachine.left, readText_ofText afterState.left, readBool_ofBool,
    readNat_ofNat count, Option.bind_eq_bind, Option.bind_some]
  rw [History.length, history, UInt32.ofNat_toNat]
  rfl

/-- A checkpoint of the supported version is read back from its bytes. -/
theorem ofBytes_toBytes
    (supported : checkpoint.version = supportedVersion)
    (written : checkpoint.timestamp.Survives)
    (recorded : checkpoint.history.Survives)
    (short : checkpoint.toBytes.Short) :
    ofBytes checkpoint.toBytes = .ok checkpoint := by
  have read := readBytes_toBytes written recorded short []
  rw [List.append_nil] at read
  rw [ofBytes, read]
  simp [check, supported, Except.map]

end Checkpoint
end Questionnaire
