import Questionnaire.Checkpoint.Basic

/-!
# Checkpoints as bytes

The fields follow one another without names.  Numbers are little-endian, of four
bytes for the version and of eight for lengths; a text is its length and its UTF-8
bytes; a truth value is one byte; a list is its length and its elements.  Bytes
after the last field are ignored.
-/

namespace Questionnaire

/-- A sequence of bytes. -/
abbrev Bytes := List UInt8

namespace Bytes

/-- The little-endian bytes of a number. -/
def ofNat (value : Nat) : (width : Nat) → Bytes
  | 0 => []
  | width + 1 => UInt8.ofNat value :: ofNat (value / 256) width

/-- The bytes of a text after their number. -/
def ofText (text : String) : Bytes :=
  let bytes := text.toByteArray.data.toList
  ofNat bytes.length 8 ++ bytes

/-- The byte of a truth value. -/
def ofBool (value : Bool) : Bytes :=
  [if value then 1 else 0]

/-- Split off a little-endian number. -/
def readNat : (width : Nat) → Bytes → Option (Nat × Bytes)
  | 0, bytes => some (0, bytes)
  | _ + 1, [] => none
  | width + 1, byte :: rest =>
    (readNat width rest).map fun (value, rest) => (byte.toNat + 256 * value, rest)

/-- Split off a text. -/
def readText (bytes : Bytes) : Option (String × Bytes) := do
  let (length, bytes) ← readNat 8 bytes
  if bytes.length < length then none
  else
    let text ← String.fromUTF8? ⟨(bytes.take length).toArray⟩
    return (text, bytes.drop length)

/-- Split off a truth value. -/
def readBool : Bytes → Option (Bool × Bytes)
  | 0 :: rest => some (false, rest)
  | 1 :: rest => some (true, rest)
  | _ => none

/-- Split off a timestamp, which stands as its text. -/
def readTimestamp (bytes : Bytes) : Option (Timestamp × Bytes) := do
  let (text, bytes) ← readText bytes
  return (← Timestamp.ofText? text, bytes)

/-- Split off `count` elements. -/
def readMany {α : Type} (read : Bytes → Option (α × Bytes)) :
    (count : Nat) → Bytes → Option (List α × Bytes)
  | 0, bytes => some ([], bytes)
  | count + 1, bytes => do
    let (first, bytes) ← read bytes
    let (rest, bytes) ← readMany read count bytes
    return (first :: rest, bytes)

end Bytes

namespace Passage

/-- The bytes of a passage. -/
def toBytes (passage : Passage) : Bytes :=
  Bytes.ofText passage.source ++ Bytes.ofText passage.target ++ Bytes.ofText passage.event
    ++ Bytes.ofText passage.timestamp.text

/-- Split off a passage. -/
def readBytes (bytes : Bytes) : Option (Passage × Bytes) := do
  let (source, bytes) ← Bytes.readText bytes
  let (target, bytes) ← Bytes.readText bytes
  let (event, bytes) ← Bytes.readText bytes
  let (timestamp, bytes) ← Bytes.readTimestamp bytes
  return (⟨source, target, event, timestamp⟩, bytes)

end Passage

namespace Checkpoint

/-- The bytes of a checkpoint. -/
def toBytes (checkpoint : Checkpoint) : Bytes :=
  Bytes.ofNat checkpoint.version.toNat 4
    ++ Bytes.ofText checkpoint.id
    ++ Bytes.ofText checkpoint.timestamp.text
    ++ Bytes.ofText checkpoint.machine
    ++ Bytes.ofText checkpoint.state
    ++ Bytes.ofText checkpoint.context
    ++ Bytes.ofBool checkpoint.done
    ++ Bytes.ofNat checkpoint.history.length 8
    ++ checkpoint.history.passages.flatMap Passage.toBytes

/-- Split off a checkpoint of any version. -/
def readBytes (bytes : Bytes) : Option (Checkpoint × Bytes) := do
  let (version, bytes) ← Bytes.readNat 4 bytes
  let (id, bytes) ← Bytes.readText bytes
  let (timestamp, bytes) ← Bytes.readTimestamp bytes
  let (machine, bytes) ← Bytes.readText bytes
  let (state, bytes) ← Bytes.readText bytes
  let (context, bytes) ← Bytes.readText bytes
  let (done, bytes) ← Bytes.readBool bytes
  let (count, bytes) ← Bytes.readNat 8 bytes
  let (passages, bytes) ← Bytes.readMany Passage.readBytes count bytes
  return (
    { version := .ofNat version, id, timestamp, machine, state, context, done,
      history := ⟨passages⟩ },
    bytes)

/-- Read a checkpoint of the supported version from the start of a sequence of bytes. -/
def ofBytes (bytes : Bytes) : Except CheckpointError Checkpoint :=
  match readBytes bytes with
  | some (checkpoint, _) => checkpoint.check.map fun _ => checkpoint
  | none => .error .malformed

end Checkpoint
end Questionnaire
