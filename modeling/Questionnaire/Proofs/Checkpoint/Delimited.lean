import Questionnaire.Proofs.Checkpoint.Binary

/-!
# Where the bytes of a checkpoint end

No reader looks behind the bytes that it takes.  So the bytes of a checkpoint may be
followed by any others, and they cannot be cut short: a part of them that was a checkpoint
too would be taken in front of the rest, of which nothing is unread.
-/

namespace Questionnaire
namespace Bytes

variable {α β : Type}

/-- A reader that takes the same value from the same bytes, whatever follows them. -/
def Delimits (read : Bytes → Option (α × Bytes)) : Prop :=
  ∀ bytes value rest, read bytes = some (value, rest) →
    ∀ more, read (bytes ++ more) = some (value, rest ++ more)

/-- What is taken to the last byte cannot be taken from less. -/
theorem Delimits.eq_none_of_part
    {read : Bytes → Option (α × Bytes)}
    {part missing : Bytes}
    {value : α}
    (delimits : Delimits read)
    (whole : read (part ++ missing) = some (value, []))
    (cut : missing ≠ []) :
    read part = none := by
  cases early : read part with
  | none => rfl
  | some taken =>
    obtain ⟨other, rest⟩ := taken
    have both := (delimits _ _ _ early missing).symm.trans whole
    simp only [Option.some.injEq, Prod.mk.injEq, List.append_eq_nil_iff] at both
    exact absurd both.2.2 cut

/-! ## Readers -/

theorem delimits_pure (value : α) : Delimits fun bytes => some (value, bytes) := by
  intro bytes other rest taken more
  cases taken
  rfl

theorem delimits_value (value? : Option α) :
    Delimits fun bytes => value?.bind fun value => some (value, bytes) := by
  cases value? with
  | none =>
    intro bytes value rest taken
    cases taken
  | some value => exact delimits_pure value

/-- One reader after another delimits what both take. -/
theorem Delimits.bind
    {first : Bytes → Option (α × Bytes)}
    {next : α × Bytes → Option (β × Bytes)}
    (delimits : Delimits first)
    (later : ∀ value, Delimits fun bytes => next (value, bytes)) :
    Delimits fun bytes => first bytes >>= next := by
  intro bytes value rest taken more
  obtain ⟨⟨middle, unread⟩, early, late⟩ := Option.bind_eq_some_iff.1 taken
  show (first (bytes ++ more)).bind next = _
  rw [delimits bytes middle unread early more]
  exact later middle unread value rest late more

theorem delimits_readNat (width : Nat) : Delimits (readNat width) := by
  induction width with
  | zero => exact delimits_pure 0
  | succ width ih =>
    intro bytes value rest taken more
    cases bytes with
    | nil => cases taken
    | cons byte bytes =>
      obtain ⟨⟨high, unread⟩, early, late⟩ := Option.map_eq_some_iff.1 taken
      cases late
      rw [List.cons_append, readNat, ih bytes high rest early more]
      rfl

theorem delimits_readText : Delimits readText := by
  unfold readText
  apply (delimits_readNat 8).bind
  intro length bytes text rest taken more
  dsimp only at taken ⊢
  split at taken
  · cases taken
  · rename_i enough
    have bound : length ≤ bytes.length := Nat.le_of_not_lt enough
    have still : ¬(bytes ++ more).length < length := by
      rw [List.length_append]
      omega
    rw [if_neg still, List.take_append_of_le_length bound,
      List.drop_append_of_le_length bound]
    obtain ⟨_, read, last⟩ := Option.bind_eq_some_iff.1 taken
    cases last
    rw [read]
    rfl

theorem delimits_readBool : Delimits readBool := by
  intro bytes value rest taken more
  unfold readBool at taken
  split at taken
  · cases taken
    rfl
  · cases taken
    rfl
  · cases taken

theorem delimits_readTimestamp : Delimits readTimestamp := by
  unfold readTimestamp
  apply delimits_readText.bind
  intro text
  exact delimits_value (Timestamp.ofText? text)

theorem Delimits.readMany
    {read : Bytes → Option (α × Bytes)}
    (delimits : Delimits read)
    (count : Nat) :
    Delimits (Bytes.readMany read count) := by
  induction count with
  | zero => exact delimits_pure []
  | succ count ih =>
    apply delimits.bind
    intro value
    apply ih.bind
    intro values
    exact delimits_pure (value :: values)

end Bytes

open Bytes

theorem Passage.delimits_readBytes : Delimits Passage.readBytes := by
  unfold Passage.readBytes
  apply delimits_readText.bind
  intro source
  apply delimits_readText.bind
  intro target
  apply delimits_readText.bind
  intro event
  apply delimits_readTimestamp.bind
  intro timestamp
  exact delimits_pure (⟨source, target, event, timestamp⟩ : Passage)

namespace Checkpoint

variable {checkpoint : Checkpoint}

theorem delimits_readBytes : Delimits Checkpoint.readBytes := by
  unfold Checkpoint.readBytes
  apply (delimits_readNat 4).bind
  intro version
  apply delimits_readText.bind
  intro id
  apply delimits_readTimestamp.bind
  intro timestamp
  apply delimits_readText.bind
  intro machine
  apply delimits_readText.bind
  intro state
  apply delimits_readText.bind
  intro context
  apply delimits_readBool.bind
  intro done
  apply (delimits_readNat 8).bind
  intro count
  apply (Passage.delimits_readBytes.readMany count).bind
  intro passages
  exact delimits_pure _

theorem ofBytes_toBytes_append
    (written : checkpoint.timestamp.Survives)
    (recorded : checkpoint.history.Survives)
    (short : checkpoint.toBytes.Short)
    (rest : Bytes) :
    ofBytes (checkpoint.toBytes ++ rest) =
      if checkpoint.version = supportedVersion then .ok checkpoint
      else .error (.unsupportedVersion checkpoint.version supportedVersion) := by
  rw [ofBytes, readBytes_toBytes written recorded short rest]
  by_cases supported : checkpoint.version = supportedVersion
  · simp [check, supported, Except.map]
  · simp [check, supported, Except.map]

theorem ofBytes_of_part
    {part missing : Bytes}
    (written : checkpoint.timestamp.Survives)
    (recorded : checkpoint.history.Survives)
    (short : checkpoint.toBytes.Short)
    (parted : part ++ missing = checkpoint.toBytes)
    (cut : missing ≠ []) :
    ofBytes part = .error .malformed := by
  have whole := readBytes_toBytes written recorded short []
  rw [List.append_nil, ← parted] at whole
  rw [ofBytes, delimits_readBytes.eq_none_of_part whole cut]

/-- In front of any other bytes, those of a checkpoint are read as the checkpoint if its
version is supported, and refused with its version otherwise.  Less than all of them, or
none, are malformed. -/
theorem delimited_toBytes
    (written : checkpoint.timestamp.Survives)
    (recorded : checkpoint.history.Survives)
    (short : checkpoint.toBytes.Short) :
    (∀ rest, ofBytes (checkpoint.toBytes ++ rest) =
      if checkpoint.version = supportedVersion then .ok checkpoint
      else .error (.unsupportedVersion checkpoint.version supportedVersion)) ∧
    ∀ part, part <+: checkpoint.toBytes → part ≠ checkpoint.toBytes →
      ofBytes part = .error .malformed := by
  refine ⟨ofBytes_toBytes_append written recorded short, ?_⟩
  rintro part ⟨missing, parted⟩ proper
  apply ofBytes_of_part written recorded short parted
  rintro rfl
  rw [List.append_nil] at parted
  exact proper parted

/-- A checkpoint of a later version, after two passages. -/
def fromLater : Checkpoint where
  version := 2
  id := "é"
  timestamp := .epoch
  machine := "door"
  state := "closed"
  context := (Json.object ∅).text
  done := false
  history := ⟨[⟨"closed", "open", "OPEN", .epoch⟩, ⟨"open", "closed", "", .epoch⟩]⟩

/-- A checkpoint of a later version is refused with that version, whatever follows it, and
each of its proper parts as malformed. -/
theorem delimited_toBytes_of_fromLater :
    fromLater.timestamp.Survives ∧ fromLater.history.Survives ∧ fromLater.toBytes.Short ∧
      (∀ rest, ofBytes (fromLater.toBytes ++ rest) =
        if fromLater.version = supportedVersion then .ok fromLater
        else .error (.unsupportedVersion fromLater.version supportedVersion)) ∧
      ∀ part, part <+: fromLater.toBytes → part ≠ fromLater.toBytes →
        ofBytes part = .error .malformed := by
  have written : fromLater.timestamp.Survives := by decide +kernel
  have recorded : fromLater.history.Survives := by decide +kernel
  have short : fromLater.toBytes.Short := by decide +kernel
  exact ⟨written, recorded, short, delimited_toBytes written recorded short⟩

end Checkpoint
end Questionnaire
