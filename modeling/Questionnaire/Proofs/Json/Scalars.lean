import Questionnaire.Json.Reader
import Questionnaire.Json.Writer

/-!
# Reading back strings and integers

The text of a string is read back character by character, and the text of an integer in
the range that is read as one is read back to the integer.  What follows the text is
left over, provided that it does not continue a number.
-/

namespace Questionnaire
namespace Json

/-! ## Strings -/

namespace Piece

/-- How a control character is written: as a letter after a backslash, or by its code. -/
inductive ControlForm (char : Char) : Prop where
  | letter
      (letter : Char)
      (written : controlText char = ['\\', letter])
      (different : letter ≠ 'u')
      (read : escaped? letter = some char)
  | code
      (first second third fourth : Char)
      (code : Nat)
      (written : controlText char = ['\\', 'u', first, second, third, fourth])
      (read : hexCode? first second third fourth = some code)
      (same : ofCode code = .char char)

/-- The characters that are written by a letter. -/
def lettered : List (Char × Char) :=
  [('\x08', 'b'), ('\x09', 't'), ('\x0a', 'n'), ('\x0c', 'f'), ('\x0d', 'r')]

theorem controlText_of_lettered :
    ∀ entry ∈ lettered, controlText entry.1 = ['\\', entry.2] ∧ entry.2 ≠ 'u' ∧
      escaped? entry.2 = some entry.1 := by
  decide

theorem controlText_of_code :
    ∀ code < 32, (Char.ofNat code) ∉ lettered.map Prod.fst →
      let high := hexDigit (code / 16)
      let low := hexDigit (code % 16)
      controlText (Char.ofNat code) = ['\\', 'u', '0', '0', high, low] ∧
        hexCode? '0' '0' high low = some code ∧ ofCode code = .char (Char.ofNat code) := by
  decide

theorem controlForm {char : Char} (control : char.toNat < 0x20) : ControlForm char := by
  by_cases member : char ∈ lettered.map Prod.fst
  · obtain ⟨entry, found, rfl⟩ := List.mem_map.1 member
    obtain ⟨written, different, read⟩ := controlText_of_lettered entry found
    exact .letter entry.2 written different read
  · have same : Char.ofNat char.toNat = char := Char.ofNat_toNat char
    have form := controlText_of_code char.toNat control
    rw [same] at form
    obtain ⟨written, read, decoded⟩ := form member
    exact .code _ _ _ _ char.toNat written read decoded

/-- A letter after a backslash is read as the character it stands for. -/
theorem readAll_letter
    {letter value : Char}
    (different : letter ≠ 'u')
    (read : escaped? letter = some value)
    (rest : List Char) :
    readAll ('\\' :: letter :: rest) =
      (readAll rest).map fun (pieces, later) => (.char value :: pieces, later) := by
  rw [readAll, if_neg (by decide), if_pos rfl, read]
  · cases readAll rest <;> rfl
  · intro _ _ _ _ _ same
    exact absurd same different

/-- A code after a backslash is read as the character that it encodes. -/
theorem readAll_code
    {first second third fourth : Char}
    {code : Nat}
    {value : Char}
    (read : hexCode? first second third fourth = some code)
    (same : ofCode code = .char value)
    (rest : List Char) :
    readAll ('\\' :: 'u' :: first :: second :: third :: fourth :: rest) =
      (readAll rest).map fun (pieces, later) => (.char value :: pieces, later) := by
  rw [readAll, if_neg (by decide), if_pos rfl]
  simp only [read]
  cases readAll rest with
  | none => rfl
  | some result => simp only [same, Option.map_some]

/-- A character that needs no backslash is read as itself. -/
theorem readAll_plain
    {char : Char}
    (notQuote : char ≠ '"')
    (notBackslash : char ≠ '\\')
    (printed : ¬char.toNat < 0x20)
    (rest : List Char) :
    readAll (char :: rest) =
      (readAll rest).map fun (pieces, later) => (.char char :: pieces, later) := by
  rw [readAll.eq_def]
  simp only [if_neg notQuote, if_neg notBackslash, if_neg printed]

theorem readAll_quote (rest : List Char) : readAll ('"' :: rest) = some ([], rest) := by
  rw [readAll.eq_def]
  simp only [if_pos]

/-- The text of one character is read as that character. -/
theorem readAll_charText (char : Char) (rest : List Char) :
    readAll (charText char ++ rest) =
      (readAll rest).map fun (pieces, later) => (.char char :: pieces, later) := by
  unfold charText
  split
  · rename_i quote
    subst quote
    exact readAll_letter (by decide) rfl rest
  · rename_i notQuote
    split
    · rename_i backslash
      subst backslash
      exact readAll_letter (by decide) rfl rest
    · rename_i notBackslash
      split
      · rename_i control
        cases controlForm control with
        | letter letter written different read =>
          rw [written]
          exact readAll_letter different read rest
        | code first second third fourth code written read same =>
          rw [written]
          exact readAll_code read same rest
      · rename_i printed
        exact readAll_plain notQuote notBackslash printed rest

/-- The text of a string is read up to its closing quote. -/
theorem readAll_flatMap (chars rest : List Char) :
    readAll (chars.flatMap charText ++ '"' :: rest) = some (chars.map .char, rest) := by
  induction chars with
  | nil => exact readAll_quote rest
  | cons char chars ih =>
    rw [List.flatMap_cons, List.append_assoc, readAll_charText, ih]
    rfl

theorem chars?_map_char (chars : List Char) : chars? (chars.map .char) = some chars := by
  induction chars with
  | nil => rfl
  | cons char chars ih => rw [List.map_cons, chars?, ih, Option.map_some]

end Piece

/-- The text of a string is read back. -/
theorem readString_stringText (text : String) (rest : List Char) :
    ∃ opened, stringText text ++ rest = '"' :: opened ∧
      readString opened = some (some text, rest) := by
  refine ⟨text.toList.flatMap charText ++ '"' :: rest, by simp [stringText], ?_⟩
  rw [readString, Piece.readAll_flatMap, Option.map_some]
  simp only [Piece.chars?_map_char, Option.map_some, String.ofList_toList]

/-! ## Integers -/

/-- What may follow a value does not continue a number: nothing, a comma, or the end of
an array or object. -/
inductive Stops : List Char → Prop
  | nil : Stops []
  | comma (rest : List Char) : Stops (',' :: rest)
  | bracket (rest : List Char) : Stops (']' :: rest)
  | brace (rest : List Char) : Stops ('\x7d' :: rest)

namespace Numeral

theorem takeWhile_isDigit_of_stops {rest : List Char} (stops : Stops rest) :
    rest.takeWhile Char.isDigit = [] ∧ rest.dropWhile Char.isDigit = rest := by
  cases stops <;> exact ⟨rfl, rfl⟩

theorem readDigits_append
    {digits rest : List Char}
    (each : ∀ digit ∈ digits, digit.isDigit = true)
    (some : digits ≠ [])
    (stops : Stops rest) :
    readDigits (digits ++ rest) = .some (digits, rest) := by
  obtain ⟨none, all⟩ := takeWhile_isDigit_of_stops stops
  unfold readDigits
  rw [List.takeWhile_append_of_pos each, List.dropWhile_append_of_pos each, none, all,
    List.append_nil]
  cases digits with
  | nil => exact absurd rfl some
  | cons digit digits => rfl

/-- The digits of a positive number do not begin with a zero. -/
theorem head?_toDigits_ne_zero {value : Nat} (positive : 0 < value) :
    (Nat.toDigits 10 value).head? ≠ some '0' := by
  induction value using Nat.strongRecOn with
  | ind value ih =>
    by_cases small : value < 10
    · rw [Nat.toDigits_of_lt_base small]
      have each : ∀ digit < 10, 0 < digit → [Nat.digitChar digit].head? ≠ some '0' := by decide
      exact each value small positive
    · have large : 10 ≤ value := Nat.le_of_not_lt small
      have shorter := ih (value / 10) (by omega) (by omega)
      rw [Nat.toDigits_of_base_le (by decide) large]
      obtain ⟨first, later, shape⟩ :=
        List.exists_cons_of_ne_nil (Nat.toDigits_ne_nil (n := value / 10) (b := 10))
      rwa [shape] at shorter ⊢

theorem isDigit_of_mem_toDigits (value : Nat) :
    ∀ digit ∈ Nat.toDigits 10 value, digit.isDigit = true :=
  fun _ member => Nat.isDigit_of_mem_toDigits (by decide) (by decide) member

theorem readWhole_toDigits {rest : List Char} (value : Nat) (stops : Stops rest) :
    readWhole (Nat.toDigits 10 value ++ rest) = some (Nat.toDigits 10 value, rest) := by
  have read := readDigits_append (isDigit_of_mem_toDigits value) Nat.toDigits_ne_nil stops
  unfold readWhole
  rw [read]
  split
  · rename_i shape
    obtain ⟨digits, _⟩ := Prod.mk.inj (Option.some.inj shape)
    rcases Nat.eq_zero_or_pos value with zero | positive
    · rw [zero, Nat.toDigits_zero] at digits
      simp at digits
    · have head := head?_toDigits_ne_zero positive
      rw [digits] at head
      exact absurd rfl head
  · rfl

/-- Digits whose value stays below the bound are all absorbed. -/
theorem absorb_eq
    {digits : List Char}
    {value : Nat}
    (bounded : Nat.ofDigitChars 10 digits value < 2 ^ 64) :
    absorb value digits = (Nat.ofDigitChars 10 digits value, []) := by
  induction digits generalizing value with
  | nil => rw [absorb, Nat.ofDigitChars_nil]
  | cons digit digits ih =>
    rw [Nat.ofDigitChars_cons] at bounded ⊢
    have grows (start : Nat) : start ≤ Nat.ofDigitChars 10 digits start := by
      rw [Nat.ofDigitChars_eq_ofDigitChars_zero]
      have power : 0 < 10 ^ digits.length := Nat.pow_pos (by decide)
      have := Nat.le_mul_of_pos_left start power
      omega
    have next : 10 * value + (digit.toNat - '0'.toNat) < 2 ^ 64 :=
      Nat.lt_of_le_of_lt (grows _) bounded
    rw [absorb, if_pos next, ih bounded]

theorem readUnsigned_toDigits
    {rest : List Char}
    (negative : Bool)
    (value : Nat)
    (stops : Stops rest) :
    readUnsigned negative (Nat.toDigits 10 value ++ rest) =
      some (⟨negative, Nat.toDigits 10 value, [], none⟩, rest) := by
  have fraction : readFraction rest = some ([], rest) := by cases stops <;> rfl
  have exponent : readExponent rest = some (none, rest) := by cases stops <;> rfl
  unfold readUnsigned
  rw [readWhole_toDigits value stops]
  simp only [Option.bind_eq_bind, Option.bind_some, fraction, exponent]
  rfl

/-- The value of a number without fraction and exponent, below the bound. -/
theorem value_toDigits {value : Nat} (negative : Bool) (bounded : value < 2 ^ 64) :
    (⟨negative, Nat.toDigits 10 value, [], none⟩ : Numeral).value = ofInteger negative value := by
  have absorbed : absorb 0 (Nat.toDigits 10 value) = (value, []) := by
    have same : Nat.ofDigitChars 10 (Nat.toDigits 10 value) 0 = value :=
      Nat.ofDigitChars_ten_toDigits
    rw [absorb_eq (by rwa [same]), same]
  simp [Numeral.value, absorbed]

end Numeral

/-- An integer that is read as one. -/
def InRange (value : Int) : Prop :=
  -2 ^ 63 ≤ value ∧ value < 2 ^ 64

instance (value : Int) : Decidable (InRange value) :=
  inferInstanceAs (Decidable (_ ∧ _))

/-- The text of an integer begins with a sign or a digit. -/
theorem intText_eq_cons (value : Int) :
    ∃ first later, intText value = first :: later ∧ (first = '-' ∨ first.isDigit = true) := by
  unfold intText
  obtain ⟨first, later, shape⟩ :=
    List.exists_cons_of_ne_nil (Nat.toDigits_ne_nil (n := value.natAbs) (b := 10))
  split
  · exact ⟨'-', _, rfl, .inl rfl⟩
  · refine ⟨first, later, shape, .inr ?_⟩
    exact Numeral.isDigit_of_mem_toDigits _ first (shape ▸ List.mem_cons_self)

/-- The text of an integer in range is read back. -/
theorem read_intText
    {value : Int}
    {rest : List Char}
    (range : InRange value)
    (stops : Stops rest) :
    (Numeral.read (intText value ++ rest)).map (fun (numeral, rest) => (numeral.value, rest)) =
      some (.int value, rest) := by
  obtain ⟨lower, upper⟩ := range
  unfold intText
  by_cases negative : value < 0
  · have small : value.natAbs < 2 ^ 64 := by omega
    rw [if_pos negative, List.append_assoc, List.singleton_append, Numeral.read,
      Numeral.readUnsigned_toDigits true _ stops, Option.map_some]
    simp only [Numeral.value_toDigits true small]
    have within : 0 < value.natAbs ∧ value.natAbs ≤ 2 ^ 63 := by omega
    have same : -(value.natAbs : Int) = value := by omega
    rw [Numeral.ofInteger, if_neg (by decide), if_pos within, same]
  · have small : value.natAbs < 2 ^ 64 := by omega
    have same : (value.natAbs : Int) = value := by omega
    rw [if_neg negative, List.nil_append, Numeral.read]
    · rw [Numeral.readUnsigned_toDigits false _ stops, Option.map_some]
      simp only [Numeral.value_toDigits false small]
      rw [Numeral.ofInteger, if_pos (by decide), same]
    · intro later shape
      obtain ⟨first, digits, begins⟩ :=
        List.exists_cons_of_ne_nil (Nat.toDigits_ne_nil (n := value.natAbs) (b := 10))
      rw [begins, List.cons_append] at shape
      have digit := Numeral.isDigit_of_mem_toDigits _ first (begins ▸ List.mem_cons_self)
      rw [(List.cons.inj shape).1] at digit
      exact absurd digit (by decide)

end Json
end Questionnaire
