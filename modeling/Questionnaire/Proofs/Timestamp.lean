import Questionnaire.Timestamp.Text

/-!
# Reading back the text of a timestamp

Every timestamp is read back from its text.  A field is written with as many digits as its
reader takes at most, or with a character after it that is no digit, so each reader stops
where its field ends.
-/

namespace Questionnaire
namespace Timestamp

/-! ## Digits -/

theorem isDigit_of_mem_padded
    {width number : Nat}
    {digit : Char}
    (member : digit ∈ padded width number) :
    digit.isDigit = true := by
  rcases List.mem_append.1 member with zero | significant
  · rw [List.eq_of_mem_replicate zero]
    rfl
  · exact Nat.isDigit_of_mem_toDigits (by decide) (by decide) significant

theorem ofDigitChars_padded (width number : Nat) :
    Nat.ofDigitChars 10 (padded width number) 0 = number := by
  rw [padded, Nat.ofDigitChars_append, Nat.ofDigitChars_replicate_zero, Nat.mul_zero,
    Nat.ofDigitChars_ten_toDigits]

theorem length_padded
    {width number : Nat}
    (positive : 0 < width)
    (below : number < 10 ^ width) :
    (padded width number).length = width := by
  have fits : (Nat.toDigits 10 number).length ≤ width :=
    (Nat.length_toDigits_le_iff (by decide) positive).2 below
  rw [padded, List.length_append, List.length_replicate]
  omega

/-- The text of a number begins with a digit. -/
theorem padded_eq_cons (width number : Nat) :
    ∃ first later, padded width number = first :: later ∧ first.isDigit = true := by
  have some : padded width number ≠ [] := by
    rw [padded]
    exact List.append_ne_nil_of_right_ne_nil _ Nat.toDigits_ne_nil
  obtain ⟨first, later, shape⟩ := List.exists_cons_of_ne_nil some
  have member : first ∈ padded width number := by
    rw [shape]
    exact List.mem_cons_self
  exact ⟨first, later, shape, isDigit_of_mem_padded member⟩

/-- A number is read up to its last digit, if that is the last one that is looked at or if
no digit follows. -/
theorem readNumber_padded
    {limit width number : Nat}
    {rest : List Char}
    (within : (padded width number).length ≤ limit)
    (stops : (rest.take (limit - (padded width number).length)).takeWhile Char.isDigit = []) :
    readNumber limit (padded width number ++ rest) = some (number, rest) := by
  have digits : ((padded width number ++ rest).take limit).takeWhile Char.isDigit =
      padded width number := by
    rw [List.take_append, List.take_of_length_le within,
      List.takeWhile_append_of_pos fun _ => isDigit_of_mem_padded, stops, List.append_nil]
  obtain ⟨first, later, shape, _⟩ := padded_eq_cons width number
  unfold readNumber
  rw [digits]
  split
  · rename_i none
    rw [shape] at none
    cases none
  · rw [ofDigitChars_padded, List.drop_left]

/-- A number of as many digits as are looked at is read, whatever follows. -/
theorem readNumber_of_width
    {width number : Nat}
    (positive : 0 < width)
    (below : number < 10 ^ width)
    (rest : List Char) :
    readNumber width (padded width number ++ rest) = some (number, rest) := by
  have length := length_padded positive below
  apply readNumber_padded
  · exact Nat.le_of_eq length
  · rw [length, Nat.sub_self]
    rfl

/-! ## Fields -/

theorem skipSpaces_cons
    {first : Char}
    (printed : isSpace first = false)
    (later : List Char) :
    skipSpaces (first :: later) = first :: later := by
  rw [skipSpaces, List.dropWhile_cons, if_neg (by simp [printed])]

theorem printed_of_isDigit
    {first : Char}
    (digit : first.isDigit = true) :
    isSpace first = false ∧ first ≠ '-' ∧ first ≠ '+' := by
  have each : ∀ code < 58, 48 ≤ code →
      isSpace (Char.ofNat code) = false ∧ Char.ofNat code ≠ '-' ∧ Char.ofNat code ≠ '+' := by
    decide
  obtain ⟨lower, upper⟩ := Char.isDigit_iff_toNat.1 digit
  have printed := each first.toNat (Nat.lt_succ_of_le upper) lower
  rwa [Char.ofNat_toNat] at printed

theorem skipSpaces_padded (width number : Nat) (rest : List Char) :
    skipSpaces (padded width number ++ rest) = padded width number ++ rest := by
  obtain ⟨first, later, shape, digit⟩ := padded_eq_cons width number
  rw [shape, List.cons_append, skipSpaces_cons (printed_of_isDigit digit).1]

theorem readField_padded
    {number : Nat}
    (below : number < 100)
    (rest : List Char) :
    readField (padded 2 number ++ rest) = some (number, rest) := by
  rw [readField, skipSpaces_padded, readNumber_of_width (by decide) below]

theorem readMarked_padded
    {number : Nat}
    (mark : Char)
    (printed : isSpace mark = false)
    (below : number < 100)
    (rest : List Char) :
    readMarked mark (mark :: (padded 2 number ++ rest)) = some (number, rest) := by
  rw [readMarked, skipSpaces_cons printed, expect, if_pos rfl, Option.bind_some,
    readField_padded below]

/-! ## Days -/

/-- A year after a sign is read up to the mark after it, however many digits it has. -/
theorem readNumber_signed (number : Nat) (rest : List Char) :
    let text := padded 4 number ++ '-' :: rest
    readNumber text.length text = some (number, '-' :: rest) := by
  intro text
  have within : (padded 4 number).length ≤ text.length := by
    rw [List.length_append]
    omega
  apply readNumber_padded within
  have one : text.length - (padded 4 number).length = rest.length + 1 := by
    rw [List.length_append, List.length_cons]
    omega
  rw [one, List.take_succ_cons]
  rfl

theorem yearText_eq_cons (year : Int) :
    ∃ first later, yearText year = first :: later ∧ isSpace first = false := by
  unfold yearText
  split
  · obtain ⟨first, later, shape, digit⟩ := padded_eq_cons 4 year.natAbs
    exact ⟨first, later, shape, (printed_of_isDigit digit).1⟩
  · split
    · exact ⟨_, _, rfl, rfl⟩
    · exact ⟨_, _, rfl, rfl⟩

theorem readYear_yearText (year : Int) (rest : List Char) :
    readYear (yearText year ++ '-' :: rest) = some (year, '-' :: rest) := by
  unfold yearText
  split
  · rename_i plain
    have below : year.natAbs < 10 ^ 4 := by omega
    have same : (year.natAbs : Int) = year := by omega
    have read := readNumber_of_width (by decide) below ('-' :: rest)
    obtain ⟨first, later, shape, digit⟩ := padded_eq_cons 4 year.natAbs
    obtain ⟨_, notMinus, notPlus⟩ := printed_of_isDigit digit
    unfold readYear
    split
    · rename_i signed
      rw [shape] at signed
      exact absurd (List.cons.inj signed).1 notMinus
    · rename_i signed
      rw [shape] at signed
      exact absurd (List.cons.inj signed).1 notPlus
    · rw [read, Option.map_some]
      simp only [same]
  · have read := readNumber_signed year.natAbs rest
    dsimp only at read
    split
    · rename_i negative
      have same : -(year.natAbs : Int) = year := by omega
      rw [List.cons_append, readYear, read, Option.map_some]
      simp only [same]
    · rename_i positive
      have same : (year.natAbs : Int) = year := by omega
      rw [List.cons_append, readYear, read, Option.map_some]
      simp only [same]

theorem readDate_dateText
    {date : Date}
    (valid : date.Valid)
    (rest : List Char) :
    readDate (dateText date ++ rest) = some (date, rest) := by
  obtain ⟨_, _, month, _, day⟩ := valid
  have short : date.day < 100 := by
    have most : Date.daysIn date.year date.month ≤ 31 := by
      unfold Date.daysIn
      split
      · split <;> omega
      · split <;> omega
    omega
  obtain ⟨first, later, shape, printed⟩ := yearText_eq_cons date.year
  have begins (text : List Char) :
      skipSpaces (yearText date.year ++ text) = yearText date.year ++ text := by
    rw [shape, List.cons_append, skipSpaces_cons printed]
  unfold readDate dateText
  simp only [List.append_assoc, List.cons_append, begins, readYear_yearText,
    readMarked_padded '-' rfl (show date.month < 100 by omega),
    readMarked_padded '-' rfl short, Option.bind_eq_bind, Option.bind_some]
  rfl

/-! ## Times -/

/-- Decimals in groups of three are read as the nanoseconds that they make up. -/
theorem readFraction_padded
    {width number : Nat}
    (positive : 0 < width)
    (most : width ≤ 9)
    (below : number < 10 ^ width) :
    readFraction ('.' :: (padded width number ++ ['Z'])) =
      some (number * 10 ^ (9 - width), ['Z']) := by
  have length := length_padded positive below
  have digits : (padded width number ++ ['Z']).takeWhile Char.isDigit = padded width number := by
    rw [List.takeWhile_append_of_pos fun _ => isDigit_of_mem_padded]
    exact List.append_nil _
  have after : (padded width number ++ ['Z']).dropWhile Char.isDigit = ['Z'] := by
    rw [List.dropWhile_append_of_pos fun _ => isDigit_of_mem_padded]
    rfl
  have kept : (padded width number).take 9 = padded width number :=
    List.take_of_length_le (by omega)
  obtain ⟨first, later, shape, _⟩ := padded_eq_cons width number
  rw [readFraction]
  simp only [digits, after]
  split
  · rename_i none
    rw [shape] at none
    cases none
  · rw [kept, ofDigitChars_padded, length]

theorem readFraction_fractionText
    {nanosecond : Nat}
    (below : nanosecond < TimeOfDay.billion) :
    readFraction (fractionText nanosecond ++ ['Z']) = some (nanosecond, ['Z']) := by
  have small : nanosecond < 1000000000 := below
  unfold fractionText
  split
  · rename_i zero
    rw [zero]
    rfl
  · split
    · rename_i millis
      have same : nanosecond / 1000000 * 10 ^ (9 - 3) = nanosecond := by omega
      rw [List.cons_append, readFraction_padded (by decide) (by decide) (by omega), same]
    · split
      · rename_i micros
        have same : nanosecond / 1000 * 10 ^ (9 - 6) = nanosecond := by omega
        rw [List.cons_append, readFraction_padded (by decide) (by decide) (by omega), same]
      · have same : nanosecond * 10 ^ (9 - 9) = nanosecond := by omega
        rw [List.cons_append, readFraction_padded (by decide) (by decide) small, same]

/-- The second 60 stands for the 59th with a billion nanoseconds or more. -/
theorem timeOf_eq
    {time : TimeOfDay}
    (valid : time.Valid) :
    timeOf time.hour time.minute (time.second + time.nanosecond / TimeOfDay.billion)
      (time.nanosecond % TimeOfDay.billion) = time := by
  obtain ⟨_, _, second, nanosecond⟩ := valid
  unfold timeOf
  unfold TimeOfDay.billion at nanosecond ⊢
  by_cases leap : 1000000000 ≤ time.nanosecond
  · have last : time.second = 59 := by
      split at nanosecond <;> omega
    rw [if_pos last] at nanosecond
    have carried : time.nanosecond / 1000000000 = 1 := by omega
    have kept : 1000000000 + time.nanosecond % 1000000000 = time.nanosecond := by omega
    rw [last, carried, if_pos rfl, kept, ← last]
  · have carried : time.nanosecond / 1000000000 = 0 := by omega
    have kept : time.nanosecond % 1000000000 = time.nanosecond := by omega
    rw [carried, kept, Nat.add_zero, if_neg (by omega)]

theorem readTime_timeText
    {time : TimeOfDay}
    (valid : time.Valid) :
    readTime (timeText time ++ ['Z']) = some (time, ['Z']) := by
  have same := timeOf_eq valid
  obtain ⟨hour, minute, second, nanosecond⟩ := valid
  have shown : time.second + time.nanosecond / TimeOfDay.billion < 100 := by
    unfold TimeOfDay.billion at nanosecond ⊢
    split at nanosecond <;> omega
  have fraction : time.nanosecond % TimeOfDay.billion < TimeOfDay.billion :=
    Nat.mod_lt _ (by decide)
  unfold readTime timeText
  simp only [List.append_assoc, List.cons_append,
    readField_padded (show time.hour < 100 by omega),
    readMarked_padded ':' rfl (show time.minute < 100 by omega),
    readMarked_padded ':' rfl shown, readFraction_fractionText fraction,
    Option.bind_eq_bind, Option.bind_some, same]
  rfl

/-! ## Instants -/

/-- Local time without an offset is the time itself. -/
theorem ofLocal?_zero (timestamp : Timestamp) :
    ofLocal? timestamp.date timestamp.time 0 = some timestamp := by
  obtain ⟨date, time, dateValid, timeValid⟩ := timestamp
  obtain ⟨hour, minute, _, _⟩ := id timeValid
  have ofDay : ((60 * (time.hour : Int) + time.minute - 0) % 1440).toNat =
      60 * time.hour + time.minute := by
    omega
  have sameHour : (60 * time.hour + time.minute) / 60 = time.hour := by omega
  have sameMinute : (60 * time.hour + time.minute) % 60 = time.minute := by omega
  unfold ofLocal?
  dsimp only
  rw [if_pos ⟨dateValid, timeValid⟩, if_neg (by omega), if_neg (by omega), ofDay, sameHour,
    sameMinute, of?, dif_pos ⟨dateValid, timeValid⟩]

/-- Every timestamp is read back from its text. -/
theorem ofText?_text (timestamp : Timestamp) :
    ofText? timestamp.text = some timestamp := by
  have date (rest : List Char) := readDate_dateText timestamp.dateValid rest
  have time := readTime_timeText timestamp.timeValid
  rw [ofText?, text, String.toList_ofList]
  unfold ofChars? render
  simp only [List.append_assoc, List.cons_append, date, readSeparator, time,
    Option.bind_eq_bind, Option.bind_some]
  exact ofLocal?_zero timestamp

end Timestamp
end Questionnaire
