import EntitySearch.Proofs.Data.Fallible
import EntitySearch.Proofs.Schema.Calendar
import Mathlib.Data.Nat.Digits.Defs

/-!
# Written instants are read back

The exact form of an instant spells it: date and time are told from the seconds by the calendar, a
leap second is written as the sixtieth of its minute, and the fraction is written in as many digits
as it needs.

Main statements: `readNat_padded`, `readYear_writeYear`, `readFraction_writeFraction`,
`parseChars_written`, `parse_renderExact`.
-/
set_option autoImplicit false
namespace EntitySearch
namespace Timestamp

theorem isDigit_of_mem_padded {width n : Nat} : ∀ c ∈ padded width n, c.isDigit = true := by
  intro c member
  rcases List.mem_append.1 member with zero | digit
  · rw [List.eq_of_mem_replicate zero]
    rfl
  · exact Nat.isDigit_of_mem_toDigits (by decide) (by decide) digit

theorem ofDigitChars_zeros (k : Nat) : Nat.ofDigitChars 10 (List.replicate k '0') 0 = 0 := by
  induction k with
  | zero => rfl
  | succ k ih =>
      rw [List.replicate_succ, Nat.ofDigitChars_cons]
      exact ih

theorem ofDigitChars_padded (width n : Nat) : Nat.ofDigitChars 10 (padded width n) 0 = n := by
  rw [padded, Nat.ofDigitChars_append, ofDigitChars_zeros, Nat.ofDigitChars_toDigits (by decide)
    (by decide)]

theorem length_padded {width n : Nat} (positive : 0 < width) (fits : n < 10 ^ width) :
    (padded width n).length = width := by
  have short := (Nat.length_toDigits_le_iff (b := 10) (n := n) (by decide) positive).2 fits
  rw [padded, List.length_append, List.length_replicate]
  omega

theorem padded_ne_nil (width n : Nat) : padded width n ≠ [] := by
  simp [padded, Nat.toDigits_ne_nil]

section Digits
variable {digits rest : List Char} {width : Nat} (areDigits : ∀ c ∈ digits, c.isDigit = true)
  (fits : digits.length ≤ width)
  (ends : digits.length = width ∨ ∀ c ∈ rest.head?, c.isDigit = false)
include areDigits fits ends

/-- The digits end where the number is full or where no digit follows. -/
theorem takeWhile_digits : ((digits ++ rest).take width).takeWhile Char.isDigit = digits := by
  rw [List.take_append, List.take_of_length_le fits, List.takeWhile_append_of_pos areDigits]
  rcases ends with full | apart
  · rw [full, Nat.sub_self, List.take_zero, List.takeWhile_nil, List.append_nil]
  · cases rest with
    | nil => rw [List.take_nil, List.takeWhile_nil, List.append_nil]
    | cons c more =>
        have other := apart c rfl
        cases width - digits.length with
        | zero => rw [List.take_zero, List.takeWhile_nil, List.append_nil]
        | succ k =>
            rw [List.take_succ_cons, List.takeWhile_cons_of_neg (by simp [other]), List.append_nil]

theorem readNat_digits (filled : digits ≠ []) :
    readNat width (digits ++ rest) = some (Nat.ofDigitChars 10 digits 0, rest) := by
  unfold readNat
  rw [takeWhile_digits areDigits fits ends]
  simp only [List.isEmpty_eq_false_iff.2 filled, Bool.false_eq_true, if_false, List.drop_left,
    Nat.ofDigitChars_eq_foldl, Nat.mul_comm 10]

end Digits

theorem apart_of_cons {c : Char} (other : c.isDigit = false) (rest : List Char) :
    ∀ d ∈ (c :: rest).head?, d.isDigit = false := by
  rintro d ⟨⟩
  exact other

theorem readNat_padded {width short n : Nat} {rest : List Char}
    (fits : (padded short n).length ≤ width)
    (ends : (padded short n).length = width ∨ ∀ c ∈ rest.head?, c.isDigit = false) :
    readNat width (padded short n ++ rest) = some (n, rest) := by
  rw [readNat_digits isDigit_of_mem_padded fits ends (padded_ne_nil short n), ofDigitChars_padded]

theorem not_isSpace_of_isDigit {c : Char} (digit : c.isDigit = true) : Text.isSpace c = false := by
  have range : 48 ≤ c.toNat ∧ c.toNat ≤ 57 := by
    simp only [Char.isDigit, Bool.and_eq_true, decide_eq_true_eq, UInt32.le_iff_toNat_le] at digit
    exact digit
  simp only [Text.isSpace, Bool.or_eq_false_iff, Bool.and_eq_false_iff, decide_eq_false_iff_not,
    beq_eq_false_iff_ne]
  omega

theorem exists_cons_padded (width n : Nat) (rest : List Char) :
    ∃ c more, padded width n ++ rest = c :: more ∧ c.isDigit = true := by
  obtain ⟨c, more, whole⟩ := List.exists_cons_of_ne_nil (padded_ne_nil width n)
  exact ⟨c, more ++ rest, by rw [whole, List.cons_append],
    isDigit_of_mem_padded c (whole ▸ List.mem_cons_self)⟩

theorem trimStart_padded (width n : Nat) (rest : List Char) :
    Text.trimStart (padded width n ++ rest) = padded width n ++ rest := by
  obtain ⟨c, more, whole, digit⟩ := exists_cons_padded width n rest
  rw [whole, Text.trimStart_cons_solid (not_isSpace_of_isDigit digit)]

theorem readPart_padded {n : Nat} (fits : n < 100) (rest : List Char) :
    readPart 2 (padded 2 n ++ rest) = some (n, rest) := by
  have long : (padded 2 n).length = 2 := length_padded (by decide) fits
  rw [readPart, trimStart_padded, readNat_padded long.le (.inl long)]

theorem readMark_cons {mark : Char} (solid : Text.isSpace mark = false) (rest : List Char) :
    readMark mark (mark :: rest) = some rest := by
  rw [readMark, Text.trimStart_cons_solid solid]
  exact if_pos rfl

/-- A year is read up to the dash behind it. -/
theorem readYear_writeYear (year : Int) (rest : List Char) :
    readYear (writeYear year ++ '-' :: rest) = some (year, '-' :: rest) := by
  unfold writeYear
  split
  · next plain =>
    have long : (padded 4 year.toNat).length = 4 := length_padded (by decide) (by omega)
    obtain ⟨c, more, whole, digit⟩ := exists_cons_padded 4 year.toNat ('-' :: rest)
    have notMinus : c ≠ '-' := by
      rintro rfl
      cases digit
    have notPlus : c ≠ '+' := by
      rintro rfl
      cases digit
    have read : readNat 4 (padded 4 year.toNat ++ '-' :: rest) = some (year.toNat, '-' :: rest) :=
      readNat_padded long.le (.inl long)
    rw [readYear, trimStart_padded]
    rw [whole] at read ⊢
    simp only [notMinus, notPlus, if_false, read, Option.map_some, Int.toNat_of_nonneg plain.1]
  · next signed =>
    have read : readNat (padded 4 year.natAbs ++ '-' :: rest).length
        (padded 4 year.natAbs ++ '-' :: rest) = some (year.natAbs, '-' :: rest) :=
      readNat_padded (by simp) (.inr (apart_of_cons rfl rest))
    split
    · next before =>
      rw [List.cons_append, readYear, Text.trimStart_cons_solid rfl]
      simp only [if_true, read, Option.map_some]
      congr 2
      omega
    · next after =>
      rw [List.cons_append, readYear, Text.trimStart_cons_solid rfl]
      simp only [show ('+' : Char) ≠ '-' by decide, if_true, if_false, read, Option.map_some]
      congr 2
      omega

theorem readFraction_padded {width n : Nat} (positive : 0 < width) (short : width ≤ 9)
    (fits : n < 10 ^ width) :
    readFraction ('.' :: (padded width n ++ ['Z'])) = some (n * 10 ^ (9 - width), ['Z']) := by
  have long := length_padded positive fits
  have ends := apart_of_cons (show 'Z'.isDigit = false from rfl) []
  have digits := takeWhile_digits isDigit_of_mem_padded (long.le.trans short) (.inr ends)
  rw [readFraction, readNat_padded (long.le.trans short) (.inr ends), digits, long]
  rfl

theorem readFraction_writeFraction (t : Timestamp) :
    readFraction (t.writeFraction ++ ['Z']) = some (t.nanos % 1000000000, ['Z']) := by
  have below : t.nanos % 1000000000 < 1000000000 := Nat.mod_lt _ (by decide)
  unfold writeFraction
  dsimp only
  split
  · next none => rw [none]; rfl
  · split
    · rw [List.cons_append, readFraction_padded (by decide) (by decide) (by omega)]
      congr 2
      omega
    · split
      · rw [List.cons_append, readFraction_padded (by decide) (by decide) (by omega)]
        congr 2
        omega
      · rw [List.cons_append, readFraction_padded (by decide) (by decide) below, Nat.sub_self,
          Nat.pow_zero, Nat.mul_one]

/-! ## Instants -/

/-- A date and a time in the written form are read as the second they denote. -/
theorem parseChars_written {year : Int} {month day hour minute second nanos : Nat}
    {fraction : List Char} (isDate : Calendar.isDate year month day = true) (hours : hour ≤ 23)
    (minutes : minute ≤ 59) (seconds : second ≤ 60)
    (fractionRead : readFraction (fraction ++ ['Z']) = some (nanos, ['Z'])) :
    parseChars (writeYear year ++ '-' :: padded 2 month ++ '-' :: padded 2 day ++
        'T' :: padded 2 hour ++ ':' :: padded 2 minute ++ ':' :: padded 2 second ++ fraction ++
        ['Z']) =
      of? (Calendar.daysFromDate year month day * 86400 +
          (hour * 3600 + minute * 60 + ((if second = 60 then 59 else second : Nat) : Int)))
        (nanos + if second = 60 then 1000000000 else 0) := by
  have ranges : month < 100 ∧ day < 100 := by
    simp only [Calendar.isDate, Bool.and_eq_true, decide_eq_true_eq] at isDate
    have most : Calendar.daysInMonth year month ≤ 31 := by
      unfold Calendar.daysInMonth
      split <;> [split; split] <;> decide
    omega
  simp only [List.append_assoc, List.cons_append]
  -- One step for each part, in the order in which they stand.
  refine (bind_of_some (readYear_writeYear year _) _).trans ?_
  refine (bind_of_some (readMark_cons rfl _) _).trans ?_
  refine (bind_of_some (readPart_padded ranges.1 _) _).trans ?_
  refine (bind_of_some (readMark_cons rfl _) _).trans ?_
  refine (bind_of_some (readPart_padded ranges.2 _) _).trans ?_
  refine (if_pos (Or.inl rfl : 'T' = 'T' ∨ 'T' = 't' ∨ 'T' = ' ')).trans ?_
  refine (bind_of_some rfl _).trans ?_
  refine (bind_of_some (readPart_padded (by omega) _) _).trans ?_
  refine (bind_of_some (readMark_cons rfl _) _).trans ?_
  refine (bind_of_some (readPart_padded (by omega) _) _).trans ?_
  refine (bind_of_some (readMark_cons rfl _) _).trans ?_
  refine (bind_of_some (readPart_padded (by omega) _) _).trans ?_
  refine (bind_of_some fractionRead _).trans ?_
  refine (bind_of_some (a := (0, [])) rfl _).trans ?_
  have valid : ¬ (!Text.isBlank [] || !Calendar.isDate year month day) = true := by
    rw [isDate]
    decide
  have inDay : ¬ (23 < hour ∨ 59 < minute ∨ 60 < second ∨ 86400 ≤ (0 : Int).natAbs) := by omega
  refine (if_neg valid).trans ((if_neg inDay).trans ?_)
  simp only [beq_iff_eq, Int.sub_zero]

theorem writeSeconds_eq {t : Timestamp} {days year : Int} {ofDay month day : Nat}
    (isDays : t.seconds.fdiv 86400 = days) (isOfDay : (t.seconds - days * 86400).toNat = ofDay)
    (date : Calendar.dateFromDays days = (year, month, day)) :
    t.writeSeconds = writeYear year ++ '-' :: padded 2 month ++ '-' :: padded 2 day ++
      'T' :: padded 2 (ofDay / 3600) ++ ':' :: padded 2 (ofDay / 60 % 60) ++
      ':' :: padded 2 (ofDay % 60 + if t.nanos < 1000000000 then 0 else 1) := by
  unfold writeSeconds
  simp only [isDays, isOfDay, date]

theorem of?_self (t : Timestamp) : of? t.seconds t.nanos = some t := dif_pos t.inRange

theorem parse_renderExact (t : Timestamp) : parse t.renderExact = some t := by
  obtain ⟨days, isDays⟩ : ∃ days, t.seconds.fdiv 86400 = days := ⟨_, rfl⟩
  obtain ⟨ofDay, isOfDay⟩ : ∃ ofDay, (t.seconds - days * 86400).toNat = ofDay := ⟨_, rfl⟩
  obtain ⟨⟨year, month, day⟩, date⟩ : ∃ date, Calendar.dateFromDays days = date := ⟨_, rfl⟩
  have written := writeSeconds_eq isDays isOfDay date
  rw [Int.fdiv_eq_ediv_of_nonneg t.seconds (by decide)] at isDays
  have whole : t.seconds = days * 86400 + ofDay := by omega
  obtain ⟨low, high, fits⟩ := t.inRange
  have isDate : Calendar.isDate year month day = true := by
    simp only [secondRange] at low high
    exact Calendar.isDate_of_dateFromDays date (by omega) (by omega)
  -- Only the last second of a minute can be a leap second, which is written as the next one.
  have sixtieth : ofDay % 60 + (if t.nanos < 1000000000 then 0 else 1) = 60 ↔
      1000000000 ≤ t.nanos := by
    split <;> omega
  have secondsRead : days * 86400 + (((ofDay / 3600 : Nat) : Int) * 3600 +
      ((ofDay / 60 % 60 : Nat) : Int) * 60 + ((if 1000000000 ≤ t.nanos then 59
        else ofDay % 60 + (if t.nanos < 1000000000 then 0 else 1) : Nat) : Int)) = t.seconds := by
    split
    · omega
    · split <;> omega
  have nanosRead : t.nanos % 1000000000 + (if 1000000000 ≤ t.nanos then 1000000000 else 0) =
      t.nanos := by
    split <;> omega
  rw [parse, renderExact, String.toList_ofList, written, parseChars_written isDate (by omega)
    (by omega) (by split <;> omega) (readFraction_writeFraction t)]
  simp only [sixtieth]
  rw [Calendar.daysFromDate_of_dateFromDays date, secondsRead, nanosRead, of?_self]

end Timestamp
end EntitySearch
