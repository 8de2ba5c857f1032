import Mathlib.Algebra.Group.Nat.Defs
import Mathlib.Data.List.TakeWhile
import Mathlib.Order.Lattice
import RunTriage.Instant

/-!
Contract: instants survive being written and read again.

Owns:
- dates of the calendar and times of the clock, leap seconds included, as validity of an instant;
- validity of every instant that is read, in either notation;
- reading the stored form of a valid instant, whose year has four digits, as that instant.

Does not own: years of more than four digits, which the strict notation cannot hold.
-/

namespace RunTriage

/-! ## Validity -/

/-- The calendar has the date. -/
structure Date.IsValid (date : Date) : Prop where
  one_le_month : 1 ≤ date.month
  month_le : date.month ≤ 12
  one_le_day : 1 ≤ date.day
  day_le : date.day ≤ daysInMonth date.year date.month

/-- The clock shows the time at some point of a day that the calendar has. Only the last second of
a minute can be followed by a leap second. -/
structure Instant.IsValid (instant : Instant) : Prop where
  date : instant.date.IsValid
  hour_lt : instant.hour < 24
  minute_lt : instant.minute < 60
  second_lt : instant.second < 60
  nanos_lt : instant.nanos < 2 * nanosPerSecond
  leap : nanosPerSecond ≤ instant.nanos → instant.second = 59

namespace Date

theorem one_le_daysInMonth (year : Int) (month : Nat) : 1 ≤ daysInMonth year month := by
  unfold daysInMonth
  split
  · split <;> omega
  · omega
  · omega
  · omega
  · omega
  · omega

theorem daysInMonth_le (year : Int) (month : Nat) : daysInMonth year month ≤ 31 := by
  unfold daysInMonth
  split
  · split <;> omega
  · omega
  · omega
  · omega
  · omega
  · omega

theorem ofFields?_eq_some_iff {year : Int} {month day : Nat} {date : Date} :
    ofFields? year month day = some date ↔
      (firstYear ≤ year ∧ year ≤ lastYear) ∧ date = ⟨year, month, day⟩ ∧ date.IsValid := by
  simp only [ofFields?, Bool.and_eq_true, decide_eq_true_eq, Option.ite_none_right_eq_some,
    Option.some.injEq]
  constructor
  · rintro ⟨⟨⟨⟨⟨inYears, monthPos⟩, monthLe⟩, dayPos⟩, dayLe⟩, rfl⟩
    exact ⟨inYears, rfl, monthPos, monthLe, dayPos, dayLe⟩
  · rintro ⟨inYears, rfl, valid⟩
    exact ⟨⟨⟨⟨⟨inYears, valid.one_le_month⟩, valid.month_le⟩, valid.one_le_day⟩, valid.day_le⟩, rfl⟩

theorem IsValid.next {date : Date} (valid : date.IsValid) : date.next.IsValid := by
  obtain ⟨monthPos, monthLe, dayPos, dayLe⟩ := valid
  unfold Date.next
  split
  · exact ⟨monthPos, monthLe, by simp, by simp; omega⟩
  · split
    · exact ⟨by simp, by simp; omega, by simp, one_le_daysInMonth _ _⟩
    · exact ⟨by simp, by simp, by simp, one_le_daysInMonth _ _⟩

theorem IsValid.previous {date : Date} (valid : date.IsValid) : date.previous.IsValid := by
  obtain ⟨monthPos, monthLe, dayPos, dayLe⟩ := valid
  unfold Date.previous
  split
  · exact ⟨monthPos, monthLe, by simp; omega, by simp; omega⟩
  · split
    · exact ⟨by simp; omega, by simp; omega, one_le_daysInMonth _ _, Nat.le_refl _⟩
    · exact ⟨by simp, by simp, by simp, Nat.le_refl _⟩

end Date

namespace Instant

/-! ## Digits -/

theorem digitsValue_eq (digits : List Char) :
    digitsValue digits = Nat.ofDigitChars 10 digits 0 := by
  simp only [digitsValue, Nat.ofDigitChars_eq_foldl, Nat.mul_comm 10]
  rfl

theorem digitsValue_lt {digits : List Char} (allDigits : ∀ char ∈ digits, char.isDigit = true) :
    digitsValue digits < 10 ^ digits.length := by
  rw [digitsValue_eq]
  induction digits with
  | nil => simp
  | cons char rest inductionHypothesis =>
    have isDigit := Char.isDigit_iff_toNat.mp (allDigits char List.mem_cons_self)
    have restSmall := inductionHypothesis fun other member =>
      allDigits other (List.mem_cons_of_mem char member)
    have first : 10 ^ rest.length * (char.toNat - '0'.toNat) ≤ 10 ^ rest.length * 9 :=
      Nat.mul_le_mul_left _ (by simp at isDigit ⊢; omega)
    rw [Nat.ofDigitChars_cons, Nat.ofDigitChars_eq_ofDigitChars_zero, List.length_cons,
      Nat.pow_succ, Nat.mul_zero, Nat.zero_add]
    omega

/-- A run of digits is read as a whole if it is as long as can be. -/
theorem readNumber_digits {least most : Nat} {digits rest : List Char}
    (allDigits : ∀ char ∈ digits, char.isDigit = true) (enough : least ≤ digits.length)
    (fits : digits.length ≤ most)
    (ends : digits.length = most ∨ ∀ char ∈ rest.head?, char.isDigit = false) :
    readNumber least most (digits ++ rest) = some (digitsValue digits, rest) := by
  have taken : ((digits ++ rest).take most).takeWhile Char.isDigit = digits := by
    rw [List.take_append, List.take_of_length_le fits, List.takeWhile_append_of_pos allDigits]
    rcases ends with isFull | isEnd
    · simp [isFull]
    · cases rest with
      | nil => simp
      | cons char others =>
        have notDigit : char.isDigit = false := isEnd char rfl
        cases left : most - digits.length with
        | zero => simp
        | succ count => simp [notDigit]
  simp [readNumber, taken, enough]

theorem toList_padNumber (width value : Nat) :
    (padNumber width value).toList =
      List.replicate (width - (Nat.toDigits 10 value).length) '0' ++ Nat.toDigits 10 value := by
  rw [padNumber, Nat.toString_eq_repr, String.toList_append, String.toList_ofList, Nat.toList_repr]
  simp [← String.length_toList, Nat.toList_repr]

theorem isDigit_of_mem_padNumber {width value : Nat} {char : Char}
    (member : char ∈ (padNumber width value).toList) : char.isDigit = true := by
  rw [toList_padNumber] at member
  rcases List.mem_append.mp member with isZero | inDigits
  · rw [(List.mem_replicate.mp isZero).2]
    rfl
  · exact Nat.isDigit_of_mem_toDigits (by decide) (by decide) inDigits

theorem digitsValue_padNumber (width value : Nat) :
    digitsValue (padNumber width value).toList = value := by
  rw [digitsValue_eq, toList_padNumber, Nat.ofDigitChars_append, Nat.ofDigitChars_replicate_zero,
    Nat.mul_zero, Nat.ofDigitChars_ten_toDigits]

section Padded

variable {width value : Nat} {rest : List Char}

theorem length_padNumber (positive : 0 < width) (fits : value < 10 ^ width) :
    (padNumber width value).toList.length = width := by
  have short := (Nat.length_toDigits_le_iff (b := 10) (by decide) positive).mpr fits
  rw [toList_padNumber, List.length_append, List.length_replicate]
  omega

theorem readNumber_padNumber (positive : 0 < width) (fits : value < 10 ^ width) :
    readNumber width width ((padNumber width value).toList ++ rest) = some (value, rest) := by
  have isFull := length_padNumber positive fits
  rw [readNumber_digits (fun _ => isDigit_of_mem_padNumber) isFull.ge isFull.le (.inl isFull),
    digitsValue_padNumber]

/-- A fraction of at most nine digits, which ends before anything but a digit. -/
theorem readFraction_padNumber (positive : 0 < width) (short : width ≤ 9)
    (fits : value < 10 ^ width) (ends : ∀ char ∈ rest.head?, char.isDigit = false) :
    readFraction (("." ++ padNumber width value).toList ++ rest) =
      some (value * 10 ^ (9 - width), rest) := by
  have isFull := length_padNumber positive fits
  have isRead : readNumber 1 9 ((padNumber width value).toList ++ rest) = some (value, rest) := by
    rw [readNumber_digits (fun _ => isDigit_of_mem_padNumber) (by omega) (by omega) (.inr ends),
      digitsValue_padNumber]
  have kept : rest.dropWhile Char.isDigit = rest := by
    cases rest with
    | nil => rfl
    | cons char others => exact List.dropWhile_cons_of_neg (by simp [ends char rfl])
  have written : ("." ++ padNumber width value).toList ++ rest =
      '.' :: ((padNumber width value).toList ++ rest) := by
    simp
  rw [written, readFraction, isRead]
  simp [isFull, kept]

end Padded

/-! ## Validity of what is read -/

theorem readNumber_eq_some {least most : Nat} {chars rest : List Char} {value : Nat}
    (isRead : readNumber least most chars = some (value, rest)) :
    ∃ digits, chars = digits ++ rest ∧ digits.length ≤ most ∧ value < 10 ^ digits.length := by
  simp only [readNumber, Option.ite_none_right_eq_some, Option.some.injEq, Prod.mk.injEq] at isRead
  obtain ⟨_, rfl, rfl⟩ := isRead
  have isStart : (chars.take most).takeWhile Char.isDigit <+: chars :=
    (List.takeWhile_prefix _).trans (List.take_prefix most chars)
  refine ⟨_, (List.prefix_iff_eq_append.mp isStart).symm, ?_, ?_⟩
  · exact (List.takeWhile_prefix _).length_le.trans (List.length_take_le most chars)
  · exact digitsValue_lt fun char member => List.mem_takeWhile_imp member

theorem readFraction_lt {chars rest : List Char} {nanos : Nat}
    (isRead : readFraction chars = some (nanos, rest)) : nanos < nanosPerSecond := by
  unfold readFraction at isRead
  split at isRead
  · split at isRead
    · rename_i behind value after isNumber
      obtain ⟨digits, rfl, short, small⟩ := readNumber_eq_some isNumber
      simp only [List.length_append, Nat.add_sub_cancel, Option.some.injEq, Prod.mk.injEq] at isRead
      rw [← isRead.1]
      calc value * Nat.pow 10 (9 - digits.length)
          < 10 ^ digits.length * 10 ^ (9 - digits.length) :=
            Nat.mul_lt_mul_of_pos_right small (Nat.pow_pos (by decide))
        _ = nanosPerSecond := by
            rw [← Nat.pow_add, Nat.add_sub_cancel' short]
            rfl
    · cases isRead
  · cases isRead
    decide

theorem isValid_of_ofClock? {date : Date} {hour minute second nanos : Nat} {instant : Instant}
    (dateValid : date.IsValid) (small : nanos < nanosPerSecond)
    (isTime : ofClock? date hour minute second nanos = some instant) : instant.IsValid := by
  unfold ofClock? at isTime
  split at isTime
  · rename_i inDay
    simp only [Bool.and_eq_true, decide_eq_true_eq] at inDay
    split at isTime
    · rename_i inMinute
      cases isTime
      exact ⟨dateValid, inDay.1, inDay.2, inMinute, by simp only; omega, by simp only; omega⟩
    · split at isTime
      · cases isTime
        exact ⟨dateValid, inDay.1, inDay.2, by simp, by simp only; omega, fun _ => rfl⟩
      · cases isTime
  · cases isTime

theorem IsValid.removeOffset {instant : Instant} (valid : instant.IsValid) (offset : Int) :
    (instant.removeOffset offset).IsValid := by
  have minutesNonneg := Int.emod_nonneg (instant.hour * 60 + instant.minute - offset)
    (by decide : (1440 : Int) ≠ 0)
  have minutesLt := Int.emod_lt_of_pos (instant.hour * 60 + instant.minute - offset)
    (by decide : (0 : Int) < 1440)
  unfold Instant.removeOffset
  dsimp only
  refine ⟨?_, ?_, ?_, valid.second_lt, valid.nanos_lt, valid.leap⟩
  · dsimp only
    split
    · exact valid.date.previous
    · split
      · exact valid.date.next
      · exact valid.date
  · dsimp only
    omega
  · dsimp only
    omega

theorem isValid_of_readWithOffset? {chars : List Char} {instant : Instant}
    (isRead : readWithOffset? chars = some instant) : instant.IsValid := by
  unfold readWithOffset? at isRead
  obtain ⟨⟨year, _⟩, -, isRead⟩ := Option.bind_eq_some_iff.mp isRead
  obtain ⟨_, -, isRead⟩ := Option.bind_eq_some_iff.mp isRead
  obtain ⟨⟨month, _⟩, -, isRead⟩ := Option.bind_eq_some_iff.mp isRead
  obtain ⟨_, -, isRead⟩ := Option.bind_eq_some_iff.mp isRead
  obtain ⟨⟨day, behindDate⟩, -, isRead⟩ := Option.bind_eq_some_iff.mp isRead
  dsimp only at isRead
  split at isRead
  · split at isRead
    · obtain ⟨_, -, isRead⟩ := Option.bind_eq_some_iff.mp isRead
      obtain ⟨⟨hour, _⟩, -, isRead⟩ := Option.bind_eq_some_iff.mp isRead
      obtain ⟨_, -, isRead⟩ := Option.bind_eq_some_iff.mp isRead
      obtain ⟨⟨minute, _⟩, -, isRead⟩ := Option.bind_eq_some_iff.mp isRead
      obtain ⟨_, -, isRead⟩ := Option.bind_eq_some_iff.mp isRead
      obtain ⟨⟨second, _⟩, -, isRead⟩ := Option.bind_eq_some_iff.mp isRead
      obtain ⟨⟨nanos, _⟩, isFraction, isRead⟩ := Option.bind_eq_some_iff.mp isRead
      obtain ⟨⟨offset, _⟩, -, isRead⟩ := Option.bind_eq_some_iff.mp isRead
      obtain ⟨_, isRead⟩ := Option.ite_none_right_eq_some.mp isRead
      obtain ⟨date, isDate, isRead⟩ := Option.bind_eq_some_iff.mp isRead
      obtain ⟨localTime, isTime, isRead⟩ := Option.bind_eq_some_iff.mp isRead
      cases isRead
      have dateValid := (Date.ofFields?_eq_some_iff.mp isDate).2.2
      exact (isValid_of_ofClock? dateValid (readFraction_lt isFraction) isTime).removeOffset offset
    · cases isRead
  · cases isRead

theorem isValid_of_readWithoutOffset? {separator : Separator} {chars : List Char}
    {instant : Instant} (isRead : readWithoutOffset? separator chars = some instant) :
    instant.IsValid := by
  unfold readWithoutOffset? at isRead
  obtain ⟨⟨year, _⟩, -, isRead⟩ := Option.bind_eq_some_iff.mp isRead
  obtain ⟨_, -, isRead⟩ := Option.bind_eq_some_iff.mp isRead
  obtain ⟨⟨month, _⟩, -, isRead⟩ := Option.bind_eq_some_iff.mp isRead
  obtain ⟨_, -, isRead⟩ := Option.bind_eq_some_iff.mp isRead
  obtain ⟨⟨day, _⟩, -, isRead⟩ := Option.bind_eq_some_iff.mp isRead
  obtain ⟨_, -, isRead⟩ := Option.bind_eq_some_iff.mp isRead
  obtain ⟨⟨hour, _⟩, -, isRead⟩ := Option.bind_eq_some_iff.mp isRead
  obtain ⟨_, -, isRead⟩ := Option.bind_eq_some_iff.mp isRead
  obtain ⟨⟨minute, _⟩, -, isRead⟩ := Option.bind_eq_some_iff.mp isRead
  obtain ⟨_, -, isRead⟩ := Option.bind_eq_some_iff.mp isRead
  obtain ⟨⟨second, _⟩, -, isRead⟩ := Option.bind_eq_some_iff.mp isRead
  obtain ⟨⟨nanos, _⟩, isFraction, isRead⟩ := Option.bind_eq_some_iff.mp isRead
  obtain ⟨_, isRead⟩ := Option.ite_none_right_eq_some.mp isRead
  obtain ⟨date, isDate, isTime⟩ := Option.bind_eq_some_iff.mp isRead
  have dateValid := (Date.ofFields?_eq_some_iff.mp isDate).2.2
  exact isValid_of_ofClock? dateValid (readFraction_lt isFraction) isTime

/-- Whatever the notation, only instants of the calendar are read. -/
theorem isValid_of_read? {text : String} {instant : Instant}
    (isRead : read? text = some instant) : instant.IsValid := by
  simp only [read?, Option.or_eq_some_iff] at isRead
  rcases isRead with strict | ⟨_, withLetter | ⟨_, withBlanks⟩⟩
  · exact isValid_of_readWithOffset? strict
  · exact isValid_of_readWithoutOffset? withLetter
  · exact isValid_of_readWithoutOffset? withBlanks

/-! ## Reading the stored form -/

/-- The nanoseconds within the second that a clock shows. -/
theorem readFraction_renderFraction (instant : Instant) {rest : List Char}
    (ends : ∀ char ∈ rest.head?, char.isDigit = false ∧ char ≠ '.') :
    readFraction (instant.renderFraction.toList ++ rest) =
      some (instant.nanos % nanosPerSecond, rest) := by
  have notDigit : ∀ char ∈ rest.head?, char.isDigit = false := fun char member =>
    (ends char member).1
  have bound : instant.nanos % nanosPerSecond < 1000000000 := Nat.mod_lt _ (by decide)
  unfold renderFraction
  dsimp only
  generalize instant.nanos % nanosPerSecond = nanos at bound ⊢
  split
  · rename_i isZero
    subst isZero
    cases rest with
    | nil => rfl
    | cons char others =>
      have notPoint := (ends char rfl).2
      simp [readFraction, notPoint]
  · split
    · rw [readFraction_padNumber (by decide) (by decide) (by omega) notDigit]
      simp
      omega
    · split
      · rw [readFraction_padNumber (by decide) (by decide) (by omega) notDigit]
        simp
        omega
      · rw [readFraction_padNumber (by decide) (by decide) (by omega) notDigit]
        simp

/-- The time of day is the one that a clock shows, where second 60 is a leap second. -/
theorem ofClock?_clockSecond {instant : Instant} (valid : instant.IsValid) :
    ofClock? instant.date instant.hour instant.minute instant.clockSecond
      (instant.nanos % nanosPerSecond) = some instant := by
  obtain ⟨_, hourLt, minuteLt, secondLt, nanosLt, leap⟩ := valid
  obtain ⟨date, hour, minute, second, nanos⟩ := instant
  simp only [nanosPerSecond] at *
  unfold ofClock? clockSecond nanosPerSecond
  dsimp only at *
  by_cases isLeap : 1000000000 ≤ nanos
  · have isLast := leap isLeap
    have carried : nanos / 1000000000 = 1 := by omega
    simp [hourLt, minuteLt, isLast, carried]
    omega
  · have carried : nanos / 1000000000 = 0 := by omega
    simp [hourLt, minuteLt, secondLt, carried]
    omega

theorem removeOffset_zero {instant : Instant} (valid : instant.IsValid) :
    instant.removeOffset 0 = instant := by
  obtain ⟨_, hourLt, minuteLt, _, _, _⟩ := valid
  obtain ⟨date, hour, minute, second, nanos⟩ := instant
  simp only at hourLt minuteLt
  simp only [removeOffset, Int.sub_zero]
  rw [if_neg (by omega), if_neg (by omega)]
  congr <;> omega

/-- The stored form of an instant is read as that instant. -/
theorem read?_render {instant : Instant} (valid : instant.IsValid)
    (notNegative : 0 ≤ instant.date.year) (fourDigits : instant.date.year ≤ 9999) :
    read? instant.render = some instant := by
  have yearText : renderYear instant.date.year = padNumber 4 instant.date.year.toNat := by
    simp [renderYear, notNegative, fourDigits]
  have text : instant.render.toList =
      (padNumber 4 instant.date.year.toNat).toList ++ '-' ::
        ((padNumber 2 instant.date.month).toList ++ '-' ::
          ((padNumber 2 instant.date.day).toList ++ 'T' ::
            ((padNumber 2 instant.hour).toList ++ ':' ::
              ((padNumber 2 instant.minute).toList ++ ':' ::
                ((padNumber 2 instant.clockSecond).toList ++
                  (instant.renderFraction.toList ++ ['Z'])))))) := by
    simp [render, renderUnzoned, renderDate, renderClock, yearText]
  have yearRead (rest : List Char) :
      readNumber 4 4 ((padNumber 4 instant.date.year.toNat).toList ++ rest) =
        some (instant.date.year.toNat, rest) := readNumber_padNumber (by decide) (by omega)
  have twoDigits (value : Nat) (fits : value < 100) (rest : List Char) :
      readNumber 2 2 ((padNumber 2 value).toList ++ rest) = some (value, rest) :=
    readNumber_padNumber (by decide) fits
  have monthRead := twoDigits instant.date.month (by have := valid.date.month_le; omega)
  have dayRead := twoDigits instant.date.day (by
    have := valid.date.day_le
    have := Date.daysInMonth_le instant.date.year instant.date.month
    omega)
  have hourRead := twoDigits instant.hour (by have := valid.hour_lt; omega)
  have minuteRead := twoDigits instant.minute (by have := valid.minute_lt; omega)
  have secondRead := twoDigits instant.clockSecond (by
    have := valid.second_lt
    have := valid.nanos_lt
    simp only [clockSecond, nanosPerSecond] at *
    omega)
  have fractionRead : readFraction (instant.renderFraction.toList ++ ['Z']) =
      some (instant.nanos % nanosPerSecond, ['Z']) :=
    readFraction_renderFraction instant (by rintro _ ⟨rfl⟩; decide)
  have offsetRead : readOffset ['Z'] = some (0, []) := rfl
  have dateRead : Date.ofFields? instant.date.year instant.date.month instant.date.day =
      some instant.date := by
    rw [Date.ofFields?_eq_some_iff]
    exact ⟨by simp only [Date.firstYear, Date.lastYear]; omega, rfl, valid.date⟩
  have yearValue : (instant.date.year.toNat : Int) = instant.date.year := by omega
  have strict : readWithOffset? instant.render.toList = some instant := by
    rw [text, readWithOffset?]
    refine Option.bind_eq_some_iff.mpr ⟨_, yearRead _, ?_⟩
    refine Option.bind_eq_some_iff.mpr ⟨_, rfl, ?_⟩
    refine Option.bind_eq_some_iff.mpr ⟨_, monthRead _, ?_⟩
    refine Option.bind_eq_some_iff.mpr ⟨_, rfl, ?_⟩
    refine Option.bind_eq_some_iff.mpr ⟨_, dayRead _, ?_⟩
    dsimp only
    rw [if_pos (by decide)]
    refine Option.bind_eq_some_iff.mpr ⟨_, rfl, ?_⟩
    refine Option.bind_eq_some_iff.mpr ⟨_, hourRead _, ?_⟩
    refine Option.bind_eq_some_iff.mpr ⟨_, rfl, ?_⟩
    refine Option.bind_eq_some_iff.mpr ⟨_, minuteRead _, ?_⟩
    refine Option.bind_eq_some_iff.mpr ⟨_, rfl, ?_⟩
    refine Option.bind_eq_some_iff.mpr ⟨_, secondRead _, ?_⟩
    refine Option.bind_eq_some_iff.mpr ⟨_, fractionRead, ?_⟩
    refine Option.bind_eq_some_iff.mpr ⟨_, offsetRead, ?_⟩
    dsimp only
    rw [if_pos List.isEmpty_nil, yearValue]
    refine Option.bind_eq_some_iff.mpr ⟨_, dateRead, ?_⟩
    refine Option.bind_eq_some_iff.mpr ⟨_, ofClock?_clockSecond valid, ?_⟩
    rw [removeOffset_zero valid]
  rw [read?, strict]
  rfl

end Instant

end RunTriage
