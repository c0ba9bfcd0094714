import PanelExport.Js.IsoOrder

/-
  `Date.parse` on the texts `toISOString` writes.

  An ISO text of an instant with a four-digit year is seven
  fixed-width digit fields between fixed separators, the full UTC
  date-time form `dateParse` reads.  Each field reads back as the
  number written into it, and the calendar fields name the day they
  were computed from, since `daysFromCivil` undoes `civilFromDays`
  era by era.  So within years `0000` to `9999` the parse returns
  the instant the text was written for.

  Main declarations:
    * `daysFromCivil_civilFromDays`
    * `takeDigits_padDigits`, `isoTimeValue_dateTime`
    * `isoTimeValue_isoChars`, `dateParse_isoString`
-/

------------------------------------------------------------
-- Calendar Round Trip
------------------------------------------------------------

namespace PanelExport

/- `daysFromCivil` undoes `civilFromDays`: the era, year of era and day of year come back. -/
theorem daysFromCivil_civilFromDays (days : Int) : daysFromCivil (civilFromDays days) = days := by
  rw [civilFromDays_eq]
  obtain ⟨hYear, hYear', hDay, hDay'⟩ :=
    yearOfEra_dayOfYear_bounds (e := (days + 719468) % 146097) (by omega) (by omega)
  have hDays : days = (days + 719468) / 146097 * 146097 + (days + 719468) % 146097 - 719468 := by
    omega
  unfold dayOfYear at hDay hDay'
  unfold marchCivil daysFromCivil dayOfYear
  generalize (days + 719468) / 146097 = era at *
  generalize (days + 719468) % 146097 = doe at *
  generalize yearOfEra doe = yoe at *
  generalize hDoy : doe - (365 * yoe + yoe / 4 - yoe / 100) = doy at *
  have hEra : (yoe + era * 400) / 400 = era ∧ (yoe + era * 400) % 400 = yoe := by omega
  have hMonth : 0 ≤ (5 * doy + 2) / 153 ∧ (5 * doy + 2) / 153 ≤ 11 := by omega
  generalize (5 * doy + 2) / 153 = mp at *
  simp only
  split_ifs <;> simp only [add_zero, Int.add_sub_cancel, Int.sub_add_cancel, hEra] <;> omega

------------------------------------------------------------
-- Digit Fields
------------------------------------------------------------

/- A run of digits reads as its decimal value. -/
theorem digitsValue?_of_digits {cs : List Char} (hDigits : ∀ c ∈ cs, DigitChar c) :
    digitsValue? cs = some (decimalValue 0 cs) := by
  suffices hFrom : ∀ acc, cs.foldl (fun acc c => acc.bind fun n =>
      if c.isDigit then some (10 * n + (c.toNat - 48)) else none) (some acc) =
        some (decimalValue acc cs) from hFrom 0
  induction cs with
  | nil => exact fun _ => rfl
  | cons c cs ih =>
      intro acc
      have hc := hDigits c (List.mem_cons_self c cs)
      have hIsDigit : c.isDigit = true := by
        simp only [Char.isDigit, Bool.and_eq_true, decide_eq_true_eq]
        exact ⟨hc.1, Nat.le_of_lt_succ hc.2⟩
      simp only [List.foldl_cons, Option.bind_some, hIsDigit, if_true, decimalValue_cons]
      exact ih (fun c' hc' => hDigits c' (List.mem_cons_of_mem c hc')) _

/- A fixed-width field reads back as the number written into it. -/
theorem digitsValue?_padDigits {w n : Nat} (hWidth : 0 < w) (hBound : n < 10 ^ w) :
    digitsValue? (padDigits w n) = some n := by
  obtain ⟨hDigits, -, hValue⟩ := padDigits_spec hWidth hBound
  rw [digitsValue?_of_digits hDigits, hValue]

/- A field of width two, three or four is that many digit characters that read back. -/
theorem padDigits_chars {w n : Nat} (hWidth : 0 < w) (hBound : n < 10 ^ w) :
    (padDigits w n).length = w ∧ digitsValue? (padDigits w n) = some n :=
  ⟨(padDigits_spec hWidth hBound).2.1, digitsValue?_padDigits hWidth hBound⟩

------------------------------------------------------------
-- Parsing ISO Texts
------------------------------------------------------------

/- A field of `w` digits at the front reads back, and the rest of the text is left. -/
theorem takeDigits_padDigits {w n : Nat} (hWidth : 0 < w) (hBound : n < 10 ^ w) (rest : List Char) :
    takeDigits w (padDigits w n ++ rest) = some (n, rest) := by
  obtain ⟨hLength, hValue⟩ := padDigits_chars hWidth hBound
  simp [takeDigits, List.take_left' hLength, List.drop_left' hLength, hValue, hLength]

/- A four-digit year starts with a digit, not a sign, and reads back. -/
theorem takeYear_padDigits {y : Nat} (hBound : y < 10 ^ 4) (rest : List Char) :
    takeYear (padDigits 4 y ++ rest) = some ((y : Int), rest) := by
  obtain ⟨hDigits, hLength, -⟩ := padDigits_spec (by decide) hBound
  obtain ⟨c, cs, hCons⟩ := List.exists_cons_of_length_eq_add_one hLength
  have hc : DigitChar c := hDigits c (by simp [hCons])
  have hPlus : c ≠ '+' := by rintro rfl; exact absurd hc (by decide)
  have hMinus : c ≠ '-' := by rintro rfl; exact absurd hc (by decide)
  rw [hCons, List.cons_append, takeYear, if_neg hPlus, if_neg hMinus, ← List.cons_append, ← hCons,
    takeDigits_padDigits (by decide) hBound]
  rfl

/- A full clock `HH:mm:ss.sss` reads back as its four fields. -/
theorem takeClock_fields {h n s f : Nat} (hHour : h < 10 ^ 2) (hMinute : n < 10 ^ 2)
    (hSecond : s < 10 ^ 2) (hMillis : f < 10 ^ 3) (rest : List Char) :
    takeClock (padDigits 2 h ++ ':' :: (padDigits 2 n ++ ':' :: (padDigits 2 s ++ '.' ::
      (padDigits 3 f ++ rest)))) = some ((h, n, s, f), rest) := by
  simp [takeClock, optionalField_sep, takeDigits_padDigits (by decide : 0 < 2) hHour,
    takeDigits_padDigits (by decide : 0 < 2) hMinute, takeDigits_padDigits (by decide : 0 < 2) hSecond,
    takeDigits_padDigits (by decide : 0 < 3) hMillis]

/-
  A full UTC date-time text names the day its date fields give,
  plus the time of day its clock fields give.
-/
theorem isoTimeValue_dateTime {y m d h n s f : Nat} {days : Int}
    (hYear : y < 10 ^ 4)
    (hMonth : m < 10 ^ 2)
    (hDay : d < 10 ^ 2)
    (hHour : h < 24)
    (hMinute : n < 60)
    (hSecond : s < 60)
    (hMillis : f < 10 ^ 3)
    (hDate : validDate? y m d = some days) :
    isoTimeValue (fieldsText [(4, y, '-'), (2, m, '-'), (2, d, 'T'), (2, h, ':'), (2, n, ':'),
        (2, s, '.'), (3, f, 'Z')]) =
      some (days * msPerDay + h * 3600000 + n * 60000 + s * 1000 + f) := by
  have hClock : validClock h n s f := .inl ⟨hHour, hMinute, hSecond⟩
  simp only [fieldsText]
  rw [isoTimeValue, takeYear_padDigits hYear]
  simp only [Option.bind_eq_bind, Option.some_bind, optionalField_sep,
    takeDigits_padDigits (by decide : 0 < 2) hMonth, takeDigits_padDigits (by decide : 0 < 2) hDay,
    hDate, takeClock_fields (show h < 10 ^ 2 by omega) (show n < 10 ^ 2 by omega)
      (show s < 10 ^ 2 by omega) hMillis, offsetMinutes_utc, if_pos hClock, Option.pure_def,
    zero_mul, sub_zero]

/- The fields of a date `civilFromDays` computes name that day. -/
theorem validDate?_civilFromDays {days : Int} (hYear : 0 ≤ (civilFromDays days).year) :
    validDate? ((civilFromDays days).year.toNat : Int) (civilFromDays days).month.toNat
      (civilFromDays days).day.toNat = some days := by
  obtain ⟨hMonth, -, hDay, -⟩ := civilFromDays_fields days
  have hCivil : (⟨(civilFromDays days).year.toNat, (civilFromDays days).month.toNat,
      (civilFromDays days).day.toNat⟩ : Civil) = civilFromDays days := by
    rw [Int.toNat_of_nonneg hYear, Int.toNat_of_nonneg (by omega), Int.toNat_of_nonneg (by omega)]
  simp only [validDate?, hCivil, daysFromCivil_civilFromDays, if_true]

/- The text `toISOString` writes for years `0000` to `9999` names the instant it was written for. -/
theorem isoTimeValue_isoChars {t : Int} (hMin : isoMin ≤ t) (hMax : t ≤ isoMax) :
    isoTimeValue (isoChars t) = some t := by
  obtain ⟨hYear, hYear'⟩ := year_of_isoRange hMin hMax
  obtain ⟨-, hMonth, -, hDay⟩ := civilFromDays_fields (t / msPerDay)
  have hDate := validDate?_civilFromDays hYear
  have hSplit : t / msPerDay * msPerDay + t % msPerDay = t ∧
      0 ≤ t % msPerDay ∧ t % msPerDay < 86400000 := by
    unfold msPerDay
    omega
  rw [isoChars_fields hMin hMax, isoFields]
  generalize civilFromDays (t / msPerDay) = c at *
  generalize t / msPerDay = days at *
  generalize t % msPerDay = ms at *
  rw [isoTimeValue_dateTime (by omega) (by omega) (by omega) (by omega) (by omega) (by omega)
    (by omega) hDate]
  congr 1
  rw [Int.toNat_of_nonneg (by omega), Int.toNat_of_nonneg (by omega),
    Int.toNat_of_nonneg (by omega), Int.toNat_of_nonneg (by omega)]
  omega

/- `Date.parse` reads back every text `toISOString` writes for years `0000` to `9999`. -/
theorem dateParse_isoString {t : Int} (hMin : isoMin ≤ t) (hMax : t ≤ isoMax) :
    dateParse (isoString t) = .int t := by
  have hRange : t.natAbs ≤ maxTime.natAbs := by
    unfold isoMin isoMax at *
    unfold maxTime
    omega
  simp only [dateParse, isoString, String.toList, isoTimeValue_isoChars hMin hMax, if_pos hRange]

end PanelExport
