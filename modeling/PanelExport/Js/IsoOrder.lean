import PanelExport.Js.Date
import Mathlib.Data.Nat.Digits

/-
  The order of the ISO texts `toISOString` writes.

  `sort()` compares strings by UTF-16 code units.  An ISO text of
  an instant from `0000-01-01T00:00:00.000Z` to
  `9999-12-31T23:59:59.999Z` is seven fixed-width digit fields
  with fixed separators, and the calendar date `civilFromDays`
  computes grows with the day number, so within that range a later
  instant has a greater text.  Outside it the year is written with
  a sign and six digits, and the order breaks.

  Main declarations:
    * `civilFromDays_before`
    * `isoString_lt`, `isoString_injective`
    * `sortStrings_isoString`, `toISOString_of_range`
-/

------------------------------------------------------------
-- Digit Runs
------------------------------------------------------------

namespace PanelExport

/- The number a run of decimal digits denotes. -/
def decimalValue (acc : Nat) (cs : List Char) : Nat :=
  cs.foldl (fun acc c => 10 * acc + (c.toNat - 48)) acc

/- A decimal digit character. -/
def DigitChar (c : Char) : Prop :=
  48 ≤ c.toNat ∧ c.toNat < 58

instance : DecidablePred DigitChar :=
  fun c => inferInstanceAs (Decidable (48 ≤ c.toNat ∧ c.toNat < 58))

theorem decimalValue_cons (acc : Nat) (c : Char) (cs : List Char) :
    decimalValue acc (c :: cs) = decimalValue (10 * acc + (c.toNat - 48)) cs := rfl

/- The accumulator stands in front of the digits. -/
theorem decimalValue_acc {cs : List Char} (hDigits : ∀ c ∈ cs, DigitChar c) (acc : Nat) :
    decimalValue acc cs = acc * 10 ^ cs.length + decimalValue 0 cs ∧
      decimalValue 0 cs < 10 ^ cs.length := by
  induction cs generalizing acc with
  | nil => simp [decimalValue]
  | cons c cs ih =>
      have hc := hDigits c (List.mem_cons_self c cs)
      have hRest := fun d hd => hDigits d (List.mem_cons_of_mem c hd)
      obtain ⟨hAcc, hBound⟩ := ih hRest (10 * acc + (c.toNat - 48))
      obtain ⟨hHead, -⟩ := ih hRest (c.toNat - 48)
      have hZero : decimalValue 0 (c :: cs) = decimalValue (c.toNat - 48) cs := by
        simp [decimalValue_cons]
      rw [decimalValue_cons, hAcc, hZero, hHead, List.length_cons, pow_succ]
      have hd : c.toNat - 48 ≤ 9 := by unfold DigitChar at hc; omega
      generalize 10 ^ cs.length = P at hBound ⊢
      generalize decimalValue 0 cs = v at hBound ⊢
      generalize c.toNat - 48 = d at hd ⊢
      refine ⟨by ring, ?_⟩
      calc d * P + v < (d + 1) * P := by rw [Nat.add_one_mul]; omega
        _ ≤ 10 * P := Nat.mul_le_mul_right _ (by omega)
        _ = P * 10 := Nat.mul_comm _ _

/-
  Digit runs of one length compare, character code by character
  code, as the numbers they denote.
-/
theorem map_toNat_lt_of_decimalValue_lt
    {xs ys : List Char}
    (hLength : xs.length = ys.length)
    (hXs : ∀ c ∈ xs, DigitChar c)
    (hYs : ∀ c ∈ ys, DigitChar c)
    (hLt : decimalValue 0 xs < decimalValue 0 ys) :
    List.lt (xs.map Char.toNat) (ys.map Char.toNat) := by
  induction xs generalizing ys with
  | nil =>
      cases ys with
      | nil => exact absurd hLt (lt_irrefl _)
      | cons => simp at hLength
  | cons x xs ih =>
      cases ys with
      | nil => simp at hLength
      | cons y ys =>
          simp only [List.length_cons, Nat.add_right_cancel_iff] at hLength
          have hx := hXs x (List.mem_cons_self x xs)
          have hy := hYs y (List.mem_cons_self y ys)
          have hXs' := fun c hc => hXs c (List.mem_cons_of_mem x hc)
          have hYs' := fun c hc => hYs c (List.mem_cons_of_mem y hc)
          obtain ⟨hX, hXBound⟩ := decimalValue_acc hXs' (x.toNat - 48)
          obtain ⟨hY, hYBound⟩ := decimalValue_acc hYs' (y.toNat - 48)
          rw [decimalValue_cons, Nat.mul_zero, Nat.zero_add, hX, hLength] at hLt
          rw [decimalValue_cons, Nat.mul_zero, Nat.zero_add, hY] at hLt
          rw [hLength] at hXBound
          unfold DigitChar at hx hy
          simp only [List.map_cons]
          rcases Nat.lt_trichotomy x.toNat y.toNat with hHead | hHead | hHead
          · exact List.lt.head _ _ hHead
          · refine List.lt.tail (by omega) (by omega) (ih hLength hXs' hYs' ?_)
            rw [show x.toNat - 48 = y.toNat - 48 by omega] at hLt
            omega
          · have hMul : (y.toNat - 48 + 1) * 10 ^ ys.length ≤ (x.toNat - 48) * 10 ^ ys.length :=
              Nat.mul_le_mul_right _ (by omega)
            rw [Nat.add_one_mul] at hMul
            omega

theorem digitChar_of_isDigit {c : Char} (hDigit : c.isDigit = true) : DigitChar c := by
  simp only [Char.isDigit, Bool.and_eq_true, decide_eq_true_eq] at hDigit
  exact ⟨hDigit.1, Nat.lt_succ_of_le hDigit.2⟩

/- A fixed-width field is written in digits. -/
theorem digitChar_of_mem_padDigits {w n : Nat} {c : Char} (hc : c ∈ padDigits w n) :
    DigitChar c := by
  simp only [padDigits, List.mem_append, List.mem_replicate] at hc
  rcases hc with ⟨-, rfl⟩ | hc
  · decide
  · exact digitChar_of_isDigit (isDigit_toDigitsCore _ _ (by simp) c hc)

/- The fixed-width field is a run of digits of its width denoting the number. -/
theorem padDigits_spec {w n : Nat} (hWidth : 0 < w) (hBound : n < 10 ^ w) :
    (∀ c ∈ padDigits w n, DigitChar c) ∧ (padDigits w n).length = w ∧
      decimalValue 0 (padDigits w n) = n := by
  have hLength : (Nat.toDigits 10 n).length ≤ w :=
    Nat.toDigitsCore_length 10 (by decide) (n + 1) n w hBound hWidth
  have hValue := foldl_toDigitsCore (n + 1) n [] (by omega)
  have hZeros : ∀ k, decimalValue 0 (List.replicate k '0') = 0 := by
    intro k
    induction k with
    | zero => rfl
    | succ k ih => simpa [List.replicate_succ, decimalValue_cons] using ih
  refine ⟨fun c hc => digitChar_of_mem_padDigits hc, by simp [padDigits]; omega, ?_⟩
  · simp only [padDigits, decimalValue, List.foldl_append]
    rw [show List.foldl _ 0 (List.replicate _ '0') = 0 from hZeros _]
    simpa using hValue

/- A wider field of greater value writes a greater run of digits. -/
theorem padDigits_lt {w a b : Nat} (hWidth : 0 < w) (hLt : a < b) (hBound : b < 10 ^ w) :
    List.lt ((padDigits w a).map Char.toNat) ((padDigits w b).map Char.toNat) := by
  obtain ⟨hA, hALength, hAValue⟩ := padDigits_spec hWidth (hLt.trans hBound)
  obtain ⟨hB, hBLength, hBValue⟩ := padDigits_spec hWidth hBound
  exact map_toNat_lt_of_decimalValue_lt (by rw [hALength, hBLength]) hA hB
    (by rw [hAValue, hBValue]; exact hLt)

theorem length_padDigits {w n : Nat} (hWidth : 0 < w) (hBound : n < 10 ^ w) :
    ((padDigits w n).map Char.toNat).length = w := by
  simpa using (padDigits_spec hWidth hBound).2.1

/- Texts with a smaller first field of one width compare smaller, whatever follows. -/
theorem lt_append_of_lt
    {xs ys : List Nat}
    (as bs : List Nat)
    (hLength : xs.length = ys.length)
    (hLt : List.lt xs ys) :
    List.lt (xs ++ as) (ys ++ bs) := by
  induction hLt with
  | nil => simp at hLength
  | head _ _ hHead => exact List.lt.head _ _ hHead
  | tail hAB hBA _ ih => exact List.lt.tail hAB hBA (ih (by simpa using hLength))

/- Texts with one first field compare as what follows. -/
theorem lt_append_left (xs : List Nat) {as bs : List Nat} (hLt : List.lt as bs) :
    List.lt (xs ++ as) (xs ++ bs) := by
  induction xs with
  | nil => exact hLt
  | cons x xs ih => exact List.lt.tail (Nat.lt_irrefl x) (Nat.lt_irrefl x) ih

/- Texts with one first character compare as what follows. -/
theorem lt_cons_same (a : Nat) {as bs : List Nat} (hLt : List.lt as bs) :
    List.lt (a :: as) (a :: bs) :=
  List.lt.tail (Nat.lt_irrefl a) (Nat.lt_irrefl a) hLt

------------------------------------------------------------
-- Calendar Order
------------------------------------------------------------

/- The March-based year of a day of a 400-year era. -/
def yearOfEra (doe : Int) : Int :=
  (doe - doe / 1460 + doe / 36524 - doe / 146096) / 365

/- The day of that year, counted from March 1st. -/
def dayOfYear (doe : Int) : Int :=
  doe - (365 * yearOfEra doe + yearOfEra doe / 4 - yearOfEra doe / 100)

/- A later day of the era never falls in an earlier year. -/
theorem yearOfEra_le {x y : Int} (h0 : 0 ≤ x) (hLe : x ≤ y) (hEra : y ≤ 146096) :
    yearOfEra x ≤ yearOfEra y := by
  have hLeap : y / 1460 - x / 1460 ≤ y - x := by omega
  have hCentury : y / 146096 - x / 146096 ≤ y / 36524 - x / 36524 := by omega
  unfold yearOfEra
  apply Int.ediv_le_ediv (by decide)
  omega

/-
Day `e2` of four-year cycle `q` of century `b` of an era: its year counts the years of the
whole cycles and the whole years `r` of its own cycle, and `r` leaves at most a year of days.
-/
theorem yearOfEra_cycles {b q e2 : Int}
    (hB : 0 ≤ b ∧ b ≤ 3)
    (hQ : 0 ≤ q ∧ q ≤ 24)
    (hE2 : 0 ≤ e2 ∧ e2 ≤ 1460)
    (hWithin : 1461 * q + e2 ≤ 36523) :
    ∃ r, (0 ≤ r ∧ r ≤ 3) ∧ (0 ≤ e2 - 365 * r ∧ e2 - 365 * r ≤ 365) ∧
      yearOfEra (36524 * b + 1461 * q + e2) = 100 * b + 4 * q + r := by
  obtain ⟨δ, hδ, hLastDay, hLeap⟩ : ∃ δ : Int, (0 ≤ δ ∧ δ ≤ 1 ∧ δ ≤ e2) ∧ (e2 = 1460 → δ = 1) ∧
      (36524 * b + 1461 * q + e2) / 1460 = 25 * b + q + δ := by
    by_cases hLeapDay : 1460 ≤ e2 + 24 * b + q
    · exact ⟨1, by omega, fun _ => rfl, by omega⟩
    · exact ⟨0, by omega, fun _ => by omega, by omega⟩
  have hCentury : (36524 * b + 1461 * q + e2) / 36524 = b := by omega
  have hEra : (36524 * b + 1461 * q + e2) / 146096 = 0 := by omega
  refine ⟨(e2 - δ) / 365, by omega, by omega, ?_⟩
  unfold yearOfEra
  rw [hLeap, hCentury, hEra]
  omega

/- The year and day of the era: the year within the era, the day within the year. -/
theorem yearOfEra_dayOfYear_bounds {e : Int} (h0 : 0 ≤ e) (hEra : e ≤ 146096) :
    0 ≤ yearOfEra e ∧ yearOfEra e ≤ 399 ∧ 0 ≤ dayOfYear e ∧ dayOfYear e ≤ 365 := by
  rcases (show e = 146096 ∨ e ≤ 146095 by omega) with rfl | hLast
  · decide
  obtain ⟨b, q, e2, rfl, hB, hQ, hE2, hWithin⟩ : ∃ b q e2 : Int,
      e = 36524 * b + 1461 * q + e2 ∧ (0 ≤ b ∧ b ≤ 3) ∧ (0 ≤ q ∧ q ≤ 24) ∧
        (0 ≤ e2 ∧ e2 ≤ 1460) ∧ 1461 * q + e2 ≤ 36523 :=
    ⟨e / 36524, e % 36524 / 1461, e % 36524 % 1461, by omega, by omega, by omega, by omega,
      by omega⟩
  obtain ⟨r, hR, hDay, hYear⟩ := yearOfEra_cycles hB hQ hE2 hWithin
  have hQuarter : (100 * b + 4 * q + r) / 4 = 25 * b + q := by omega
  have hHundred : (100 * b + 4 * q + r) / 100 = b := by omega
  unfold dayOfYear
  rw [hYear, hQuarter, hHundred]
  omega

/- The date of a day of a March-based year, as `civilFromDays` computes it. -/
def marchCivil (marchYear doy : Int) : Civil :=
  let mp := (5 * doy + 2) / 153
  let month := if mp < 10 then mp + 3 else mp - 9
  { year := marchYear + (if month ≤ 2 then 1 else 0)
    month := month
    day := doy - (153 * mp + 2) / 5 + 1 }

theorem civilFromDays_eq (days : Int) :
    civilFromDays days =
      marchCivil (yearOfEra ((days + 719468) % 146097) + (days + 719468) / 146097 * 400)
        (dayOfYear ((days + 719468) % 146097)) := rfl

/- Calendar order: by year, then month, then day. -/
def Civil.Before (a b : Civil) : Prop :=
  a.year < b.year ∨ (a.year = b.year ∧ (a.month < b.month ∨ (a.month = b.month ∧ a.day < b.day)))

/- A later day of the March-based calendar is a later calendar date. -/
theorem marchCivil_before
    {y1 y2 doy1 doy2 : Int}
    (hDay1 : 0 ≤ doy1 ∧ doy1 ≤ 365)
    (hDay2 : 0 ≤ doy2 ∧ doy2 ≤ 365)
    (hLater : y1 < y2 ∨ (y1 = y2 ∧ doy1 < doy2)) :
    (marchCivil y1 doy1).Before (marchCivil y2 doy2) := by
  have hMonth1 : 0 ≤ (5 * doy1 + 2) / 153 ∧ (5 * doy1 + 2) / 153 ≤ 11 := by omega
  have hMonth2 : 0 ≤ (5 * doy2 + 2) / 153 ∧ (5 * doy2 + 2) / 153 ≤ 11 := by omega
  unfold Civil.Before marchCivil
  dsimp only
  rcases hLater with hYear | ⟨rfl, hDay⟩
  · split_ifs <;> omega
  · have hMono : (5 * doy1 + 2) / 153 ≤ (5 * doy2 + 2) / 153 :=
      Int.ediv_le_ediv (by decide) (by omega)
    rcases hMono.lt_or_eq with hLt | hEq
    · split_ifs <;> omega
    · rw [hEq]
      split_ifs <;> omega

/- A later day number is a later calendar date. -/
theorem civilFromDays_before {d1 d2 : Int} (hLt : d1 < d2) :
    (civilFromDays d1).Before (civilFromDays d2) := by
  rw [civilFromDays_eq, civilFromDays_eq]
  obtain ⟨hYear1, hYear1', hDay1, hDay1'⟩ :=
    yearOfEra_dayOfYear_bounds (e := (d1 + 719468) % 146097) (by omega) (by omega)
  obtain ⟨hYear2, hYear2', hDay2, hDay2'⟩ :=
    yearOfEra_dayOfYear_bounds (e := (d2 + 719468) % 146097) (by omega) (by omega)
  refine marchCivil_before ⟨hDay1, hDay1'⟩ ⟨hDay2, hDay2'⟩ ?_
  rcases (show (d1 + 719468) / 146097 < (d2 + 719468) / 146097 ∨
      ((d1 + 719468) / 146097 = (d2 + 719468) / 146097 ∧
        (d1 + 719468) % 146097 < (d2 + 719468) % 146097) by omega) with hEra | ⟨hEra, hDoe⟩
  · left
    omega
  · have hMono := yearOfEra_le (by omega) hDoe.le (by omega)
    rcases hMono.lt_or_eq with hYear | hYear
    · left
      omega
    · right
      refine ⟨by omega, ?_⟩
      unfold dayOfYear
      rw [hYear]
      omega

/- The months and days `civilFromDays` computes are calendar fields. -/
theorem civilFromDays_fields (days : Int) :
    1 ≤ (civilFromDays days).month ∧ (civilFromDays days).month ≤ 12 ∧
      1 ≤ (civilFromDays days).day ∧ (civilFromDays days).day ≤ 31 := by
  obtain ⟨-, -, hDay, hDay'⟩ :=
    yearOfEra_dayOfYear_bounds (e := (days + 719468) % 146097) (by omega) (by omega)
  rw [civilFromDays_eq]
  unfold marchCivil
  dsimp only
  generalize dayOfYear ((days + 719468) % 146097) = doy at hDay hDay'
  split_ifs <;> omega

/- Years of later days are no earlier. -/
theorem civilFromDays_year_le {d1 d2 : Int} (hLe : d1 ≤ d2) :
    (civilFromDays d1).year ≤ (civilFromDays d2).year := by
  rcases hLe.lt_or_eq with hLt | rfl
  · rcases civilFromDays_before hLt with h | ⟨h, -⟩ <;> omega
  · exact le_refl _

------------------------------------------------------------
-- ISO Text Order
------------------------------------------------------------

/- Fixed-width fields, each followed by its separator. -/
def fieldsText : List (Nat × Nat × Char) → List Char
  | [] => []
  | (width, value, sep) :: rest => padDigits width value ++ sep :: fieldsText rest

/-
  Texts of fields of the same widths and separators compare as
  the field values do.
-/
theorem fieldsText_lt
    {fs gs : List (Nat × Nat × Char)}
    (hShape : fs.map (fun f => (f.1, f.2.2)) = gs.map (fun f => (f.1, f.2.2)))
    (hFits : ∀ f ∈ fs ++ gs, 0 < f.1 ∧ f.2.1 < 10 ^ f.1)
    (hLt : List.lt (fs.map (·.2.1)) (gs.map (·.2.1))) :
    List.lt ((fieldsText fs).map Char.toNat) ((fieldsText gs).map Char.toNat) := by
  induction fs generalizing gs with
  | nil =>
      cases gs with
      | nil => cases hLt
      | cons => simp at hShape
  | cons f fs ih =>
      cases gs with
      | nil => simp at hShape
      | cons g gs =>
          obtain ⟨width, value, sep⟩ := f
          obtain ⟨width', value', sep'⟩ := g
          simp only [List.map_cons, List.cons.injEq, Prod.mk.injEq] at hShape
          obtain ⟨⟨rfl, rfl⟩, hRest⟩ := hShape
          have hF := hFits (width, value, sep) (List.mem_append_left _ (List.mem_cons_self _ _))
          have hG := hFits (width, value', sep) (List.mem_append_right _ (List.mem_cons_self _ _))
          simp only [fieldsText, List.map_append, List.map_cons]
          cases hLt with
          | head _ _ hValue =>
              exact lt_append_of_lt _ _
                (by rw [length_padDigits hF.1 hF.2, length_padDigits hG.1 hG.2])
                (padDigits_lt hF.1 hValue hG.2)
          | tail hNotLt hNotGt hTail =>
              simp only at hNotLt hNotGt
              rw [show value = value' by omega]
              refine lt_append_left _ (List.lt.tail (Nat.lt_irrefl _) (Nat.lt_irrefl _)
                (ih hRest (fun f hf => hFits f ?_) hTail))
              simp only [List.mem_append, List.mem_cons] at hf ⊢
              tauto

/- A character of fixed-width fields is a digit or a separator. -/
theorem mem_fieldsText {c : Char} {fs : List (Nat × Nat × Char)} (hc : c ∈ fieldsText fs) :
    DigitChar c ∨ ∃ f ∈ fs, c = f.2.2 := by
  induction fs with
  | nil => simp [fieldsText] at hc
  | cons f fs ih =>
      simp only [fieldsText, List.mem_append, List.mem_cons] at hc
      rcases hc with hc | rfl | hc
      · exact .inl (digitChar_of_mem_padDigits hc)
      · exact .inr ⟨f, List.mem_cons_self f fs, rfl⟩
      · rcases ih hc with h | ⟨g, hg, rfl⟩
        · exact .inl h
        · exact .inr ⟨g, List.mem_cons_of_mem f hg, rfl⟩

/- The first and last instants with a four-digit year. -/
def isoMin : Int :=
  -62167219200000

def isoMax : Int :=
  253402300799999

/- Instants from `0000-01-01` to `9999-12-31` have four-digit years. -/
theorem year_of_isoRange {t : Int} (hMin : isoMin ≤ t) (hMax : t ≤ isoMax) :
    0 ≤ (civilFromDays (t / msPerDay)).year ∧ (civilFromDays (t / msPerDay)).year ≤ 9999 := by
  have hFirst : (civilFromDays (-719528)).year = 0 := by decide
  have hLast : (civilFromDays 2932896).year = 9999 := by decide
  unfold isoMin isoMax at *
  constructor
  · rw [← hFirst]
    exact civilFromDays_year_le (by unfold msPerDay; omega)
  · rw [← hLast]
    exact civilFromDays_year_le (by unfold msPerDay; omega)

/- The fields of `YYYY-MM-DDTHH:mm:ss.sssZ`, each with its width and separator. -/
def isoFields (t : Int) : List (Nat × Nat × Char) :=
  let c := civilFromDays (t / msPerDay)
  let ms := t % msPerDay
  [(4, c.year.toNat, '-'), (2, c.month.toNat, '-'), (2, c.day.toNat, 'T'),
    (2, (ms / 3600000).toNat, ':'), (2, (ms / 60000 % 60).toNat, ':'),
    (2, (ms / 1000 % 60).toNat, '.'), (3, (ms % 1000).toNat, 'Z')]

theorem isoChars_fields {t : Int} (hMin : isoMin ≤ t) (hMax : t ≤ isoMax) :
    isoChars t = fieldsText (isoFields t) := by
  have hYear := year_of_isoRange hMin hMax
  simp [isoChars, isoFields, fieldsText, yearDigits, hYear]

/- A later time of day has greater clock fields, compared from the hour down. -/
theorem clockFields_lt {m1 m2 : Int} (h0 : 0 ≤ m1) (hLt : m1 < m2) (hDay : m2 < 86400000) :
    List.lt [(m1 / 3600000).toNat, (m1 / 60000 % 60).toNat, (m1 / 1000 % 60).toNat,
        (m1 % 1000).toNat]
      [(m2 / 3600000).toNat, (m2 / 60000 % 60).toNat, (m2 / 1000 % 60).toNat,
        (m2 % 1000).toNat] := by
  have hSplit : ∀ m : Int, 0 ≤ m → m = 3600000 * (m / 3600000) + 60000 * (m / 60000 % 60) +
      1000 * (m / 1000 % 60) + m % 1000 := fun m _ => by omega
  have hM1 := hSplit m1 h0
  have hM2 := hSplit m2 (by omega)
  have hBounds : ∀ m : Int, 0 ≤ m → 0 ≤ m / 3600000 ∧ 0 ≤ m / 60000 % 60 ∧
      m / 60000 % 60 < 60 ∧ 0 ≤ m / 1000 % 60 ∧ m / 1000 % 60 < 60 ∧
      0 ≤ m % 1000 ∧ m % 1000 < 1000 := fun m _ => by omega
  have hB1 := hBounds m1 h0
  have hB2 := hBounds m2 (by omega)
  generalize m1 / 3600000 = h1 at *
  generalize m2 / 3600000 = h2 at *
  generalize m1 / 60000 % 60 = n1 at *
  generalize m2 / 60000 % 60 = n2 at *
  generalize m1 / 1000 % 60 = s1 at *
  generalize m2 / 1000 % 60 = s2 at *
  generalize m1 % 1000 = x1 at *
  generalize m2 % 1000 = x2 at *
  subst hM1 hM2
  rcases (show h1 < h2 ∨ (h1 = h2 ∧ (n1 < n2 ∨ (n1 = n2 ∧ (s1 < s2 ∨ (s1 = s2 ∧ x1 < x2)))))
    by omega) with hH | ⟨rfl, hN | ⟨rfl, hS | ⟨rfl, hX⟩⟩⟩
  · exact List.lt.head _ _ (by omega)
  · exact lt_cons_same _ (List.lt.head _ _ (by omega))
  · exact lt_cons_same _ (lt_cons_same _ (List.lt.head _ _ (by omega)))
  · exact lt_cons_same _ (lt_cons_same _ (lt_cons_same _ (List.lt.head _ _ (by omega))))

/- A later instant has greater fields, compared from the year down. -/
theorem isoFields_lt {t1 t2 : Int} (hMin : isoMin ≤ t1) (hLt : t1 < t2) (hMax : t2 ≤ isoMax) :
    List.lt ((isoFields t1).map (·.2.1)) ((isoFields t2).map (·.2.1)) := by
  have hYear1 := year_of_isoRange hMin (by omega)
  have hYear2 := year_of_isoRange (by omega) hMax
  have hFields1 := civilFromDays_fields (t1 / msPerDay)
  have hFields2 := civilFromDays_fields (t2 / msPerDay)
  simp only [isoFields, List.map_cons, List.map_nil]
  unfold msPerDay at *
  rcases (show t1 / 86400000 < t2 / 86400000 ∨
      (t1 / 86400000 = t2 / 86400000 ∧ t1 % 86400000 < t2 % 86400000) by omega) with
    hDay | ⟨hDay, hTime⟩
  · rcases civilFromDays_before hDay with hY | ⟨hY, hM | ⟨hM, hD⟩⟩
    · exact List.lt.head _ _ (by omega)
    · rw [hY]
      exact lt_cons_same _ (List.lt.head _ _ (by omega))
    · rw [hY, hM]
      exact lt_cons_same _ (lt_cons_same _ (List.lt.head _ _ (by omega)))
  · rw [hDay]
    exact lt_cons_same _ (lt_cons_same _ (lt_cons_same _
      (clockFields_lt (by omega) hTime (by omega))))

/- Text of characters below `U+10000` is one code unit a character. -/
theorem utf16_of_bmp {cs : List Char} (hBmp : ∀ c ∈ cs, c.toNat < 65536) :
    utf16 (String.mk cs) = cs.map Char.toNat := by
  induction cs with
  | nil => rfl
  | cons c cs ih =>
      have hRest := ih fun d hd => hBmp d (List.mem_cons_of_mem c hd)
      simp only [utf16, String.toList] at hRest ⊢
      simp [List.flatMap_cons, codeUnits, hBmp c (List.mem_cons_self c cs), hRest]

/- The characters of the fields are digits and the separators. -/
theorem fieldsText_bmp {fs : List (Nat × Nat × Char)} (hSeps : ∀ f ∈ fs, f.2.2.toNat < 65536) :
    ∀ c ∈ fieldsText fs, c.toNat < 65536 := by
  induction fs with
  | nil => simp [fieldsText]
  | cons f fs ih =>
      intro c hc
      simp only [fieldsText, List.mem_append, List.mem_cons] at hc
      rcases hc with hc | rfl | hc
      · exact lt_trans (digitChar_of_mem_padDigits hc).2 (by decide)
      · exact hSeps f (List.mem_cons_self f fs)
      · exact ih (fun g hg => hSeps g (List.mem_cons_of_mem f hg)) c hc

/- Every field of an instant with a four-digit year fits its width. -/
theorem isoFields_fit {t : Int} (hMin : isoMin ≤ t) (hMax : t ≤ isoMax) :
    ∀ f ∈ isoFields t, 0 < f.1 ∧ f.2.1 < 10 ^ f.1 := by
  have hYear := year_of_isoRange hMin hMax
  have hFields := civilFromDays_fields (t / msPerDay)
  have hTime : 0 ≤ t % msPerDay ∧ t % msPerDay < 86400000 := by unfold msPerDay; omega
  intro f hf
  simp only [isoFields, List.mem_cons, List.not_mem_nil, or_false] at hf
  rcases hf with rfl | rfl | rfl | rfl | rfl | rfl | rfl <;> simp only <;> omega

/-
  Between `0000-01-01T00:00:00.000Z` and `9999-12-31T23:59:59.999Z`
  a later instant has a greater ISO text, in the order of `sort()`.
-/
theorem isoString_lt {t1 t2 : Int} (hMin : isoMin ≤ t1) (hLt : t1 < t2) (hMax : t2 ≤ isoMax) :
    List.lt (utf16 (isoString t1)) (utf16 (isoString t2)) := by
  have hSeps : ∀ t, ∀ f ∈ isoFields t, f.2.2.toNat < 65536 := by
    intro t f hf
    simp only [isoFields, List.mem_cons, List.not_mem_nil, or_false] at hf
    rcases hf with rfl | rfl | rfl | rfl | rfl | rfl | rfl <;> simp only <;> decide
  unfold isoString
  rw [isoChars_fields hMin (by omega), isoChars_fields (by omega) hMax,
    utf16_of_bmp (fieldsText_bmp (hSeps t1)), utf16_of_bmp (fieldsText_bmp (hSeps t2))]
  refine fieldsText_lt (by simp [isoFields]) (fun f hf => ?_) (isoFields_lt hMin hLt hMax)
  rcases List.mem_append.1 hf with hf | hf
  · exact isoFields_fit hMin (by omega) f hf
  · exact isoFields_fit (by omega) hMax f hf

/- `List.lt` on code units admits no cycle of two. -/
theorem utf16_lt_asymm {a b : List Nat} (hAB : List.lt a b) (hBA : List.lt b a) : False :=
  List.lt_irrefl Nat.lt_irrefl a
    (List.lt_trans Nat.lt_trans (fun h1 h2 => by omega) hAB hBA)

/- In the ISO range, `sort()` on ISO texts orders them by their instants. -/
theorem sortStrings_isoString {ts : List Int} (hRange : ∀ t ∈ ts, isoMin ≤ t ∧ t ≤ isoMax) :
    sortStrings (ts.map isoString) = (ts.insertionSort (· ≤ ·)).map isoString := by
  refine (List.map_insertionSort (fun a b : Int => a ≤ b)
    (fun a b : String => ¬ @LT.lt (List Nat) List.instLT (utf16 b) (utf16 a)) isoString ts
    fun a hA b hB => ?_).symm
  obtain ⟨hAMin, hAMax⟩ := hRange a hA
  obtain ⟨hBMin, hBMax⟩ := hRange b hB
  constructor
  · intro hLe hGt
    rcases hLe.lt_or_eq with hLt | rfl
    · exact utf16_lt_asymm (isoString_lt hAMin hLt hBMax) hGt
    · exact List.lt_irrefl Nat.lt_irrefl _ hGt
  · intro hNotGt
    by_contra hGt
    exact hNotGt (isoString_lt hBMin (lt_of_not_le hGt) hAMax)

/- In the ISO range, distinct instants have distinct ISO texts. -/
theorem isoString_injective {a b : Int} (hA : isoMin ≤ a ∧ a ≤ isoMax)
    (hB : isoMin ≤ b ∧ b ≤ isoMax) (hEq : isoString a = isoString b) : a = b := by
  rcases lt_trichotomy a b with hLt | hSame | hGt
  · have hText := isoString_lt hA.1 hLt hB.2
    rw [hEq] at hText
    exact (List.lt_irrefl Nat.lt_irrefl _ hText).elim
  · exact hSame
  · have hText := isoString_lt hB.1 hGt hA.2
    rw [hEq] at hText
    exact (List.lt_irrefl Nat.lt_irrefl _ hText).elim

/- `new Date(t).toISOString()` of an instant with a four-digit year. -/
theorem toISOString_of_range {t : Int} (hMin : isoMin ≤ t) (hMax : t ≤ isoMax) :
    toISOString (.int t) = .ok (isoString t) := by
  have hClip : t.natAbs ≤ maxTime.natAbs := by unfold isoMin isoMax maxTime at *; omega
  simp [toISOString, timeClip, hClip]

end PanelExport
