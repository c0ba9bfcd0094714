import PanelExport.Js.Convert

/-
  The part of `Date` the time-series exporters use:
  `new Date(v).toISOString()`.

  A time value is a whole number of milliseconds since the epoch;
  `TimeClip` rejects values of magnitude above `8.64e15`, and
  `toISOString` on the resulting invalid date raises a
  `RangeError`.  Calendar fields come from the proleptic Gregorian
  conversion of the day number.  `Date.parse` reads the ECMAScript
  date time string format: a four-digit or signed six-digit year,
  an optional month and day, and an optional time of day with
  optional seconds, milliseconds and offset, a time without offset
  being read in a UTC local zone.  The fallback formats an engine
  may accept beyond it give an invalid date here.

  Main declarations:
    * `civilFromDays`, `daysFromCivil`
    * `isoString`, `toISOString`
    * `isoTimeValue`, `dateParse`, `dateValue`
-/

------------------------------------------------------------
-- Calendar
------------------------------------------------------------

namespace PanelExport

/- Milliseconds in a day. -/
def msPerDay : Int :=
  86400000

/- Gregorian year, month and day of the month. -/
structure Civil where
  year : Int
  month : Int
  day : Int
deriving DecidableEq, Repr

/-
  The calendar date of a day number (days since 1970-01-01),
  computed through 400-year eras starting on March 1st.
-/
def civilFromDays (days : Int) : Civil :=
  let z := days + 719468
  let era := z / 146097
  let doe := z % 146097
  let yoe := (doe - doe / 1460 + doe / 36524 - doe / 146096) / 365
  let doy := doe - (365 * yoe + yoe / 4 - yoe / 100)
  let mp := (5 * doy + 2) / 153
  let month := if mp < 10 then mp + 3 else mp - 9
  { year := yoe + era * 400 + (if month ≤ 2 then 1 else 0)
    month := month
    day := doy - (153 * mp + 2) / 5 + 1 }

/- The day number of a calendar date, inverse to `civilFromDays`. -/
def daysFromCivil (c : Civil) : Int :=
  let y := if c.month ≤ 2 then c.year - 1 else c.year
  let era := y / 400
  let yoe := y % 400
  let mp := if c.month > 2 then c.month - 3 else c.month + 9
  let doy := (153 * mp + 2) / 5 + c.day - 1
  era * 146097 + (yoe * 365 + yoe / 4 - yoe / 100 + doy) - 719468

------------------------------------------------------------
-- ISO Text
------------------------------------------------------------

/- Decimal digits of `n`, zero-padded on the left to `width`. -/
def padDigits (width : Nat) (n : Nat) : List Char :=
  let digits := Nat.toDigits 10 n
  List.replicate (width - digits.length) '0' ++ digits

/- The year field: four digits, or a sign and six digits. -/
def yearDigits (y : Int) : List Char :=
  if 0 ≤ y ∧ y ≤ 9999 then padDigits 4 y.toNat
  else (if y < 0 then '-' else '+') :: padDigits 6 y.natAbs

/- The characters of `YYYY-MM-DDTHH:mm:ss.sssZ` for a time value. -/
def isoChars (t : Int) : List Char :=
  let c := civilFromDays (t / msPerDay)
  let ms := t % msPerDay
  yearDigits c.year ++ '-' :: padDigits 2 c.month.toNat ++
    '-' :: padDigits 2 c.day.toNat ++
    'T' :: padDigits 2 (ms / 3600000).toNat ++
    ':' :: padDigits 2 (ms / 60000 % 60).toNat ++
    ':' :: padDigits 2 (ms / 1000 % 60).toNat ++
    '.' :: padDigits 3 (ms % 1000).toNat ++ ['Z']

/- `Date.prototype.toISOString` of a valid time value. -/
def isoString (t : Int) : String :=
  String.mk (isoChars t)

/- Largest time value magnitude `TimeClip` accepts. -/
def maxTime : Int :=
  8640000000000000

/-
  `TimeClip`: the time value of a number, truncated toward zero,
  none when invalid.  A fraction is below `2^52` in magnitude, so
  always in range.
-/
def timeClip : JsNum → Option Int
  | .int n => if n.natAbs ≤ maxTime.natAbs then some n else none
  | .frac x => some (x.num.tdiv (2 ^ (x.exp + 1)))
  | _ => none

/- `new Date(t).toISOString()` for a number `t`. -/
def toISOString (t : JsNum) : Except JsError String :=
  match timeClip t with
  | some ms => .ok (isoString ms)
  | none => .error .rangeError

------------------------------------------------------------
-- Parsing
------------------------------------------------------------

/- The value of a run of decimal digits, none on any other char. -/
def digitsValue? (cs : List Char) : Option Nat :=
  cs.foldl (fun acc c => acc.bind fun n =>
    if c.isDigit then some (10 * n + (c.toNat - 48)) else none) (some 0)

/- A calendar date when the fields name an existing day. -/
def validDate? (y : Int) (m d : Nat) : Option Int :=
  let c : Civil := ⟨y, m, d⟩
  if civilFromDays (daysFromCivil c) = c then some (daysFromCivil c)
  else none

/- `w` digits at the front of a text: their value and the rest. -/
def takeDigits (w : Nat) (cs : List Char) : Option (Nat × List Char) :=
  if (cs.take w).length = w then (digitsValue? (cs.take w)).map fun v => (v, cs.drop w)
  else none

/- The year: four digits, or a sign and six digits, `-000000` excluded. -/
def takeYear : List Char → Option (Int × List Char)
  | c :: cs =>
      if c = '+' then (takeDigits 6 cs).map fun p => ((p.1 : Int), p.2)
      else if c = '-' then
        (takeDigits 6 cs).bind fun p => if p.1 = 0 then none else some (-(p.1 : Int), p.2)
      else (takeDigits 4 (c :: cs)).map fun p => ((p.1 : Int), p.2)
  | [] => none

/- A field of `w` digits after `sep` when the text goes on with `sep`, else the default. -/
def optionalField (sep : Char) (w fallback : Nat) : List Char → Option (Nat × List Char)
  | c :: cs => if c = sep then takeDigits w cs else some (fallback, c :: cs)
  | [] => some (fallback, [])

theorem optionalField_sep (sep : Char) (w fallback : Nat) (cs : List Char) :
    optionalField sep w fallback (sep :: cs) = takeDigits w cs := by
  simp [optionalField]

/-
  The time of day `HH:mm`, then `:ss` and `.sss` when present:
  hour, minute, second and millisecond, and the rest of the text.
-/
def takeClock (cs : List Char) : Option ((Nat × Nat × Nat × Nat) × List Char) := do
  let (h, cs) ← takeDigits 2 cs
  let (n, cs) ← match cs with
    | ':' :: cs => takeDigits 2 cs
    | _ => none
  match cs with
  | ':' :: cs =>
      let (s, cs) ← takeDigits 2 cs
      let (f, cs) ← optionalField '.' 3 0 cs
      pure ((h, n, s, f), cs)
  | cs => pure ((h, n, 0, 0), cs)

/-
  The offset that ends a date-time, in minutes east of UTC: `Z`,
  `+HH:mm` or `-HH:mm`; without one the time is local, and the
  local time zone is taken to be UTC.
-/
def offsetMinutes : List Char → Option Int
  | [] => some 0
  | ['Z'] => some 0
  | [sign, h1, h2, ':', m1, m2] =>
      match digitsValue? [h1, h2], digitsValue? [m1, m2] with
      | some h, some m =>
          if h < 24 ∧ m < 60 then
            if sign = '+' then some (h * 60 + m)
            else if sign = '-' then some (-(h * 60 + m : Nat))
            else none
          else none
      | _, _ => none
  | _ => none

theorem offsetMinutes_utc : offsetMinutes ['Z'] = some 0 := rfl

/- A clock reading within a day; `24:00` is the day's end. -/
def validClock (h n s f : Nat) : Prop :=
  (h < 24 ∧ n < 60 ∧ s < 60) ∨ (h = 24 ∧ n = 0 ∧ s = 0 ∧ f = 0)

instance (h n s f : Nat) : Decidable (validClock h n s f) :=
  inferInstanceAs (Decidable (_ ∨ _))

/-
  The time value a text in the date time string format names,
  before `TimeClip`: a year, then `-MM` and `-DD` when present
  (January and the first by default), then optionally `T`, a time
  of day and an offset.
-/
def isoTimeValue (cs : List Char) : Option Int := do
  let (y, cs) ← takeYear cs
  let (m, cs) ← optionalField '-' 2 1 cs
  let (d, cs) ← optionalField '-' 2 1 cs
  let days ← validDate? y m d
  match cs with
  | [] => pure (days * msPerDay)
  | 'T' :: cs =>
      let ((h, n, s, f), cs) ← takeClock cs
      let offset ← offsetMinutes cs
      if validClock h n s f then
        pure (days * msPerDay + h * 3600000 + n * 60000 + s * 1000 + f - offset * 60000)
      else none
  | _ => none

/-
  `Date.parse` on the date time string format; a time beyond the
  `Date` range, and any other text, is an invalid date.
-/
def dateParse (s : String) : JsNum :=
  match isoTimeValue s.toList with
  | some t => if t.natAbs ≤ maxTime.natAbs then .int t else .nan
  | none => .nan

example : dateParse "2024-01-01T00:00:00Z" = .int 1704067200000 ∧
    dateParse "2024-02" = .int 1706745600000 ∧
    dateParse "2024-01-01T01:00+01:00" = .int 1704067200000 ∧
    dateParse "2024-02-30" = .nan := by
  decide

/-
  The number `new Date(v)` starts from: strings are parsed, other
  primitives converted with `ToNumber`, objects first turned into
  text.
-/
def dateValue (v : JsVal) : Except JsError JsNum :=
  match v with
  | .undefined => .ok .nan
  | .null => .ok (.int 0)
  | .bool b => .ok (.int (if b then 1 else 0))
  | .num n => .ok n
  | .str s => .ok (dateParse s)
  | _ => do
      let text ← v.toStr
      pure (dateParse text)

end PanelExport
