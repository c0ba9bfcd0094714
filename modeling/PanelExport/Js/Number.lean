import PanelExport.Js.Value

/-
  Rounding to a double, and `Number::toString`.

  A finite double is `±m · 2^e` with a mantissa `m < 2^53` and an
  exponent `e ≥ -1074`.  `JsNum.round` takes an exact ratio to the
  double nearest it, a halfway case to the even mantissa, and past
  the largest double to an infinity, as every arithmetic result
  and every numeric literal is rounded.  `Number::toString` writes
  the fewest decimal digits `s`, with decimal exponent `n`, that
  round back to the number, the closer of two such and the even
  one at a tie; then it writes them as an integer, with a point,
  or in exponent form.  An integer of magnitude at most `2^53` is
  a double whose own digits are the fewest, so it is printed as
  it is.

  Main declarations:
    * `JsNum.round`, `JsNum.ofParts`
    * `JsNum.shortest`, `JsNum.decimalText`, `JsNum.toStr`
    * `JsNum.strictEq`, `JsNum.sameValueZero`, `JsNum.finiteLt`
    * `JsNum.toStr_chars`
-/

------------------------------------------------------------
-- Rounding
------------------------------------------------------------

namespace PanelExport

namespace JsNum

/- `⌊log2 n⌋` by halving, at most `fuel` times. -/
def log2Fuel : Nat → Nat → Nat
  | 0, _ => 0
  | fuel + 1, n => if n < 2 then 0 else log2Fuel fuel (n / 2) + 1

/- `⌊log2 n⌋`, by halving so that it evaluates. -/
def log2 (n : Nat) : Nat :=
  log2Fuel n n

/- `⌊log2 (a / b)⌋` for positive `a` and `b`: `log2 a - log2 b` or one less. -/
def floorLog2 (a b : Nat) : Int :=
  let l : Int := (log2 a : Int) - log2 b
  if b * 2 ^ l.toNat ≤ a * 2 ^ (-l).toNat then l else l - 1

/- `n / d` rounded to the nearest integer, a halfway case to the even one. -/
def roundHalfEven (n d : Nat) : Nat :=
  if d < 2 * (n % d) ∨ (2 * (n % d) = d ∧ n / d % 2 = 1) then n / d + 1 else n / d

/- `m` with up to `k` factors of two divided out, and how many of the `k` are left. -/
def stripTwos : Nat → Nat → Nat × Nat
  | m, 0 => (m, 0)
  | m, k + 1 => if m % 2 = 0 then stripTwos (m / 2) k else (m, k + 1)

/- Stripping never grows `m` or the count, and stops early only at an odd `m`. -/
theorem stripTwos_spec : ∀ m k : Nat,
    (stripTwos m k).1 ≤ m ∧ (stripTwos m k).2 ≤ k ∧
      ((stripTwos m k).2 = 0 ∨ (stripTwos m k).1 % 2 = 1)
  | m, 0 => by simp [stripTwos]
  | m, k + 1 => by
      unfold stripTwos
      split
      · obtain ⟨hLe, hCount, hOdd⟩ := stripTwos_spec (m / 2) k
        exact ⟨hLe.trans (Nat.div_le_self m 2), by omega, hOdd⟩
      · exact ⟨le_rfl, le_rfl, .inr (by omega)⟩

/- `-v` when `neg`, else `v`. -/
def signed (neg : Bool) (v : Int) : Int :=
  if neg then -v else v

theorem natAbs_signed (neg : Bool) (v : Nat) : (signed neg v).natAbs = v := by
  cases neg <;> simp [signed]

theorem signed_emod_two {neg : Bool} {v : Nat} (hOdd : v % 2 = 1) : signed neg v % 2 = 1 := by
  cases neg <;> simp only [signed] <;> omega

/-
  The number `±m · 2^e`, for a mantissa below `2^53` and an
  exponent no finer than `2^-1074`: an integer, or a fraction once
  `m` has shed the factors of two that `2^e` can absorb.
-/
def ofParts (neg : Bool) (m : Nat) (e : Int) (hm : m < 2 ^ 53) (he : -1074 ≤ e) : JsNum :=
  if hWhole : 0 ≤ e then .int (signed neg (m * 2 ^ e.toNat))
  else
    let s := stripTwos m e.natAbs
    if hNone : s.2 = 0 then .int (signed neg s.1)
    else
      have hSpec : s.1 ≤ m ∧ s.2 ≤ e.natAbs ∧ (s.2 = 0 ∨ s.1 % 2 = 1) :=
        stripTwos_spec m e.natAbs
      .frac ⟨signed neg s.1, s.2 - 1,
        signed_emod_two (hSpec.2.2.resolve_left hNone),
        by rw [natAbs_signed]; exact lt_of_le_of_lt hSpec.1 hm,
        by omega⟩

/-
  `𝔽(±a / b)`: the double nearest the ratio, a halfway case to the
  even mantissa.  A mantissa rounded up to `2^53` is carried into
  the exponent; past the largest double the result is infinite.
-/
def round (neg : Bool) (a b : Nat) : JsNum :=
  if a = 0 ∨ b = 0 then .int 0
  else
    let e : Int := max (floorLog2 a b - 52) (-1074)
    let m := roundHalfEven (a * 2 ^ (-e).toNat) (b * 2 ^ e.toNat)
    if hm : m < 2 ^ 53 then
      if e ≤ 971 then ofParts neg m e hm (le_max_right _ _) else .inf neg
    else if e + 1 ≤ 971 then
      ofParts neg (2 ^ 52) (e + 1) (by decide) (by have := le_max_right (floorLog2 a b - 52) (-1074); omega)
    else .inf neg

------------------------------------------------------------
-- Shortest Digits
------------------------------------------------------------

/- The least `j` from the given one with `b ≤ a · 10^j`, in at most `fuel` steps. -/
def scaleUp (a b : Nat) : Nat → Nat → Nat
  | j, 0 => j
  | j, fuel + 1 => if b ≤ a * 10 ^ j then j else scaleUp a b (j + 1) fuel

/- The decimal exponent `n` with `10^(n-1) ≤ a / b < 10^n`, for positive `a` and `b`. -/
def decimalExponent (a b : Nat) : Int :=
  if b ≤ a then (Nat.toDigits 10 (a / b)).length
  else 1 - (scaleUp a b 1 400 : Int)

/- `(a / b) · 10^(k - n)`, as a numerator and a denominator. -/
def scaled (a b k : Nat) (n : Int) : Nat × Nat :=
  let p : Int := k - n
  (a * 10 ^ p.toNat, b * 10 ^ (-p).toNat)

/- `𝔽(s × 10^(n - k))` is the double nearest `a / b`. -/
def roundsBack (a b s k : Nat) (n : Int) : Bool :=
  let p : Int := n - k
  round false (s * 10 ^ p.toNat) (10 ^ (-p).toNat) == round false a b

/-
  The `k`-digit `s` for `a / b` at decimal exponent `n`: of the
  two `k`-digit decimals around it, one that rounds back to the
  same double, the closer one when both do, the even one at a tie.
-/
def digitsOfLength (a b k : Nat) (n : Int) : Option (Nat × Int) :=
  let t := scaled a b k n
  let lo := t.1 / t.2
  let rest := t.1 % t.2
  let hi : Nat × Int := if lo + 1 = 10 ^ k then (10 ^ (k - 1), n + 1) else (lo + 1, n)
  let loBack := roundsBack a b lo k n
  let hiBack := rest != 0 && roundsBack a b hi.1 k hi.2
  if loBack && hiBack then
    if 2 * rest < t.2 then some (lo, n)
    else if t.2 < 2 * rest then some hi
    else if lo % 2 = 0 then some (lo, n) else some hi
  else if loBack then some (lo, n)
  else if hiBack then some hi
  else none

/- The first length from `k` on that has digits rounding back, with `s` and `n`. -/
def shortestFrom (a b : Nat) (n : Int) : Nat → Nat → Nat × Nat × Int
  | k, 0 => ((scaled a b k n).1 / (scaled a b k n).2, k, n)
  | k, fuel + 1 =>
      match digitsOfLength a b k n with
      | some (s, n') => (s, k, n')
      | none => shortestFrom a b n (k + 1) fuel

/-
  `Number::toString`'s `s`, `k` and `n` for the double nearest
  `a / b`: the fewest digits, of the seventeen that always suffice.
-/
def shortest (a b : Nat) : Nat × Nat × Int :=
  shortestFrom a b (decimalExponent a b) 1 17

/- The sign of a decimal exponent. -/
def exponentSign (e : Int) : String :=
  if 0 ≤ e then "+" else "-"

/- `m` written with a point after its first digit, when it has more than one. -/
def pointAfterFirst : List Char → List Char
  | d :: rest@(_ :: _) => d :: '.' :: rest
  | ds => ds

/-
  The text of a positive number from its digits `s` (`k` of them)
  and decimal exponent `n`: an integer up to 21 digits, a point
  within them, a fraction below 1 down to `1e-6`, else exponent form.
-/
def decimalText (s k : Nat) (n : Int) : String :=
  let digits := Nat.toDigits 10 s
  if k ≤ n ∧ n ≤ 21 then String.mk (digits ++ List.replicate (n - k).toNat '0')
  else if 0 < n ∧ n ≤ 21 then String.mk (digits.take n.toNat ++ '.' :: digits.drop n.toNat)
  else if -6 < n ∧ n ≤ 0 then String.mk ('0' :: '.' :: List.replicate (-n).toNat '0' ++ digits)
  else
    String.mk (pointAfterFirst digits) ++ "e" ++ exponentSign (n - 1) ++ toString (n - 1).natAbs

/- `-` for a negative number. -/
def signText (neg : Bool) : String :=
  if neg then "-" else ""

/- The text of the double nearest `±a / b`, for `a / b` within the double range. -/
def finiteText (neg : Bool) (a b : Nat) : String :=
  let (s, k, n) := shortest a b
  signText neg ++ decimalText s k n

/-
  `Number::toString`.  An integer beyond `2^53` is first rounded to
  the double it denotes, whose digits are then written.
-/
def toStr : JsNum → String
  | .int n =>
      if n.natAbs ≤ 2 ^ 53 then toString n
      else
        match round (decide (n < 0)) n.natAbs 1 with
        | .int m => finiteText (decide (m < 0)) m.natAbs 1
        | _ => signText (decide (n < 0)) ++ "Infinity"
  | .frac x => finiteText (decide (x.num < 0)) x.num.natAbs (2 ^ (x.exp + 1))
  | .nan => "NaN"
  | .inf negative => signText negative ++ "Infinity"

------------------------------------------------------------
-- Equality
------------------------------------------------------------

/- Strict equality: `NaN` differs from itself. -/
def strictEq : JsNum → JsNum → Bool
  | .int a, .int b => a == b
  | .frac x, .frac y => x == y
  | .inf a, .inf b => a == b
  | _, _ => false

/- `SameValueZero`, the equality of `Set`: `NaN` equals itself. -/
def sameValueZero : JsNum → JsNum → Bool
  | .nan, .nan => true
  | a, b => strictEq a b

/- A finite number as a numerator over a positive denominator. -/
def finiteRatio : JsNum → Int × Nat
  | .int n => (n, 1)
  | .frac x => (x.num, 2 ^ (x.exp + 1))
  | _ => (0, 1)

/- `a < b` on finite numbers, by their exact values. -/
def finiteLt (a b : JsNum) : Bool :=
  (finiteRatio a).1 * (finiteRatio b).2 < (finiteRatio b).1 * (finiteRatio a).2

------------------------------------------------------------
-- Number Characters
------------------------------------------------------------

/- A character of a number text: a digit, a point, an exponent mark, a sign, or a letter of a name. -/
def NumberChar (c : Char) : Prop :=
  c.isDigit = true ∨ c ∈ ".e+-InfityNa".toList

theorem numberChar_of_mem_toDigits {n : Nat} {c : Char} (hc : c ∈ Nat.toDigits 10 n) :
    NumberChar c :=
  .inl (isDigit_toDigitsCore _ _ (by simp) c hc)

theorem numberChar_of_mem_intText {i : Int} {c : Char} (hc : c ∈ (toString i).data) :
    NumberChar c := by
  cases i with
  | ofNat m => exact numberChar_of_mem_toDigits hc
  | negSucc m =>
      have hText : (toString (Int.negSucc m)).data = '-' :: (toString (m + 1)).data := by
        simp [toString, Int.repr]
      rw [hText, List.mem_cons] at hc
      rcases hc with rfl | hc
      · exact .inr (by decide)
      · exact numberChar_of_mem_toDigits hc

theorem numberChar_of_mem_literal {t : String} {c : Char} (hText : t.data ⊆ ".e+-InfityNa".toList)
    (hc : c ∈ t.data) : NumberChar c :=
  .inr (hText hc)

/- A text made of its digits, points, zeros and an exponent has only number characters. -/
theorem decimalText_chars (s k : Nat) (n : Int) :
    ∀ c ∈ (decimalText s k n).data, NumberChar c := by
  have hDigits : ∀ c ∈ Nat.toDigits 10 s, NumberChar c := fun c hc => numberChar_of_mem_toDigits hc
  have hZero : ∀ m, ∀ c ∈ List.replicate m '0', NumberChar c := by
    intro m c hc
    rw [List.eq_of_mem_replicate hc]
    exact .inl rfl
  have hPoint : NumberChar '.' := .inr (by decide)
  unfold decimalText
  dsimp only
  split_ifs
  · simp only [List.mem_append]
    rintro c (hc | hc)
    exacts [hDigits c hc, hZero _ c hc]
  · simp only [List.mem_append, List.mem_cons]
    rintro c (hc | rfl | hc)
    exacts [hDigits c (List.mem_of_mem_take hc), hPoint, hDigits c (List.mem_of_mem_drop hc)]
  · simp only [List.mem_cons, List.mem_append]
    rintro c ((rfl | rfl | hc) | hc)
    exacts [.inl rfl, hPoint, hZero _ c hc, hDigits c hc]
  · have hMantissa : ∀ c ∈ pointAfterFirst (Nat.toDigits 10 s), NumberChar c := by
      unfold pointAfterFirst
      split
      · rename_i d rest _ hSplit
        simp only [List.mem_cons]
        rintro c (rfl | rfl | hc)
        exacts [hDigits c (by simp [hSplit]), hPoint, hDigits c (by simp [hSplit, hc])]
      · exact hDigits
    simp only [String.data_append, List.mem_append]
    rintro c (((hc | hc) | hc) | hc)
    · exact hMantissa c hc
    · exact numberChar_of_mem_literal (by decide) hc
    · exact numberChar_of_mem_literal (by unfold exponentSign; split <;> decide) hc
    · exact numberChar_of_mem_toDigits hc

theorem finiteText_chars (neg : Bool) (a b : Nat) :
    ∀ c ∈ (finiteText neg a b).data, NumberChar c := by
  unfold finiteText signText
  simp only [String.data_append, List.mem_append]
  rintro c (hc | hc)
  · exact numberChar_of_mem_literal (by split <;> decide) hc
  · exact decimalText_chars _ _ _ c hc

/- Every number prints as digits, a point, an exponent mark, signs or the letters of a name. -/
theorem toStr_chars (x : JsNum) : ∀ c ∈ x.toStr.data, NumberChar c := by
  have hInfinity : ∀ negative : Bool, ∀ c ∈ (signText negative ++ "Infinity").data,
      NumberChar c := fun negative c hc =>
    numberChar_of_mem_literal (by unfold signText; split <;> decide) hc
  cases x with
  | int n =>
      intro c hc
      simp only [toStr] at hc
      split at hc
      · exact numberChar_of_mem_intText hc
      · split at hc
        · exact finiteText_chars _ _ _ c hc
        · exact hInfinity _ c hc
  | frac x => exact finiteText_chars _ _ _
  | nan => exact fun c hc => numberChar_of_mem_literal (by decide) hc
  | inf negative => exact hInfinity negative

example : toStr (.frac ⟨1, 1, by decide, by decide, by decide⟩) = "0.25" := by decide

example : toStr (.int (2 ^ 60)) = "1152921504606847000" := by decide

example : toStr (.int (2 ^ 53 + 1)) = "9007199254740992" := by decide

end JsNum

end PanelExport
