import PanelExport.Js.Number

/-
  String conversion, equality and `ToNumber` of JavaScript values.

  `JsVal.toStr` is the `ToString` the exporters apply through
  template literals, `String(v)` and `Array.prototype.join`; a
  number is printed by `Number::toString`.  An object is printed as
  `[object Object]`; one with an own `toString` data property
  cannot be converted (its `toString` is not callable and `valueOf`
  returns the object itself), so conversion raises a `TypeError`.
  `StringToNumber` reads a decimal literal with a fraction and an
  exponent, a `0x`, `0o` or `0b` integer, or `Infinity`, rounded to
  the nearest double.

  Main declarations:
    * `JsVal.toStr`, `JsVal.join`
    * `JsVal.strictEq`, `JsVal.sameValueZero`
    * `JsVal.stringToNumber`, `JsVal.toNumber`, `JsVal.loopCount`
-/

namespace PanelExport

------------------------------------------------------------
-- ToString
------------------------------------------------------------

namespace JsVal

mutual

/- `ToString`, as used by `String(v)` and template literals. -/
def toStr : JsVal → Except JsError String
  | .undefined => .ok "undefined"
  | .null => .ok "null"
  | .bool b => .ok (toString b)
  | .num n => .ok n.toStr
  | .str s => .ok s
  | .arr items => do
      let parts ← elementStrs items
      pure (",".intercalate parts)
  | .obj props =>
      if props.any (·.1 == "toString") then .error .typeError
      else .ok "[object Object]"
  | .builtin name => .ok ("function " ++ name ++ "() { [native code] }")

/- The element texts `join` glues: empty for `null` and `undefined`. -/
def elementStrs : List JsVal → Except JsError (List String)
  | [] => .ok []
  | v :: vs => do
      let first ← if v.isNullish then pure "" else v.toStr
      let rest ← elementStrs vs
      pure (first :: rest)

end

/- `Array.prototype.join(sep)`. -/
def join (sep : String) (items : List JsVal) : Except JsError String := do
  let parts ← elementStrs items
  pure (sep.intercalate parts)

/- Values compared by value rather than by reference. -/
def isPrimitive : JsVal → Bool
  | .arr _ => false
  | .obj _ => false
  | .builtin _ => false
  | _ => true

/-
  Strict equality `===` on primitives; callers decide reference
  equality of objects themselves.
-/
def strictEq : JsVal → JsVal → Bool
  | .undefined, .undefined => true
  | .null, .null => true
  | .bool a, .bool b => a == b
  | .num a, .num b => a.strictEq b
  | .str a, .str b => a == b
  | _, _ => false

/- `SameValueZero` on primitives. -/
def sameValueZero : JsVal → JsVal → Bool
  | .num a, .num b => a.sameValueZero b
  | a, b => strictEq a b

@[simp] theorem toStr_str (s : String) :
    (JsVal.str s).toStr = .ok s := rfl

/- `v[key]` with a computed key: the key is converted to text. -/
def getComputed (v key : JsVal) : Except JsError JsVal := do
  let text ← key.toStr
  v.get text

------------------------------------------------------------
-- ToNumber and Iteration
------------------------------------------------------------

/- The value of a run of decimal digits. -/
def digitsValue (cs : List Char) : Nat :=
  cs.foldl (fun n c => 10 * n + (c.toNat - 48)) 0

/- A nonempty run of decimal digits, as its value. -/
def digitRun (cs : List Char) : Option Nat :=
  if cs ≠ [] ∧ cs.all Char.isDigit then some (digitsValue cs) else none

/- The value of an `ExponentPart` `e±ddd`, `0` when there is none. -/
def exponentPart : List Char → Option Int
  | [] => some 0
  | c :: rest =>
      if c = 'e' ∨ c = 'E' then
        match rest with
        | '+' :: ds => (digitRun ds).map Int.ofNat
        | '-' :: ds => (digitRun ds).map fun x => -(x : Int)
        | ds => (digitRun ds).map Int.ofNat
      else none

/-
  `𝔽(±m × 10^p)`.  From `10^309` on the value is past the largest
  double, and below `10^-324` it rounds to zero, so those exponents
  are settled without computing the power.
-/
def roundDecimal (neg : Bool) (m : Nat) (p : Int) : JsNum :=
  if m = 0 then .int 0
  else if 309 ≤ p then .inf neg
  else if (Nat.toDigits 10 m).length + p ≤ -324 then .int 0
  else JsNum.round neg (m * 10 ^ p.toNat) (10 ^ (-p).toNat)

/-
  `StrUnsignedDecimalLiteral` with its sign: `Infinity`, or digits
  with an optional fraction after a point (at least one digit in
  all) and an optional exponent.
-/
def unsignedDecimal (neg : Bool) (cs : List Char) : Option JsNum :=
  if cs = "Infinity".toList then some (.inf neg)
  else
    let whole := cs.takeWhile Char.isDigit
    let (fraction, rest) :=
      match cs.dropWhile Char.isDigit with
      | '.' :: ds => (ds.takeWhile Char.isDigit, ds.dropWhile Char.isDigit)
      | ds => ([], ds)
    if whole = [] ∧ fraction = [] then none
    else (exponentPart rest).map fun x =>
      roundDecimal neg (digitsValue (whole ++ fraction)) (x - fraction.length)

/- The value of a digit in bases up to 16. -/
def hexDigitValue (c : Char) : Option Nat :=
  if c.isDigit then some (c.toNat - 48)
  else if 'a' ≤ c ∧ c ≤ 'f' then some (c.toNat - 87)
  else if 'A' ≤ c ∧ c ≤ 'F' then some (c.toNat - 55)
  else none

/- The base a `NonDecimalIntegerLiteral` prefix `0x`, `0o` or `0b` names. -/
def literalBase (c : Char) : Option Nat :=
  if c = 'x' ∨ c = 'X' then some 16
  else if c = 'o' ∨ c = 'O' then some 8
  else if c = 'b' ∨ c = 'B' then some 2
  else none

/- A `NonDecimalIntegerLiteral`, rounded to the nearest double. -/
def nonDecimal : List Char → Option JsNum
  | '0' :: c :: ds => do
      let base ← literalBase c
      let values ← ds.mapM fun d => (hexDigitValue d).filter (· < base)
      if values = [] then none
      else some (JsNum.round false (values.foldl (fun n v => base * n + v) 0) 1)
  | _ => none

/-
  `StringToNumber`: blank text is `0`; otherwise, between white
  space, a signed decimal literal or an unsigned non-decimal one,
  and anything else `NaN`.
-/
def stringToNumber (s : String) : JsNum :=
  match ((s.toList.dropWhile isJsSpace).reverse.dropWhile isJsSpace).reverse with
  | [] => .int 0
  | '-' :: cs => (unsignedDecimal true cs).getD .nan
  | '+' :: cs => (unsignedDecimal false cs).getD .nan
  | cs => (nonDecimal cs <|> unsignedDecimal false cs).getD .nan

example : stringToNumber " 2.5e-1 " = .frac ⟨1, 1, by decide, by decide, by decide⟩ := by decide

example : stringToNumber "0x1F" = .int 31 ∧ stringToNumber "-.5" = .frac ⟨-1, 0, by decide, by decide, by decide⟩ := by
  decide

/- `ToNumber`, objects going through their text. -/
def toNumber (v : JsVal) : Except JsError JsNum :=
  match v with
  | .undefined => .ok .nan
  | .null => .ok (.int 0)
  | .bool b => .ok (.int (if b then 1 else 0))
  | .num n => .ok n
  | .str s => .ok (stringToNumber s)
  | _ => stringToNumber <$> v.toStr

/-
  The iterations of `for (let i = 0; i < bound; i++)`: the
  indices below the bound (up to a fractional bound's ceiling),
  none for `NaN`, and a loop that never ends for `+Infinity`.
-/
def loopCount (bound : JsVal) : Except JsError Nat := do
  match ← toNumber bound with
  | .int n => pure n.toNat
  | .frac x => pure (if 0 < x.num then x.num.toNat / 2 ^ (x.exp + 1) + 1 else 0)
  | .inf false => .error .nonTermination
  | _ => pure 0

/- The elements `for (const x of v)` visits: a `TypeError` unless iterable. -/
def iterate : JsVal → Except JsError (List JsVal)
  | .arr items => .ok items
  | .str s => .ok (chars s)
  | _ => .error .typeError

------------------------------------------------------------
-- Array Methods
------------------------------------------------------------

/- The callback results of `map` over the elements from index `i`. -/
def mapFrom
    (f : Nat → JsVal → Except JsError JsVal) :
    Nat → List JsVal → Except JsError (List JsVal)
  | _, [] => .ok []
  | i, v :: vs => do
      let first ← f i v
      let rest ← mapFrom f (i + 1) vs
      pure (first :: rest)

/-
  The results of `v.map(f)`: only arrays have a callable `map`; on
  anything else the call is a `TypeError`.
-/
def mapArray
    (v : JsVal)
    (f : Nat → JsVal → Except JsError JsVal) :
    Except JsError (List JsVal) :=
  match v with
  | .arr items => mapFrom f 0 items
  | _ => .error .typeError

/- `v.map(f)` as the array it returns. -/
def callMap
    (v : JsVal)
    (f : Nat → JsVal → Except JsError JsVal) :
    Except JsError JsVal :=
  .arr <$> mapArray v f

/- `v.some(p)`, stopping at the first element that passes. -/
def callSome
    (v : JsVal)
    (p : JsVal → Except JsError Bool) :
    Except JsError Bool :=
  match v with
  | .arr items => items.anyM p
  | _ => .error .typeError

/- `v.every(p)`, stopping at the first element that fails. -/
def callEvery
    (v : JsVal)
    (p : JsVal → Except JsError Bool) :
    Except JsError Bool :=
  match v with
  | .arr items => items.allM p
  | _ => .error .typeError

end JsVal

------------------------------------------------------------
-- Plain Objects and Sorting
------------------------------------------------------------

/- Own properties of a plain object built by assignment. -/
abbrev Props :=
  List (String × JsVal)

/- `obj[key] = v`: replace the property in place, else append it. -/
def setProp (props : Props) (key : String) (v : JsVal) : Props :=
  if props.any (·.1 == key) then
    props.map fun p => if p.1 = key then (key, v) else p
  else props ++ [(key, v)]

/-
  `result[key] ??= {}; result[key][column] = v` on an object of
  row objects.
-/
def setCell
    (rows : List (String × Props))
    (key column : String)
    (v : JsVal) :
    List (String × Props) :=
  if rows.any (·.1 == key) then
    rows.map fun r => if r.1 = key then (key, setProp r.2 column v) else r
  else rows ++ [(key, [(column, v)])]

/- The UTF-16 code units of a character. -/
def codeUnits (c : Char) : List Nat :=
  if c.toNat < 65536 then [c.toNat]
  else [55296 + (c.toNat - 65536) / 1024, 56320 + (c.toNat - 65536) % 1024]

/- The UTF-16 code units of a string, the order `sort()` compares. -/
def utf16 (s : String) : List Nat :=
  s.toList.flatMap codeUnits

/-
  `Array.prototype.sort()` without a comparator, on strings: code
  units compared in order, a proper prefix first.
-/
def sortStrings (keys : List String) : List String :=
  keys.insertionSort fun a b => ¬ @LT.lt (List Nat) List.instLT (utf16 b) (utf16 a)

end PanelExport
