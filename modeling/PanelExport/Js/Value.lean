import Mathlib.Data.List.Sort
import Mathlib.Data.Nat.Digits

/-
  JavaScript values as the panel export code receives them.

  Query payloads reach the classifiers and exporters as untyped
  values (`any` in the source), so the model works over one
  inductive of JavaScript values.  A finite number is an integer
  or a `Fraction`, a double with a fractional part in lowest
  terms; `-0` is not told apart from `0`, as nothing the exporters
  do can tell them apart.  Objects are lists of own properties in
  insertion order.  A built-in method reached through a prototype
  is a `builtin` value carrying its name.  Every operation that
  JavaScript can abort returns `Except JsError`.

  Main declarations:
    * `Fraction`, `JsNum`, `JsVal`, `JsError`
    * `JsVal.truthy`, `JsVal.typeOf`, `JsVal.orElse`, `JsVal.ifNullish`
    * `JsVal.get` (property read) and `JsVal.has` (the `in` operator)
    * `JsVal.ownKeys` (`Object.keys`)
-/

------------------------------------------------------------
-- Values
------------------------------------------------------------

namespace PanelExport

/-
  The ways a modelled computation can fail to return: the four
  exceptions it can raise, and a loop that never ends.  A
  `ReferenceError` is what reading an identifier that no import
  or declaration binds raises.
-/
inductive JsError where
  | typeError
  | rangeError
  | uriError
  | referenceError
  | nonTermination
deriving DecidableEq, Repr

/-
  A finite double with a fractional part: `num / 2 ^ (exp + 1)`
  in lowest terms.  An odd numerator of at most 53 bits over a
  power of two no finer than `2^-1074` is exactly what a double
  with a fractional part holds, normal or subnormal.
-/
structure Fraction where
  num : Int
  exp : Nat
  num_odd : num % 2 = 1
  num_lt : num.natAbs < 2 ^ 53
  exp_lt : exp < 1074
deriving DecidableEq, Repr

/-
  A JavaScript number: an integer, a fraction, `NaN`, or an
  infinity.  Integers are not bounded: one beyond `2^53` that no
  double holds stands for the double nearest it, which is how
  `JsNum.toStr` prints it.
-/
inductive JsNum where
  | int (n : Int)
  | frac (x : Fraction)
  | nan
  | inf (negative : Bool)
deriving DecidableEq, Repr

/- A JavaScript value. -/
inductive JsVal where
  | undefined
  | null
  | bool (b : Bool)
  | num (n : JsNum)
  | str (s : String)
  | arr (items : List JsVal)
  | obj (props : List (String × JsVal))
  | builtin (name : String)
deriving Repr

/- The default value is `undefined`, what a missing property reads as. -/
instance : Inhabited JsVal :=
  ⟨.undefined⟩

------------------------------------------------------------
-- Except Computations
------------------------------------------------------------

section Except

variable {ε α β : Type}

@[simp] theorem except_pure (a : α) : (pure a : Except ε α) = .ok a := rfl

@[simp] theorem except_ok_bind (a : α) (f : α → Except ε β) :
    (Except.ok a >>= f) = f a := rfl

@[simp] theorem except_error_bind (e : ε) (f : α → Except ε β) :
    (Except.error e >>= f) = .error e := rfl

@[simp] theorem except_map_ok (f : α → β) (a : α) :
    (f <$> (Except.ok a : Except ε α)) = .ok (f a) := rfl

@[simp] theorem except_map_error (f : α → β) (e : ε) :
    (f <$> (Except.error e : Except ε α)) = .error e := rfl

@[simp] theorem except_bind_ok (x : Except ε α) : (x >>= Except.ok) = x := by
  cases x <;> rfl

@[simp] theorem except_map_eq_error (f : α → β) (x : Except ε α) (e : ε) :
    (f <$> x) = .error e ↔ x = .error e := by
  cases x <;> simp [Functor.map, Except.map]

/- `mapM` over elements on which the callback returns. -/
theorem except_mapM_eq_ok {f : α → Except ε β} {g : α → β} {l : List α}
    (hReturns : ∀ x ∈ l, f x = .ok (g x)) :
    l.mapM f = .ok (l.map g) := by
  induction l with
  | nil => rfl
  | cons x l ih =>
      rw [List.mapM_cons, hReturns x (List.mem_cons_self x l),
        ih fun y hy => hReturns y (List.mem_cons_of_mem x hy)]
      rfl

/- `mapM` over the images of elements on which the callback returns. -/
theorem except_mapM_map_eq_ok {γ : Type} {f : α → β} {g : β → Except ε γ} {h : α → γ} {l : List α}
    (hReturns : ∀ x ∈ l, g (f x) = .ok (h x)) :
    (l.map f).mapM g = .ok (l.map h) := by
  induction l with
  | nil => rfl
  | cons x l ih =>
      rw [List.map_cons, List.mapM_cons, hReturns x (List.mem_cons_self x l),
        ih fun y hy => hReturns y (List.mem_cons_of_mem x hy)]
      rfl

/- `mapM` over elements on which the callback returns some related value. -/
theorem except_mapM_forall₂ {f : α → Except ε β} {P : α → β → Prop} {l : List α}
    (hReturns : ∀ x ∈ l, ∃ y, f x = .ok y ∧ P x y) :
    ∃ ys, l.mapM f = .ok ys ∧ List.Forall₂ P l ys := by
  induction l with
  | nil => exact ⟨[], rfl, .nil⟩
  | cons x l ih =>
      obtain ⟨y, hy, hP⟩ := hReturns x (List.mem_cons_self x l)
      obtain ⟨ys, hys, hPs⟩ := ih fun z hz => hReturns z (List.mem_cons_of_mem x hz)
      exact ⟨y :: ys, by rw [List.mapM_cons, hy, hys]; rfl, .cons hP hPs⟩

/- `mapM` over elements on which the callback returns a value with property `P`. -/
theorem except_mapM_forall {f : α → Except ε β} {P : β → Prop} {l : List α}
    (hReturns : ∀ x ∈ l, ∃ y, f x = .ok y ∧ P y) :
    ∃ ys, l.mapM f = .ok ys ∧ ∀ y ∈ ys, P y := by
  obtain ⟨ys, hys, hAll⟩ := except_mapM_forall₂ (P := fun _ y => P y) hReturns
  refine ⟨ys, hys, ?_⟩
  clear hys hReturns
  induction hAll with
  | nil => simp
  | cons hHead _ ih => simpa [hHead] using ih

/- A bind returns exactly when both of its steps return. -/
theorem except_bind_eq_ok {x : Except ε α} {f : α → Except ε β} {b : β} :
    (x >>= f) = .ok b ↔ ∃ a, x = .ok a ∧ f a = .ok b := by
  cases x <;> simp

/- A `mapM` that returns has returned on every element. -/
theorem except_mapM_ok_mem {f : α → Except ε β} {l : List α} {ys : List β}
    (hRun : l.mapM f = .ok ys) {x : α} (hx : x ∈ l) : ∃ y, f x = .ok y := by
  induction l generalizing ys with
  | nil => cases hx
  | cons a l ih =>
      rw [List.mapM_cons] at hRun
      obtain ⟨b, hb, hRest⟩ := except_bind_eq_ok.1 hRun
      obtain ⟨bs, hbs, -⟩ := except_bind_eq_ok.1 hRest
      rcases List.mem_cons.1 hx with rfl | hx
      · exact ⟨b, hb⟩
      · exact ih hbs hx

end Except

namespace JsVal

/- Integer literal shorthand used by the tests. -/
def int (n : Int) : JsVal :=
  .num (.int n)

/- JavaScript truthiness. -/
def truthy : JsVal → Bool
  | .undefined => false
  | .null => false
  | .bool b => b
  | .num (.int n) => n != 0
  | .num .nan => false
  | .num (.inf _) => true
  | .str s => !s.isEmpty
  | _ => true

/- The `typeof` operator. -/
def typeOf : JsVal → String
  | .undefined => "undefined"
  | .null => "object"
  | .bool _ => "boolean"
  | .num _ => "number"
  | .str _ => "string"
  | .arr _ => "object"
  | .obj _ => "object"
  | .builtin _ => "function"

/- `Array.isArray`. -/
def isArray : JsVal → Bool
  | .arr _ => true
  | _ => false

/- `null` or `undefined`. -/
def isNullish : JsVal → Bool
  | .undefined => true
  | .null => true
  | _ => false

/- The `||` operator: the left value when truthy. -/
def orElse (a b : JsVal) : JsVal :=
  if a.truthy then a else b

/- The `??` operator: the left value unless nullish. -/
def ifNullish (a b : JsVal) : JsVal :=
  if a.isNullish then b else a

@[simp] theorem truthy_str (s : String) :
    (JsVal.str s).truthy = !s.isEmpty := rfl

@[simp] theorem truthy_arr (items : List JsVal) :
    (JsVal.arr items).truthy = true := rfl

@[simp] theorem truthy_obj (props : List (String × JsVal)) :
    (JsVal.obj props).truthy = true := rfl

end JsVal

------------------------------------------------------------
-- White Space
------------------------------------------------------------

/-
  `WhiteSpace` and `LineTerminator`: the code points `trim` removes
  and `StringToNumber` skips around a number.
-/
def isJsSpace (c : Char) : Bool :=
  [0x09, 0x0B, 0x0C, 0x20, 0xA0, 0x1680, 0x202F, 0x205F, 0x3000, 0xFEFF,
    0x0A, 0x0D, 0x2028, 0x2029].contains c.toNat || (0x2000 ≤ c.toNat && c.toNat ≤ 0x200A)

------------------------------------------------------------
-- Prototype Members
------------------------------------------------------------

/- Members every object inherits from `Object.prototype`. -/
def objectProtoNames : List String :=
  ["constructor", "__defineGetter__", "__defineSetter__",
    "hasOwnProperty", "__lookupGetter__", "__lookupSetter__",
    "isPrototypeOf", "propertyIsEnumerable", "toString",
    "valueOf", "__proto__", "toLocaleString"]

/- Members arrays inherit from `Array.prototype`. -/
def arrayProtoNames : List String :=
  ["at", "concat", "copyWithin", "entries", "every", "fill",
    "filter", "find", "findIndex", "findLast", "findLastIndex",
    "flat", "flatMap", "forEach", "includes", "indexOf", "join",
    "keys", "lastIndexOf", "map", "pop", "push", "reduce",
    "reduceRight", "reverse", "shift", "slice", "some", "sort",
    "splice", "toReversed", "toSorted", "toSpliced", "unshift",
    "values", "with"]

/- Members strings inherit from `String.prototype`. -/
def stringProtoNames : List String :=
  ["anchor", "at", "big", "blink", "bold", "charAt",
    "charCodeAt", "codePointAt", "concat", "endsWith", "fixed",
    "fontcolor", "fontsize", "includes", "indexOf",
    "isWellFormed", "italics", "lastIndexOf", "link",
    "localeCompare", "match", "matchAll", "normalize", "padEnd",
    "padStart", "repeat", "replace", "replaceAll", "search",
    "slice", "small", "split", "startsWith", "strike", "sub",
    "substr", "substring", "sup", "toLocaleLowerCase",
    "toLocaleUpperCase", "toLowerCase", "toUpperCase",
    "toWellFormed", "trim", "trimEnd", "trimLeft", "trimRight",
    "trimStart"]

/- Members numbers inherit from `Number.prototype`. -/
def numberProtoNames : List String :=
  ["toExponential", "toFixed", "toPrecision"]

/- Members functions inherit from `Function.prototype`. -/
def functionProtoNames : List String :=
  ["apply", "bind", "call"]

/-
  The prototype chain's own names for a value, `Object.prototype`
  last; `null` and `undefined` have none.
-/
def JsVal.protoNames : JsVal → List String
  | .undefined => []
  | .null => []
  | .arr _ => arrayProtoNames ++ objectProtoNames
  | .str _ => stringProtoNames ++ objectProtoNames
  | .num _ => numberProtoNames ++ objectProtoNames
  | .builtin _ => functionProtoNames ++ objectProtoNames
  | _ => objectProtoNames

------------------------------------------------------------
-- Property Access
------------------------------------------------------------

/-
  The canonical array index a property key denotes: the decimal
  form of a number below `2^32 - 1`, without leading zeros.
-/
def arrayIndex? (key : String) : Option Nat :=
  let n := key.toList.foldl (fun acc c => 10 * acc + (c.toNat - 48)) 0
  if Nat.toDigits 10 n = key.toList ∧ n < 4294967295 then some n
  else none

namespace JsVal

/- The constructor whose prototype a value inherits from. -/
def constructorName : JsVal → String
  | .arr _ => "Array"
  | .str _ => "String"
  | .num _ => "Number"
  | .bool _ => "Boolean"
  | .builtin _ => "Function"
  | _ => "Object"

/-
  The prototype `v.__proto__` reads; the wrapper objects of
  primitives are read as their primitive defaults.
-/
def protoObject : JsVal → JsVal
  | .arr _ => .arr []
  | .str _ => .str ""
  | .num _ => .num (.int 0)
  | .bool _ => .bool false
  | .builtin _ => .builtin ""
  | _ => .obj []

/- The value a prototype member read yields, when `key` names one. -/
def inherited (v : JsVal) (key : String) : JsVal :=
  if key ∉ v.protoNames then .undefined
  else if key = "constructor" then .builtin v.constructorName
  else if key = "__proto__" then v.protoObject
  else .builtin key

/- Own indexed or length property of an array or a string. -/
def indexed (items : List JsVal) (key : String) : Option JsVal :=
  if key = "length" then some (.int items.length)
  else (arrayIndex? key).bind items.get?

/- The characters of a string as one-character strings. -/
def chars (s : String) : List JsVal :=
  s.toList.map fun c => .str c.toString

/-
  Property read `v[key]`: own property first, then the prototype
  chain; reading from `null` or `undefined` is a `TypeError`.
-/
def get (v : JsVal) (key : String) : Except JsError JsVal :=
  match v with
  | .undefined => .error .typeError
  | .null => .error .typeError
  | .obj props => .ok ((props.lookup key).getD (v.inherited key))
  | .arr items => .ok ((indexed items key).getD (v.inherited key))
  | .str s => .ok ((indexed (chars s) key).getD (v.inherited key))
  | .builtin name =>
      .ok (if key = "name" then .str name else v.inherited key)
  | _ => .ok (v.inherited key)

/- Optional chaining `v?.[key]`: `undefined` on a nullish base. -/
def getOpt (v : JsVal) (key : String) : Except JsError JsVal :=
  if v.isNullish then .ok .undefined else v.get key

/-
  The `in` operator `key in v`: own or inherited property; a
  `TypeError` unless `v` is an object.
-/
def has (v : JsVal) (key : String) : Except JsError Bool :=
  match v with
  | .obj props =>
      .ok (props.any (·.1 == key) || key ∈ v.protoNames)
  | .arr items =>
      .ok ((indexed items key).isSome || key ∈ v.protoNames)
  | .builtin _ =>
      .ok (key = "name" || key = "length" || key ∈ v.protoNames)
  | _ => .error .typeError

/- The keys of an object in `Object.keys` order. -/
def orderKeys (keys : List String) : List String :=
  ((keys.filterMap arrayIndex?).insertionSort (· ≤ ·)).map toString ++
    keys.filter fun key => (arrayIndex? key).isNone

/- `Object.keys`: a `TypeError` on `null` and `undefined`. -/
def ownKeys : JsVal → Except JsError (List String)
  | .undefined => .error .typeError
  | .null => .error .typeError
  | .obj props => .ok (orderKeys (props.map Prod.fst))
  | .arr items => .ok ((List.range items.length).map toString)
  | .str s => .ok ((List.range s.length).map toString)
  | _ => .ok []

/- `Object.entries` on an object with own properties `props`. -/
def entries (props : List (String × JsVal)) : List (String × JsVal) :=
  (orderKeys (props.map Prod.fst)).map fun key =>
    (key, (props.lookup key).getD .undefined)

section OwnProperty

variable {props : List (String × JsVal)} {key : String} {v : JsVal}

/- A key `lookup` finds is the key of some own property. -/
theorem any_key_of_lookup (hFound : props.lookup key = some v) :
    props.any (·.1 == key) = true := by
  induction props with
  | nil => simp at hFound
  | cons p rest ih =>
      obtain ⟨k, b⟩ := p
      by_cases hKey : key = k
      · simp [hKey]
      · have hRest : rest.lookup key = some v := by
          simpa [List.lookup_cons, beq_eq_false_iff_ne.2 hKey] using hFound
        simp [ih hRest]

/- Reading an own property of an object. -/
theorem get_obj_of_lookup (hFound : props.lookup key = some v) :
    (JsVal.obj props).get key = .ok v := by
  simp [get, hFound]

/- `in` finds an own property of an object. -/
theorem has_obj_of_lookup (hFound : props.lookup key = some v) :
    (JsVal.obj props).has key = .ok true := by
  simp [has, any_key_of_lookup hFound]

/- `in` misses a key an object neither owns nor inherits. -/
theorem has_obj_of_lookup_none (hNone : props.lookup key = none) (hProto : key ∉ objectProtoNames) :
    (JsVal.obj props).has key = .ok false := by
  rw [List.lookup_eq_none_iff] at hNone
  simp only [has, protoNames, hProto, decide_False, Bool.or_false, Except.ok.injEq,
    List.any_eq_false, beq_iff_eq]
  exact fun p hp hKey => by simpa [hKey] using hNone p hp

/- Reading a key an object neither owns nor inherits. -/
theorem get_obj_of_lookup_none (hNone : props.lookup key = none) (hProto : key ∉ objectProtoNames) :
    (JsVal.obj props).get key = .ok .undefined := by
  simp [get, hNone, inherited, protoNames, hProto]

end OwnProperty

end JsVal

------------------------------------------------------------
-- Decimal Keys
------------------------------------------------------------

/- The digit characters `Nat.toDigits` writes, and their values. -/
theorem digitChar_toNat : ∀ d < 10, (Nat.digitChar d).toNat - 48 = d := by decide

theorem digitChar_isDigit : ∀ d < 10, (Nat.digitChar d).isDigit = true := by decide

/- Reading back the digits `Nat.toDigits` writes gives the number. -/
theorem foldl_toDigitsCore (fuel n : Nat) (ds : List Char) (hFuel : n < fuel) :
    (Nat.toDigitsCore 10 fuel n ds).foldl (fun acc c => 10 * acc + (c.toNat - 48)) 0 =
      ds.foldl (fun acc c => 10 * acc + (c.toNat - 48)) n := by
  induction fuel generalizing n ds with
  | zero => omega
  | succ fuel ih =>
      unfold Nat.toDigitsCore
      dsimp only
      have hDigit := digitChar_toNat (n % 10) (Nat.mod_lt n (by decide))
      split
      · have hSmall : n % 10 = n := Nat.mod_eq_of_lt (by omega)
        simp only [List.foldl_cons, Nat.mul_zero, Nat.zero_add]
        rw [hDigit, hSmall]
      · rw [ih (n / 10) _ (by omega)]
        simp [hDigit, Nat.div_add_mod n 10]

/- Decimal texts of distinct numbers differ. -/
theorem toString_injective {a b : Nat} (hEq : toString a = toString b) : a = b := by
  have hA := foldl_toDigitsCore (a + 1) a [] (by omega)
  have hB := foldl_toDigitsCore (b + 1) b [] (by omega)
  have hData : Nat.toDigits 10 a = Nat.toDigits 10 b := by
    simpa [toString, Nat.repr, List.asString] using congrArg String.data hEq
  simp only [List.foldl_nil] at hA hB
  rw [← hA, ← hB]
  exact congrArg _ hData

theorem isDigit_toDigitsCore (fuel n : Nat) {ds : List Char} (hDs : ∀ c ∈ ds, c.isDigit = true) :
    ∀ c ∈ Nat.toDigitsCore 10 fuel n ds, c.isDigit = true := by
  induction fuel generalizing n ds with
  | zero => simpa [Nat.toDigitsCore]
  | succ fuel ih =>
      have hCons : ∀ c ∈ Nat.digitChar (n % 10) :: ds, c.isDigit = true := by
        intro c hc
        rcases List.mem_cons.1 hc with rfl | hc
        · exact digitChar_isDigit (n % 10) (Nat.mod_lt n (by decide))
        · exact hDs c hc
      unfold Nat.toDigitsCore
      dsimp only
      split
      · exact hCons
      · exact ih _ hCons

/- The decimal text of an index below `2^32 - 1` is that array index. -/
theorem arrayIndex_toString {i : Nat} (hBound : i < 4294967295) :
    arrayIndex? (toString i) = some i := by
  have hParse := foldl_toDigitsCore (i + 1) i [] (by omega)
  simp only [List.foldl_nil] at hParse
  simp [arrayIndex?, toString, Nat.repr, Nat.toDigits, List.asString, hParse, hBound]

theorem isDigit_toString (i : Nat) : ∀ c ∈ (toString i).data, c.isDigit = true :=
  isDigit_toDigitsCore _ _ (by simp)

/- No prototype member is named by decimal digits. -/
theorem protoNames_not_decimal (v : JsVal) :
    ∀ name ∈ v.protoNames, name.data.all Char.isDigit = false := by
  cases v <;> simp only [JsVal.protoNames] <;> decide

theorem toString_not_protoName (v : JsVal) (i : Nat) : toString i ∉ v.protoNames := by
  intro hMem
  have hAll : (toString i).data.all Char.isDigit = true := List.all_eq_true.2 (isDigit_toString i)
  rw [protoNames_not_decimal v _ hMem] at hAll
  exact Bool.false_ne_true hAll

/- `a[i]` for an index in decimal text: the element, or `undefined` past the end. -/
theorem get_arr_decimal (items : List JsVal) {i : Nat} (hBound : i < 4294967295) :
    (JsVal.arr items).get (toString i) = .ok (items.getD i .undefined) := by
  have hLength : toString i ≠ "length" := by
    intro h
    have hAll : (toString i).data.all Char.isDigit = true := List.all_eq_true.2 (isDigit_toString i)
    rw [h] at hAll
    exact absurd hAll (by decide)
  simp only [JsVal.get, JsVal.indexed, hLength, if_false, arrayIndex_toString hBound, Option.some_bind]
  cases hItem : items.get? i with
  | some item => simp [List.getD_eq_getElem?_getD, ← List.get?_eq_getElem?, hItem]
  | none => simp [List.getD_eq_getElem?_getD, ← List.get?_eq_getElem?, hItem, JsVal.inherited, toString_not_protoName]

------------------------------------------------------------
-- First Occurrences
------------------------------------------------------------

section FirstOccurrences

variable {α β : Type} [DecidableEq α] [DecidableEq β]

/- The loop of `eraseDups` keeps the values it was given and those it has kept. -/
theorem mem_eraseDups_loop {a : α} {l bs : List α} :
    a ∈ List.eraseDups.loop l bs ↔ a ∈ l ∨ a ∈ bs := by
  induction l generalizing bs with
  | nil => simp [List.eraseDups.loop]
  | cons b l ih =>
      unfold List.eraseDups.loop
      split
      · rename_i hElem
        have hB : b ∈ bs := by simpa using hElem
        rw [ih]
        simp only [List.mem_cons]
        constructor
        · tauto
        · rintro ((rfl | h) | h)
          · exact .inr hB
          · exact .inl h
          · exact .inr h
      · rw [ih]
        simp only [List.mem_cons]
        tauto

theorem mem_eraseDups {a : α} {l : List α} : a ∈ l.eraseDups ↔ a ∈ l := by
  simp [List.eraseDups, mem_eraseDups_loop]

theorem nodup_eraseDups_loop {l bs : List α} (hNodup : bs.Nodup) :
    (List.eraseDups.loop l bs).Nodup := by
  induction l generalizing bs with
  | nil => simpa [List.eraseDups.loop] using hNodup
  | cons b l ih =>
      unfold List.eraseDups.loop
      split
      · exact ih hNodup
      · rename_i hElem
        exact ih (List.nodup_cons.2 ⟨by simpa using hElem, hNodup⟩)

theorem nodup_eraseDups (l : List α) : l.eraseDups.Nodup :=
  nodup_eraseDups_loop List.nodup_nil

/- An injective map commutes with keeping first occurrences. -/
theorem eraseDups_loop_map
    (f : α → β)
    {l bs : List α}
    (hInj : ∀ a ∈ l ++ bs, ∀ b ∈ l ++ bs, f a = f b → a = b) :
    List.eraseDups.loop (l.map f) (bs.map f) = (List.eraseDups.loop l bs).map f := by
  induction l generalizing bs with
  | nil => simp [List.eraseDups.loop, List.map_reverse]
  | cons a l ih =>
      have hMem : (f a ∈ bs.map f) ↔ a ∈ bs := by
        rw [List.mem_map]
        constructor
        · rintro ⟨b, hB, hEq⟩
          rwa [hInj a (by simp) b (by simp [hB]) hEq.symm]
        · exact fun hA => ⟨a, hA, rfl⟩
      have hKept : ∀ x ∈ l ++ bs, x ∈ (a :: l) ++ bs := fun x hx => by
        simp only [List.mem_append, List.mem_cons] at hx ⊢
        tauto
      have hAdded : ∀ x ∈ l ++ a :: bs, x ∈ (a :: l) ++ bs := fun x hx => by
        simp only [List.mem_append, List.mem_cons] at hx ⊢
        tauto
      simp only [List.map_cons, List.eraseDups.loop, List.elem_eq_mem, hMem]
      split
      · exact ih fun x hx y hy => hInj x (hKept x hx) y (hKept y hy)
      · rw [← List.map_cons]
        exact ih fun x hx y hy => hInj x (hAdded x hx) y (hAdded y hy)

theorem eraseDups_map (f : α → β) {l : List α} (hInj : ∀ a ∈ l, ∀ b ∈ l, f a = f b → a = b) :
    (l.map f).eraseDups = l.eraseDups.map f :=
  @eraseDups_loop_map α β _ _ f l [] (by simpa using hInj)

/- On values it has not kept, the loop keeps every one of a list without repeats. -/
theorem eraseDups_loop_of_nodup {l bs : List α} (hNodup : l.Nodup) (hFresh : ∀ a ∈ l, a ∉ bs) :
    List.eraseDups.loop l bs = bs.reverse ++ l := by
  induction l generalizing bs with
  | nil => simp [List.eraseDups.loop]
  | cons a l ih =>
      have hA : bs.elem a = false := by simpa using hFresh a (List.mem_cons_self a l)
      rw [List.nodup_cons] at hNodup
      rw [List.eraseDups.loop, hA, @ih (a :: bs) hNodup.2 fun b hb hMem => ?_]
      · simp
      · rcases List.mem_cons.1 hMem with rfl | hMem
        · exact hNodup.1 hb
        · exact hFresh b (List.mem_cons_of_mem a hb) hMem

/- A list without repeats is its own first occurrences. -/
theorem eraseDups_of_nodup {l : List α} (hNodup : l.Nodup) : l.eraseDups = l := by
  simpa using (eraseDups_loop_of_nodup hNodup fun a _ => List.not_mem_nil a :
    List.eraseDups.loop l [] = _)

end FirstOccurrences

end PanelExport
