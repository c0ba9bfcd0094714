import PanelExport.Js.Value

/-
  `decodeURIComponent`, as the `Decode` operation of ECMA-262 with
  an empty set of preserved escapes.

  The loop reads one code unit at a time.  A `%` must start an
  escape of two hexadecimal digits; an octet of one leading 1 bit,
  or of more than four, is refused, and one of two to four starts a
  sequence whose remaining octets must each come as another escape
  and which, all read, must be the UTF-8 encoding of a code point.
  Every refusal throws `URIError`.  Text is a list of code points:
  a code point outside the basic plane is one character here where
  JavaScript has two code units, neither of which is `%`.

  Main declarations:
    * `parseHexOctet`, `utf8CodePoint`, `decodeFrom`
    * `decodeURIComponent`
    * `decodeURIComponent_plain`, `decodeURIComponent_error`
-/

------------------------------------------------------------
-- Octets
------------------------------------------------------------

namespace PanelExport

/- The value of a hexadecimal digit. -/
def hexDigit (c : Char) : Option Nat :=
  if '0' ≤ c ∧ c ≤ '9' then some (c.toNat - 48)
  else if 'a' ≤ c ∧ c ≤ 'f' then some (c.toNat - 87)
  else if 'A' ≤ c ∧ c ≤ 'F' then some (c.toNat - 55)
  else none

/- `ParseHexOctet`: the octet two hexadecimal digits denote. -/
def parseHexOctet (h l : Char) : Option Nat := do
  pure (16 * (← hexDigit h) + (← hexDigit l))

/- The number of leading 1 bits of an octet. -/
def leadingOnes (b : Nat) : Nat :=
  if b < 128 then 0 else if b < 192 then 1 else if b < 224 then 2 else if b < 240 then 3
  else if b < 248 then 4 else if b < 252 then 5 else if b < 254 then 6 else if b < 255 then 7
  else 8

/-
  The code point a valid UTF-8 encoding denotes: continuation
  octets `10xxxxxx`, and a value that needs every octet, is not a
  surrogate and is at most `U+10FFFF`.
-/
def utf8CodePoint : List Nat → Option Char
  | [] => none
  | lead :: rest =>
      let n := rest.length + 1
      let v := rest.foldl (fun acc b => 64 * acc + b % 64) (lead % 2 ^ (7 - n))
      if rest.all (fun b => 128 ≤ b ∧ b < 192) ∧
          ((n = 2 ∧ 128 ≤ v) ∨ (n = 3 ∧ 2048 ≤ v ∧ ¬ (55296 ≤ v ∧ v < 57344)) ∨
            (n = 4 ∧ 65536 ≤ v ∧ v < 1114112)) then
        some (Char.ofNat v)
      else none

------------------------------------------------------------
-- Decode
------------------------------------------------------------

/-
  The `Decode` loop from one code unit on: `octets` are those of
  a multi-byte escape read so far, `pending` the number still to
  come.
-/
def decodeFrom (octets : List Nat) (pending : Nat) : List Char → Except JsError (List Char)
  | [] => if pending = 0 then .ok [] else .error .uriError
  | c :: rest =>
      if c = '%' then
        match rest with
        | h :: l :: rest' =>
            match parseHexOctet h l with
            | none => .error .uriError
            | some b =>
                if pending = 0 then
                  if leadingOnes b = 0 then (Char.ofNat b :: ·) <$> decodeFrom [] 0 rest'
                  else if leadingOnes b = 1 ∨ 4 < leadingOnes b then .error .uriError
                  else decodeFrom [b] (leadingOnes b - 1) rest'
                else if pending = 1 then
                  match utf8CodePoint (octets ++ [b]) with
                  | some v => (v :: ·) <$> decodeFrom [] 0 rest'
                  | none => .error .uriError
                else decodeFrom (octets ++ [b]) (pending - 1) rest'
        | [_] => .error .uriError
        | [] => .error .uriError
      else if pending = 0 then (c :: ·) <$> decodeFrom [] 0 rest
      else .error .uriError

/- `decodeURIComponent(s)`. -/
def decodeURIComponent (s : String) : Except JsError String :=
  String.mk <$> decodeFrom [] 0 s.data

example : decodeURIComponent "a%20b%C3%A9" = .ok "a bé" := rfl

example : decodeURIComponent "%E0" = .error .uriError := rfl

/- A code unit other than `%` is copied, unless an escape sequence is cut short. -/
theorem decodeFrom_cons_of_ne {c : Char} (hNe : c ≠ '%') (octets : List Nat) (pending : Nat)
    (rest : List Char) :
    decodeFrom octets pending (c :: rest) =
      if pending = 0 then (c :: ·) <$> decodeFrom [] 0 rest else .error .uriError := by
  rw [decodeFrom.eq_def]
  simp [hNe]

/- Text without `%` decodes to itself. -/
theorem decodeFrom_plain {cs : List Char} (hPlain : '%' ∉ cs) : decodeFrom [] 0 cs = .ok cs := by
  induction cs with
  | nil => rfl
  | cons c cs ih =>
      have hNe : c ≠ '%' := fun h => hPlain (h ▸ List.mem_cons_self c cs)
      simp [decodeFrom_cons_of_ne hNe, ih fun h => hPlain (List.mem_cons_of_mem c h)]

theorem decodeURIComponent_plain {s : String} (hPlain : '%' ∉ s.data) :
    decodeURIComponent s = .ok s := by
  simp [decodeURIComponent, decodeFrom_plain hPlain]

/- Decoding throws nothing but `URIError`. -/
theorem decodeFrom_error
    {octets : List Nat}
    {pending : Nat}
    {cs : List Char}
    {e : JsError}
    (hError : decodeFrom octets pending cs = .error e) :
    e = .uriError := by
  induction octets, pending, cs using decodeFrom.induct <;>
    simp_all [decodeFrom, decodeFrom_cons_of_ne, except_map_eq_error]
  -- a lead octet with more than four leading ones
  split at hError <;> simp_all

theorem decodeURIComponent_error {s : String} {e : JsError}
    (hError : decodeURIComponent s = .error e) : e = .uriError :=
  decodeFrom_error ((except_map_eq_error _ _ _).1 hError)

end PanelExport
