import PanelExport.Csv.RoundTrip

/-
  The texts the exporters write for primitive values, read as CSV
  fields.

  A table cell holds text, a number, a boolean, `null` or
  `undefined`; the exporters print it with `String(v)`, or as the
  empty string when it is nullish.  The text of a number or a
  boolean never needs quotes, so such a cell always reads back as
  it was printed.

  Main declarations:
    * `JsVal.isCell`, `cellText`
    * `Csv.plain_numText`
    * `JsVal.isLabel`, `JsVal.isNumberOrNull`
    * `JsVal.join_cells`, `JsVal.mapArray_eq_map`
-/

------------------------------------------------------------
-- Plain Texts
------------------------------------------------------------

namespace PanelExport

namespace Csv

/- A character that may stand unquoted in a field. -/
def plainChar (c : Char) : Prop :=
  c ≠ ',' ∧ c ≠ '"' ∧ c ≠ '\r' ∧ c ≠ '\n'

@[simp] theorem plain_nil : plain [] = true := rfl

theorem plain_iff {cs : List Char} :
    plain cs = true ↔ ∀ c ∈ cs, plainChar c := by
  simp [plain, plainChar, and_assoc]

@[simp] theorem plain_append (xs ys : List Char) :
    plain (xs ++ ys) = (plain xs && plain ys) := by
  simp [plain, List.all_append]

/- Text that needs no quotes has no line break. -/
theorem lineFree_of_plain {cs : List Char} (hPlain : plain cs = true) :
    '\n' ∉ cs ∧ '\r' ∉ cs := by
  rw [plain_iff] at hPlain
  exact ⟨fun h => (hPlain _ h).2.2.2 rfl, fun h => (hPlain _ h).2.2.1 rfl⟩

/- The decimal digit characters never need quotes. -/
theorem plain_digitChar : ∀ d < 10, plain [Nat.digitChar d] = true := by
  decide

theorem plain_toDigitsCore (fuel n : Nat) {ds : List Char} (hDs : plain ds = true) :
    plain (Nat.toDigitsCore 10 fuel n ds) = true := by
  induction fuel generalizing n ds with
  | zero => simpa [Nat.toDigitsCore]
  | succ fuel ih =>
      have hCons : plain (Nat.digitChar (n % 10) :: ds) = true := by
        simpa [hDs] using plain_digitChar (n % 10) (Nat.mod_lt n (by decide))
      unfold Nat.toDigitsCore
      dsimp only
      split
      · exact hCons
      · exact ih _ hCons

/- Decimal text of a natural number. -/
theorem plain_natText (n : Nat) : plain (toString n).data = true :=
  plain_toDigitsCore _ _ rfl

/- A character of a number's text never needs quotes. -/
theorem plainChar_of_numberChar {c : Char} (hc : JsNum.NumberChar c) : plainChar c := by
  rcases hc with hDigit | hLetter
  · refine ⟨?_, ?_, ?_, ?_⟩ <;> (rintro rfl; exact absurd hDigit (by decide))
  · have hLetters : ∀ c ∈ ".e+-InfityNa".toList, c ≠ ',' ∧ c ≠ '"' ∧ c ≠ '\r' ∧ c ≠ '\n' := by
      decide
    exact hLetters c hLetter

/- Every number prints as text that needs no quotes. -/
theorem plain_numText (n : JsNum) : plain n.toStr.data = true :=
  plain_iff.2 fun c hc => plainChar_of_numberChar (JsNum.toStr_chars n c hc)

/- Plain text is written as it is. -/
theorem encodes_plain {s : String} (hPlain : plain s.data = true) :
    Encodes s.data s :=
  .inl ⟨hPlain, rfl⟩

/- Quoted text with its quotes doubled. -/
theorem encodes_quoted (s : String) : Encodes (quoteField s.data) s :=
  .inr rfl

/- A document of plain fields reads back as its fields. -/
theorem read_document_plain {lines : List (List String)}
    (hLines : ∀ fields ∈ lines, fields ≠ [] ∧ ∀ f ∈ fields, plain f.data = true) :
    read (document lines).data = lines :=
  read_document (List.forall₂_same.2 fun fields hFields => ⟨(hLines fields hFields).1,
    List.forall₂_same.2 fun f hf => encodes_plain ((hLines fields hFields).2 f hf)⟩)

end Csv

------------------------------------------------------------
-- Cells
------------------------------------------------------------

namespace JsVal

/- A cell value: text, a number, a boolean, `null` or `undefined`. -/
def isCell : JsVal → Bool
  | .undefined => true
  | .null => true
  | .bool _ => true
  | .num _ => true
  | .str _ => true
  | _ => false

/- A category or series name: text or a number. -/
def isLabel : JsVal → Bool
  | .str _ => true
  | .num _ => true
  | _ => false

/- A bar value: a number or `null`. -/
def isNumberOrNull : JsVal → Bool
  | .num _ => true
  | .null => true
  | _ => false

theorem isCell_of_isLabel {v : JsVal} (hLabel : v.isLabel = true) : v.isCell = true := by
  cases v <;> simp_all [isLabel, isCell]

theorem isCell_of_isNumberOrNull {v : JsVal} (hValue : v.isNumberOrNull = true) :
    v.isCell = true := by
  cases v <;> simp_all [isNumberOrNull, isCell]

theorem isCell_ifNullish {v : JsVal} (hCell : v.isCell = true) :
    (v.ifNullish (.str "")).isCell = true := by
  cases v <;> simp_all [ifNullish, isNullish, isCell]

/- An entry of an array of cells, `undefined` past its end. -/
theorem isCell_getD {items : List JsVal} (hCells : ∀ v ∈ items, v.isCell = true) (i : Nat) :
    (items.getD i .undefined).isCell = true := by
  rw [List.getD_eq_getElem?_getD]
  cases hEntry : items[i]? with
  | none => rfl
  | some v => exact hCells v (List.getElem?_mem hEntry)

end JsVal

/- `String(v)` of a cell, the empty string for `null` and `undefined`. -/
def cellText : JsVal → String
  | .str s => s
  | .bool b => toString b
  | .num n => n.toStr
  | _ => ""

@[simp] theorem cellText_str (s : String) : cellText (.str s) = s := rfl

@[simp] theorem isCell_str (s : String) : (JsVal.str s).isCell = true := rfl

@[simp] theorem cellText_ifNullish (v : JsVal) :
    cellText (v.ifNullish (.str "")) = cellText v := by
  cases v <;> rfl

/- The text of a cell that is not a string needs no quotes. -/
theorem plain_cellText_of_nonstring
    {v : JsVal}
    (hNonString : ∀ s, v ≠ .str s) :
    Csv.plain (cellText v).data = true := by
  cases v with
  | str s => exact absurd rfl (hNonString s)
  | bool b => cases b <;> rfl
  | num n => exact Csv.plain_numText n
  | _ => rfl

/- `obj[key]` on an object with own properties `props`, which always returns. -/
def propValue (props : List (String × JsVal)) (key : String) : JsVal :=
  (props.lookup key).getD ((JsVal.obj props).inherited key)

/- `v.displayName || v.name`, the title a column or a series is shown with. -/
def displayTitle (props : List (String × JsVal)) : JsVal :=
  (propValue props "displayName").orElse (propValue props "name")

/- `String(v)` of a primitive, the text a property key is converted to. -/
def primitiveText : JsVal → String
  | .undefined => "undefined"
  | .null => "null"
  | v => cellText v

/- A primitive's text has no line break when its cell text has none. -/
theorem lineFree_primitiveText {v : JsVal}
    (hLF : '\n' ∉ (cellText v).data) (hCR : '\r' ∉ (cellText v).data) :
    '\n' ∉ (primitiveText v).data ∧ '\r' ∉ (primitiveText v).data := by
  cases v <;> simp_all [primitiveText]

/- A cell whose text has no line break, so it fits on a comment line. -/
def LineFreeCell (v : JsVal) : Prop :=
  v.isCell = true ∧ '\n' ∉ (cellText v).data ∧ '\r' ∉ (cellText v).data

instance : DecidablePred LineFreeCell := fun v =>
  inferInstanceAs (Decidable (v.isCell = true ∧ '\n' ∉ (cellText v).data ∧ '\r' ∉ (cellText v).data))

namespace JsVal

@[simp] theorem get_obj (props : List (String × JsVal)) (key : String) :
    (JsVal.obj props).get key = .ok (propValue props key) := rfl

theorem toStr_primitive {v : JsVal} (hCell : v.isCell = true) :
    v.toStr = .ok (primitiveText v) := by
  cases v <;> simp_all [isCell, primitiveText, cellText, toStr]

theorem toStr_label {v : JsVal} (hLabel : v.isLabel = true) : v.toStr = .ok (cellText v) := by
  cases v <;> simp_all [isLabel, cellText, toStr]

/- `String(v)` of a line-free cell has no line break. -/
theorem toStr_lineFree {v : JsVal} (hCell : LineFreeCell v) :
    ∃ text, v.toStr = .ok text ∧ '\n' ∉ text.data ∧ '\r' ∉ text.data :=
  ⟨_, toStr_primitive hCell.1, lineFree_primitiveText hCell.2.1 hCell.2.2⟩

/- A cell's `String(v ?? '')` is its cell text. -/
theorem toStr_cell {v : JsVal} (hCell : v.isCell = true) :
    (v.ifNullish (.str "")).toStr = .ok (cellText v) := by
  cases v <;> simp_all [isCell, ifNullish, isNullish, cellText, toStr]

/- `join` prints each cell as its cell text. -/
theorem elementStrs_cells {vs : List JsVal} (hCells : ∀ v ∈ vs, v.isCell = true) :
    elementStrs vs = .ok (vs.map cellText) := by
  induction vs with
  | nil => rfl
  | cons v vs ih =>
      have hHead : v.isCell = true := hCells v (List.mem_cons_self v vs)
      have hRest := ih fun w hw => hCells w (List.mem_cons_of_mem v hw)
      cases v <;> simp_all [elementStrs, isCell, isNullish, cellText, toStr]

theorem join_cells (sep : String) {l : List JsVal}
    (hCells : ∀ v ∈ l, v.isCell = true) :
    join sep l = .ok (sep.intercalate (l.map cellText)) := by
  simp [join, elementStrs_cells hCells]

@[simp] theorem get_arr_length (items : List JsVal) :
    (JsVal.arr items).get "length" = .ok (.num (.int items.length)) := rfl

@[simp] theorem loopCount_length (n : Nat) : (JsVal.num (.int n)).loopCount = .ok n := rfl

/- `map` with a callback that returns the same value at every index. -/
theorem mapFrom_eq_map
    {f : Nat → JsVal → Except JsError JsVal}
    {g : JsVal → JsVal}
    (i : Nat)
    {items : List JsVal}
    (hReturns : ∀ j, ∀ v ∈ items, f j v = .ok (g v)) :
    mapFrom f i items = .ok (items.map g) := by
  induction items generalizing i with
  | nil => rfl
  | cons v items ih =>
      simp [mapFrom, hReturns i v (List.mem_cons_self v items),
        ih (i + 1) fun j w hw => hReturns j w (List.mem_cons_of_mem v hw)]

/- A `map` that returns has called back without error on every element. -/
theorem mapFrom_ok_mem
    {f : Nat → JsVal → Except JsError JsVal}
    {i : Nat}
    {items vs : List JsVal}
    (hRun : mapFrom f i items = .ok vs)
    {v : JsVal}
    (hv : v ∈ items) :
    ∃ j w, f j v = .ok w := by
  induction items generalizing i vs with
  | nil => cases hv
  | cons a items ih =>
      obtain ⟨w, hw, hRest⟩ := except_bind_eq_ok.1 hRun
      obtain ⟨ws, hws, -⟩ := except_bind_eq_ok.1 hRest
      rcases List.mem_cons.1 hv with rfl | hv
      · exact ⟨i, w, hw⟩
      · exact ih hws hv

theorem mapArray_eq_map
    {f : Nat → JsVal → Except JsError JsVal}
    {g : JsVal → JsVal}
    {l : List JsVal}
    (hReturns : ∀ j, ∀ v ∈ l, f j v = .ok (g v)) :
    (JsVal.arr l).mapArray f = .ok (l.map g) :=
  mapFrom_eq_map 0 hReturns

/- `map` over the values of a list, with a callback that reads the index and the element. -/
theorem mapFrom_map_eq_enumFrom
    {α : Type}
    {f : Nat → JsVal → Except JsError JsVal}
    {e : α → JsVal}
    {g : Nat → α → JsVal}
    (i : Nat)
    {items : List α}
    (hReturns : ∀ j, ∀ a ∈ items, f j (e a) = .ok (g j a)) :
    mapFrom f i (items.map e) = .ok ((items.enumFrom i).map fun p => g p.1 p.2) := by
  induction items generalizing i with
  | nil => rfl
  | cons a items ih =>
      simp [mapFrom, hReturns i a (List.mem_cons_self a items),
        ih (i + 1) fun j b hb => hReturns j b (List.mem_cons_of_mem a hb)]

/- `map` with a callback that reads only the index. -/
theorem mapFrom_eq_range
    {f : Nat → JsVal → Except JsError JsVal}
    {g : Nat → JsVal}
    (i : Nat)
    (items : List JsVal)
    (hReturns : ∀ j v, f j v = .ok (g j)) :
    mapFrom f i items = .ok ((List.range' i items.length).map g) := by
  induction items generalizing i with
  | nil => rfl
  | cons v items ih => simp [mapFrom, hReturns, ih (i + 1), List.range'_succ]

end JsVal

end PanelExport
