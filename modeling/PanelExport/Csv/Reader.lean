import PanelExport.Js.Convert

/-
  The reader a consumer of the exported files applies: RFC 4180
  records after the leading `#` comment lines.

  `,` separates fields; LF, CR or CRLF outside quotes ends a
  record; a field that starts with a quote runs to the next lone
  quote and may hold commas, line breaks and doubled quotes.  A
  quote inside an unquoted field, or text after a closing quote,
  is kept as text.  The reader is a character-at-a-time machine,
  so that reading a concatenation is reading its parts in turn.

  Main declarations:
    * `Csv.Mode`, `Csv.Reader`, `Csv.step`
    * `Csv.read` (the records of a text)
    * `Csv.dropComments` (the leading `#` lines removed)
    * `Csv.records_prefix_run` (finished records are never revised)
-/

------------------------------------------------------------
-- Reader State Machine
------------------------------------------------------------

namespace PanelExport

namespace Csv

/- Where the reader stands in the current record. -/
inductive Mode where
  | start
  | afterCR
  | bare
  | quoted
  | quoteSeen
deriving DecidableEq, Repr

/- Finished records, the current record's fields, the current field. -/
structure Reader where
  records : List (List String)
  fields : List String
  field : List Char
  mode : Mode
deriving DecidableEq, Repr

namespace Reader

/- The reader before any input. -/
def init : Reader :=
  ⟨[], [], [], .start⟩

/- Append a character to the current field. -/
def push (r : Reader) (c : Char) : Reader :=
  { r with field := r.field ++ [c] }

/- Close the current field; the next one starts. -/
def endField (r : Reader) : Reader :=
  ⟨r.records, r.fields ++ [String.mk r.field], [], .start⟩

/- Close the current field and record. -/
def endRecord (r : Reader) (mode : Mode) : Reader :=
  ⟨r.records ++ [r.fields ++ [String.mk r.field]], [], [], mode⟩

/- A character outside quotes: separator, line end, or text. -/
def delimit (r : Reader) (c : Char) : Reader :=
  if c = ',' then r.endField
  else if c = '\n' then r.endRecord .start
  else if c = '\r' then r.endRecord .afterCR
  else { r.push c with mode := .bare }

/- The records once the input ends. -/
def finish (r : Reader) : List (List String) :=
  match r.mode with
  | .start => if r.fields = [] then r.records else (r.endRecord .start).records
  | .afterCR => r.records
  | _ => (r.endRecord .start).records

end Reader

/- One character of input. -/
def step (r : Reader) (c : Char) : Reader :=
  match r.mode with
  | .quoted =>
      if c = '"' then { r with mode := .quoteSeen } else r.push c
  | .quoteSeen =>
      if c = '"' then { r.push c with mode := .quoted } else r.delimit c
  | .start =>
      if c = '"' then { r with mode := .quoted } else r.delimit c
  | .afterCR =>
      if c = '\n' then { r with mode := .start }
      else if c = '"' then { r with mode := .quoted }
      else r.delimit c
  | .bare => r.delimit c

/- Run the reader over a list of characters. -/
def run (r : Reader) (cs : List Char) : Reader :=
  cs.foldl step r

/- The records of a CSV text. -/
def read (text : List Char) : List (List String) :=
  (run Reader.init text).finish

@[simp] theorem run_nil (r : Reader) : run r [] = r := rfl

@[simp] theorem run_cons (r : Reader) (c : Char) (cs : List Char) :
    run r (c :: cs) = run (step r c) cs := rfl

theorem run_append (r : Reader) (xs ys : List Char) :
    run r (xs ++ ys) = run (run r xs) ys :=
  List.foldl_append _ _ _ _

/- A character outside quotes closes at most one record and keeps the others. -/
theorem records_prefix_delimit (r : Reader) (c : Char) : r.records <+: (r.delimit c).records := by
  unfold Reader.delimit
  split_ifs
  · exact List.prefix_refl _
  · exact List.prefix_append _ _
  · exact List.prefix_append _ _
  · exact List.prefix_refl _

/- A finished record is never taken back by the next character. -/
theorem records_prefix_step (r : Reader) (c : Char) : r.records <+: (step r c).records := by
  unfold step
  split <;> (try split_ifs) <;> first | exact List.prefix_refl _ | exact records_prefix_delimit r c

/- Nor by the rest of the input. -/
theorem records_prefix_run (r : Reader) (cs : List Char) : r.records <+: (run r cs).records := by
  induction cs generalizing r with
  | nil => exact List.prefix_refl _
  | cons c cs ih => exact (records_prefix_step r c).trans (ih (step r c))

/- Nor when the input ends. -/
theorem records_prefix_finish (r : Reader) : r.records <+: r.finish := by
  unfold Reader.finish
  split <;> (try split_ifs) <;> simp [Reader.endRecord, List.prefix_append]

------------------------------------------------------------
-- Comment Lines
------------------------------------------------------------

/-
  Drop the leading lines that begin with `#`; the flag holds
  while the reader is inside such a line.
-/
def dropCommentsFrom : Bool → List Char → List Char
  | _, [] => []
  | true, '\r' :: '\n' :: cs => dropCommentsFrom false cs
  | true, c :: cs =>
      if c = '\n' ∨ c = '\r' then dropCommentsFrom false cs
      else dropCommentsFrom true cs
  | false, c :: cs =>
      if c = '#' then dropCommentsFrom true cs else c :: cs

/- The text after its leading `#` lines. -/
def dropComments (text : List Char) : List Char :=
  dropCommentsFrom false text

end Csv

end PanelExport
