import PanelExport.Csv.Reader
import Mathlib.Data.String.Basic

/-
  What the reader recovers from text written one line per record.

  A writer puts a field down either as it is, when it holds no
  comma, quote or line break, or in quotes with its quotes doubled
  (`Encodes`).  A document of such lines, each with at least one
  field, reads back as exactly its records, and leading comment
  lines without inner line breaks are dropped exactly.

  Main declarations:
    * `Csv.plain`, `Csv.escape`, `Csv.quoteField`, `Csv.Encodes`
    * `Csv.joinFields`, `Csv.line`
    * `Csv.read_lines`, `Csv.document`, `Csv.read_document`
    * `Csv.dropComments_commentLine_append`, `Csv.dropComments_append`
    * `Csv.read_plain_line_head`
-/

------------------------------------------------------------
-- Written Fields
------------------------------------------------------------

namespace PanelExport

namespace Csv

/- A field text that needs no quotes. -/
def plain (cs : List Char) : Bool :=
  cs.all fun c => c != ',' && c != '"' && c != '\r' && c != '\n'

/- Every quote doubled, as `replace(/"/g, '""')` does. -/
def escape (cs : List Char) : List Char :=
  cs.flatMap fun c => if c = '"' then ['"', '"'] else [c]

/- A field inside quotes. -/
def quoteField (cs : List Char) : List Char :=
  '"' :: escape cs ++ ['"']

/- `emitted` is field text the reader takes back as `field`. -/
def Encodes (emitted : List Char) (field : String) : Prop :=
  (plain field.toList = true ∧ emitted = field.toList) ∨
    emitted = quoteField field.toList

/- Fields separated by commas. -/
def joinFields : List (List Char) → List Char
  | [] => []
  | e :: es => e ++ es.flatMap (',' :: ·)

/- A record line: the joined fields and a line feed. -/
def line (emitted : List (List Char)) : List Char :=
  joinFields emitted ++ ['\n']

@[simp] theorem plain_cons (c : Char) (cs : List Char) :
    plain (c :: cs) =
      (c != ',' && c != '"' && c != '\r' && c != '\n' && plain cs) := by
  simp [plain, Bool.and_assoc]

------------------------------------------------------------
-- Reading Fields
------------------------------------------------------------

/- Reader modes in which a field's text may end. -/
def FieldEnd (m : Mode) : Prop :=
  m = .start ∨ m = .bare ∨ m = .quoteSeen

variable {recs : List (List String)} {fs : List String}

/- Plain text extends an unquoted field. -/
theorem run_plain_bare
    {cs f : List Char}
    (hPlain : plain cs = true) :
    run ⟨recs, fs, f, .bare⟩ cs = ⟨recs, fs, f ++ cs, .bare⟩ := by
  induction cs generalizing f with
  | nil => simp
  | cons c cs ih =>
      simp only [plain_cons, Bool.and_eq_true, bne_iff_ne] at hPlain
      obtain ⟨⟨⟨⟨hComma, -⟩, hCR⟩, hLF⟩, hRest⟩ := hPlain
      simp [step, Reader.delimit, Reader.push, hComma, hCR, hLF, ih hRest]

/- Escaped text extends a quoted field by the original text. -/
theorem run_escape_quoted
    (cs f : List Char) :
    run ⟨recs, fs, f, .quoted⟩ (escape cs) =
      ⟨recs, fs, f ++ cs, .quoted⟩ := by
  induction cs generalizing f with
  | nil => simp [escape]
  | cons c cs ih =>
      by_cases hQuote : c = '"'
      · subst hQuote
        simpa [escape, step, Reader.push] using ih (f ++ ['"'])
      · simpa [escape, step, Reader.push, hQuote] using ih (f ++ [c])

/- An encoded field read from the start of a field. -/
theorem run_encodes
    {e : List Char} {d : String}
    (hEnc : Encodes e d) :
    ∃ m, FieldEnd m ∧
      run ⟨recs, fs, [], .start⟩ e = ⟨recs, fs, d.toList, m⟩ := by
  rcases hEnc with ⟨hPlain, rfl⟩ | rfl
  · cases hText : d.toList with
    | nil => exact ⟨.start, .inl rfl, rfl⟩
    | cons c cs =>
        rw [hText] at hPlain
        refine ⟨.bare, .inr (.inl rfl), ?_⟩
        simp only [plain_cons, Bool.and_eq_true, bne_iff_ne] at hPlain
        obtain ⟨⟨⟨⟨hComma, hQuote⟩, hCR⟩, hLF⟩, hRest⟩ := hPlain
        simp [step, Reader.delimit, Reader.push, hComma, hQuote, hCR,
          hLF, run_plain_bare hRest]
  · refine ⟨.quoteSeen, .inr (.inr rfl), ?_⟩
    simp [quoteField, run_append, step, run_escape_quoted]

/- A comma after a field's text closes the field. -/
theorem step_comma
    {d : List Char} {m : Mode}
    (hEnd : FieldEnd m) :
    step ⟨recs, fs, d, m⟩ ',' = ⟨recs, fs ++ [String.mk d], [], .start⟩ := by
  rcases hEnd with rfl | rfl | rfl <;>
    simp [step, Reader.delimit, Reader.endField]

/- A line feed after a field's text closes the record. -/
theorem step_newline
    {d : List Char} {m : Mode}
    (hEnd : FieldEnd m) :
    step ⟨recs, fs, d, m⟩ '\n' =
      ⟨recs ++ [fs ++ [String.mk d]], [], [], .start⟩ := by
  rcases hEnd with rfl | rfl | rfl <;>
    simp [step, Reader.delimit, Reader.endRecord]

------------------------------------------------------------
-- Reading Documents
------------------------------------------------------------

/- One written line adds its record. -/
theorem run_line
    {es : List (List Char)} {ds : List String}
    (hFields : List.Forall₂ Encodes es ds)
    (hNonempty : es ≠ []) :
    run ⟨recs, fs, [], .start⟩ (line es) =
      ⟨recs ++ [fs ++ ds], [], [], .start⟩ := by
  induction hFields generalizing fs with
  | nil => exact absurd rfl hNonempty
  | @cons e d es ds hHead hTail ih =>
      obtain ⟨m, hEnd, hRun⟩ := @run_encodes recs fs _ _ hHead
      cases hTail with
      | nil =>
          simp [line, joinFields, run_append, hRun, step_newline hEnd]
      | @cons e' d' es' ds' hHead' hTail' =>
          have hRest := @ih (fs ++ [d]) (List.cons_ne_nil _ _)
          simp only [line, joinFields, List.flatMap_cons,
            List.append_assoc] at hRest ⊢
          simp [run_append, hRun, step_comma hEnd, hRest]

/-
  A document of written lines, each with at least one field,
  reads back as exactly its records.
-/
theorem read_lines
    {lines : List (List (List Char))}
    {records : List (List String)}
    (hLines :
      List.Forall₂
        (fun es ds => es ≠ [] ∧ List.Forall₂ Encodes es ds)
        lines records) :
    read (lines.flatMap line) = records := by
  suffices hRun :
      ∀ recs, run ⟨recs, [], [], .start⟩ (lines.flatMap line) =
        ⟨recs ++ records, [], [], .start⟩ by
    simp [read, Reader.init, hRun [], Reader.finish]
  induction hLines with
  | nil => simp
  | @cons es ds lines records hHead _ ih =>
      intro recs
      have hLine := @run_line recs [] _ _ hHead.2 hHead.1
      simp only [List.nil_append] at hLine
      simp [run_append, hLine, ih]

/- A plain first line that is not a comment is the first record read. -/
theorem read_plain_line_head {field : String} {rest : List Char}
    (hPlain : plain field.data = true) :
    (read (field.data ++ '\n' :: rest)).head? = some [field] := by
  have hLine := @run_line [] [] [field.data] [field] (.cons (.inl ⟨hPlain, rfl⟩) .nil)
    (List.cons_ne_nil _ _)
  have hRun : run Reader.init (field.data ++ '\n' :: rest) =
      run ⟨[[field]], [], [], .start⟩ rest := by
    rw [← List.singleton_append, ← List.append_assoc, run_append]
    simpa [line, joinFields] using congrArg (run · rest) hLine
  obtain ⟨more, hMore⟩ := (records_prefix_run ⟨[[field]], [], [], .start⟩ rest).trans
    (records_prefix_finish _)
  rw [read, hRun, ← hMore]
  rfl

------------------------------------------------------------
-- Written Texts
------------------------------------------------------------

/- `sep.intercalate` as characters, from an accumulated prefix. -/
theorem intercalate_go_data (acc sep : String) (ss : List String) :
    (String.intercalate.go acc sep ss).data =
      acc.data ++ ss.flatMap (sep.data ++ ·.data) := by
  induction ss generalizing acc with
  | nil => simp [String.intercalate.go]
  | cons s ss ih => simp [String.intercalate.go, ih]

/- A comma-joined line of fields. -/
theorem intercalate_comma_data (s : String) (ss : List String) :
    (",".intercalate (s :: ss)).data = joinFields ((s :: ss).map String.data) := by
  simp [String.intercalate, intercalate_go_data, joinFields, List.flatMap_map]

/- A field followed by the comma-joined rest. -/
theorem intercalate_comma_cons (s : String) {ss : List String} (hRest : ss ≠ []) :
    ",".intercalate (s :: ss) = s ++ "," ++ ",".intercalate ss := by
  obtain ⟨t, ts, rfl⟩ := List.exists_cons_of_ne_nil hRest
  simp [String.ext_iff, intercalate_comma_data, joinFields]

/- Records written one per line, their fields joined by commas. -/
def document (lines : List (List String)) : String :=
  String.join (lines.map fun fields => ",".intercalate fields ++ "\n")

theorem document_cons (fields : List String) (lines : List (List String)) :
    document (fields :: lines) = ",".intercalate fields ++ "\n" ++ document lines := by
  simp [document, String.ext_iff]

/- A document starts with `#` only if its first field does. -/
theorem document_head {field : String} {fields : List String} {lines : List (List String)}
    (hHead : field.data.head? ≠ some '#') :
    (document ((field :: fields) :: lines)).data.head? ≠ some '#' := by
  rw [document_cons]
  cases hData : field.data with
  | nil => cases fields <;> simp [intercalate_comma_data, joinFields, hData]
  | cons c cs =>
      rw [hData] at hHead
      simpa [intercalate_comma_data, joinFields, hData] using hHead

/- A written document reads back as the fields its lines encode. -/
theorem read_document
    {lines records : List (List String)}
    (hLines : List.Forall₂
      (fun es ds => es ≠ [] ∧ List.Forall₂ (fun e d => Encodes e.data d) es ds)
      lines records) :
    read (document lines).data = records := by
  have hData : (document lines).data = (lines.map (·.map String.data)).flatMap line := by
    induction hLines with
    | nil => rfl
    | cons hHead _ ih =>
        obtain ⟨e, es, rfl⟩ := List.exists_cons_of_ne_nil hHead.1
        simp_all [document, line, intercalate_comma_data]
  rw [hData]
  apply read_lines
  rw [List.forall₂_map_left_iff]
  exact hLines.imp fun es ds h => ⟨by simpa using h.1, List.forall₂_map_left_iff.2 h.2⟩

/- Lines and records made item by item from one list agree when each item's do. -/
theorem forall₂_map_of_mem {α β γ : Type} {R : β → γ → Prop} {f : α → β} {g : α → γ}
    {l : List α} (hItems : ∀ x ∈ l, R (f x) (g x)) : List.Forall₂ R (l.map f) (l.map g) :=
  List.forall₂_map_left_iff.2 (List.forall₂_map_right_iff.2 (List.forall₂_same.2 hItems))

------------------------------------------------------------
-- Dropping Comment Lines
------------------------------------------------------------

/- A comment line: `#`, text without line breaks, a line feed. -/
def CommentLine (l : List Char) : Prop :=
  ∃ text, l = '#' :: text ++ ['\n'] ∧ '\n' ∉ text ∧ '\r' ∉ text

/- Inside a comment, text without line breaks is skipped. -/
theorem dropCommentsFrom_text
    {text rest : List Char}
    (hLF : '\n' ∉ text) (hCR : '\r' ∉ text) :
    dropCommentsFrom true (text ++ rest) = dropCommentsFrom true rest := by
  induction text with
  | nil => rfl
  | cons c text ih =>
      simp only [List.mem_cons, not_or] at hLF hCR
      have hNotCR : c ≠ '\r' := Ne.symm hCR.1
      rw [List.cons_append,
        dropCommentsFrom.eq_3 _ _ fun _ h => absurd h hNotCR]
      simp [Ne.symm hLF.1, hNotCR, ih hLF.2 hCR.2]

/- A comment line ahead of a text is dropped, whatever follows. -/
theorem dropComments_commentLine_append {l rest : List Char} (hLine : CommentLine l) :
    dropComments (l ++ rest) = dropComments rest := by
  obtain ⟨text, rfl, hLF, hCR⟩ := hLine
  simp only [dropComments, List.cons_append, List.append_assoc, List.singleton_append]
  rw [dropCommentsFrom.eq_4, if_pos rfl, dropCommentsFrom_text hLF hCR]
  simp [dropCommentsFrom]

/-
  Leading comment lines, some of them possibly empty, are dropped
  exactly when the body does not itself start with `#`.
-/
theorem dropComments_append
    {comments : List (List Char)} {body : List Char}
    (hComments : ∀ l ∈ comments, l = [] ∨ CommentLine l)
    (hBody : body.head? ≠ some '#') :
    dropComments (comments.flatten ++ body) = body := by
  induction comments with
  | nil =>
      cases body with
      | nil => rfl
      | cons c cs =>
          simp only [List.head?_cons, ne_eq, Option.some.injEq] at hBody
          simp [dropComments, dropCommentsFrom, hBody]
  | cons l comments ih =>
      have hTail := ih fun l hl => hComments l (by simp [hl])
      rcases hComments l (by simp) with rfl | ⟨text, rfl, hLF, hCR⟩
      · simpa using hTail
      simp only [dropComments, List.flatten_cons, List.append_assoc,
        List.cons_append] at hTail ⊢
      rw [dropCommentsFrom.eq_4, if_pos rfl, dropCommentsFrom_text hLF hCR]
      simpa [dropCommentsFrom] using hTail

end Csv

end PanelExport
