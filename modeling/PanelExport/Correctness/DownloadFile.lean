import PanelExport.Correctness.ExportButton
import PanelExport.Csv.Cells

/-
  What a reader finds in the file the enhanced handler downloads.

  The handler writes three comment lines, `# Chart:` with the
  panel title, `# Data Type:` and `# Exported:` with the time,
  ahead of the exporter's text.  The type name and the ISO time
  never hold a line break, so for a title without one the three
  lines are comments and the file reads exactly as the exporter's
  text.  The title is not checked: a line break in it ends the
  first comment early, and the title's next line becomes the first
  record, in place of the exporter's header.

  Main declarations:
    * `plain_isoChars`, `dropComments_commonHeader`
    * `enhanced_download_reads_as_export`
    * `title_line_break_starts_records`
-/

------------------------------------------------------------
-- The Comment Header
------------------------------------------------------------

namespace PanelExport

/- Zero-padded decimal digits never need quotes. -/
theorem plain_padDigits (width n : Nat) : Csv.plain (padDigits width n) = true := by
  have hZeros : ∀ k, Csv.plain (List.replicate k '0') = true := by
    intro k
    induction k with
    | zero => rfl
    | succ k ih => simpa [List.replicate_succ] using ih
  simp only [padDigits, Csv.plain_append, hZeros, Bool.true_and]
  exact Csv.plain_toDigitsCore _ _ rfl

/- Every ISO text, whatever its year, needs no quotes. -/
theorem plain_isoChars (t : Int) : Csv.plain (isoChars t) = true := by
  have hYear : ∀ y, Csv.plain (yearDigits y) = true := by
    intro y
    unfold yearDigits
    split_ifs <;> simp [plain_padDigits]
  simp [isoChars, hYear, plain_padDigits]

/- The names of the detected types hold no line break. -/
theorem lineFree_dataTypeName (t : DataType) : '\n' ∉ t.name.data ∧ '\r' ∉ t.name.data := by
  cases t <;> decide

/-
  The handler's three lines are comments when the title has no line
  break, and then nothing of them reaches the reader.
-/
theorem dropComments_commonHeader
    {title : String}
    (hLineFree : '\n' ∉ title.data ∧ '\r' ∉ title.data)
    (detected : DataType)
    (now : Int)
    (rest : List Char) :
    Csv.dropComments ((Enhanced.commonHeader title detected now).data ++ rest) =
      Csv.dropComments rest := by
  have hIso : '\n' ∉ (isoString now).data ∧ '\r' ∉ (isoString now).data :=
    Csv.lineFree_of_plain (plain_isoChars now)
  have hComment : ∀ label text : String, '\n' ∉ label.data ∧ '\r' ∉ label.data →
      '\n' ∉ text.data ∧ '\r' ∉ text.data →
      Csv.CommentLine ('#' :: (label.data ++ text.data) ++ ['\n']) := fun label text hLabel hText =>
    ⟨label.data ++ text.data, rfl, by simp [hLabel.1, hText.1], by simp [hLabel.2, hText.2]⟩
  have hHeader : (Enhanced.commonHeader title detected now).data ++ rest =
      '#' :: (" Chart: ".data ++ title.data) ++ ['\n'] ++
        ('#' :: (" Data Type: ".data ++ detected.name.data) ++ ['\n'] ++
          ('#' :: (" Exported: ".data ++ (isoString now).data) ++ ['\n'] ++ rest)) := by
    simp [Enhanced.commonHeader]
  rw [hHeader, Csv.dropComments_commentLine_append (hComment _ _ (by decide) hLineFree),
    Csv.dropComments_commentLine_append (hComment _ _ (by decide) (lineFree_dataTypeName _)),
    Csv.dropComments_commentLine_append (hComment _ _ (by decide) hIso)]

------------------------------------------------------------
-- The Downloaded File
------------------------------------------------------------

/-
  For a title without line breaks, the file the enhanced handler
  downloads reads, once its leading comment lines are dropped,
  exactly as the text of the exporter of the type it detected.
-/
theorem enhanced_download_reads_as_export
    (title : String)
    (payload : JsVal)
    (dataType : Option DataType)
    (now : Int)
    (fileName contents : String)
    (hLineFree : '\n' ∉ title.data ∧ '\r' ∉ title.data)
    (hDownload : createCsvExportHandler title payload dataType now =
      .ok (.download fileName contents)) :
    ∃ detected text,
      Enhanced.detectedType payload dataType = .ok detected ∧
      Enhanced.exportByType detected payload title = .ok (some text) ∧
        Csv.dropComments contents.data = Csv.dropComments text.data := by
  obtain ⟨-, detected, text, hDetected, hExport, -, rfl⟩ :=
    (createCsvExportHandler_download_iff title payload dataType now fileName contents).1 hDownload
  exact ⟨detected, text, hDetected, hExport, by
    rw [String.data_append, dropComments_commonHeader hLineFree]⟩

/- A one-point series downloaded at time zero. -/
theorem enhanced_download_reads_as_export_on_sample :
    ∃ detected text,
      Enhanced.detectedType (.obj [("series", .arr [.obj [("name", .str "a"),
        ("values", .arr [.arr [.num (.int 20000000000), .num (.int 1)]])]])]) (some .timeseries) =
          .ok detected ∧
      Enhanced.exportByType detected (.obj [("series", .arr [.obj [("name", .str "a"),
        ("values", .arr [.arr [.num (.int 20000000000), .num (.int 1)]])]])]) "cpu" =
          .ok (some text) ∧
        Csv.dropComments ("# Chart: cpu\n# Data Type: timeseries\n" ++
          "# Exported: 1970-01-01T00:00:00.000Z\n# Legend Information:\n# Series_1: a\n#\n" ++
          "DateTime,Series_1\n1970-08-20T11:33:20.000Z,1\n").data =
          Csv.dropComments text.data :=
  enhanced_download_reads_as_export "cpu" (.obj [("series", .arr [.obj [("name", .str "a"),
    ("values", .arr [.arr [.num (.int 20000000000), .num (.int 1)]])]])]) (some .timeseries) 0
    "cpu_timeseries_data.csv" ("# Chart: cpu\n# Data Type: timeseries\n" ++
      "# Exported: 1970-01-01T00:00:00.000Z\n# Legend Information:\n# Series_1: a\n#\n" ++
      "DateTime,Series_1\n1970-08-20T11:33:20.000Z,1\n") (by decide) rfl

/-
  A title with a line break ends the first comment line early: when
  the title's second line is plain text not starting with `#`, it is
  the first record a reader finds in the downloaded file.
-/
theorem title_line_break_starts_records
    (payload : JsVal)
    (dataType : Option DataType)
    (now : Int)
    (fileName contents : String)
    {pre post : String}
    (hPre : '\n' ∉ pre.data ∧ '\r' ∉ pre.data)
    (hPost : Csv.plain post.data = true ∧ post.data.head? ≠ some '#' ∧ post ≠ "")
    (hDownload : createCsvExportHandler (pre ++ "\n" ++ post) payload dataType now =
      .ok (.download fileName contents)) :
    (Csv.read (Csv.dropComments contents.data)).head? = some [post] := by
  obtain ⟨-, detected, text, -, -, -, rfl⟩ :=
    (createCsvExportHandler_download_iff _ payload dataType now fileName contents).1 hDownload
  obtain ⟨c, cs, hData⟩ : ∃ c cs, post.data = c :: cs := by
    rcases post with ⟨_ | ⟨c, cs⟩⟩
    · exact absurd rfl hPost.2.2
    · exact ⟨c, cs, rfl⟩
  have hHash : c ≠ '#' := fun h => hPost.2.1 (by simp [hData, h])
  have hSplit : (Enhanced.commonHeader (pre ++ "\n" ++ post) detected now ++ text).data =
      '#' :: (" Chart: ".data ++ pre.data) ++ '\n' :: c :: (cs ++ '\n' :: ("# Data Type: " ++
        detected.name ++ "\n" ++ "# Exported: " ++ isoString now ++ "\n" ++ text).data) := by
    simp [Enhanced.commonHeader, hData]
  have hDrop : Csv.dropComments (Enhanced.commonHeader (pre ++ "\n" ++ post) detected now ++
      text).data = post.data ++ '\n' :: ("# Data Type: " ++ detected.name ++ "\n" ++
        "# Exported: " ++ isoString now ++ "\n" ++ text).data := by
    rw [hSplit, Csv.dropComments, List.cons_append, Csv.dropCommentsFrom.eq_4, if_pos rfl,
      Csv.dropCommentsFrom_text (by simp only [List.mem_append, not_or]; exact ⟨by decide, hPre.1⟩)
        (by simp only [List.mem_append, not_or]; exact ⟨by decide, hPre.2⟩)]
    simp [Csv.dropCommentsFrom, hHash, hData]
  rw [hDrop]
  exact Csv.read_plain_line_head hPost.1

/- A two-line title: the reader's first record is its second line. -/
theorem title_line_break_starts_records_on_sample :
    (Csv.read (Csv.dropComments ("# Chart: cpu\nload\n# Data Type: timeseries\n" ++
      "# Exported: 1970-01-01T00:00:00.000Z\n# Legend Information:\n# Series_1: a\n#\n" ++
      "DateTime,Series_1\n1970-08-20T11:33:20.000Z,1\n").data)).head? = some ["load"] :=
  @title_line_break_starts_records (.obj [("series", .arr [.obj [("name", .str "a"),
    ("values", .arr [.arr [.num (.int 20000000000), .num (.int 1)]])]])]) (some .timeseries) 0
    "cpu\nload_timeseries_data.csv" ("# Chart: cpu\nload\n# Data Type: timeseries\n" ++
      "# Exported: 1970-01-01T00:00:00.000Z\n# Legend Information:\n# Series_1: a\n#\n" ++
      "DateTime,Series_1\n1970-08-20T11:33:20.000Z,1\n") "cpu" "load"
    (by decide) ⟨by decide, by decide, by decide⟩ rfl

end PanelExport
