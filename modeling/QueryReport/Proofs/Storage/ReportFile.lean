import QueryReport.Proofs.Report.Reload
import QueryReport.Proofs.Sql.Lexing.Breaks
import QueryReport.Storage.Folder

/-!
# `QueryReport.Proofs.Storage.ReportFile`: a report comes back from its file

A report is kept in a file as a document of its saved form, with its SQL in the normal form of
`ReportFile.normalizeSql`.  Two things are not taken on trust here: that a folder has what was put
into it, and that the normal form of a text is read as the text is.  The document stands between
them, and that it is read as what was written is a hypothesis.

The normal form has line feeds for other line breaks wherever they stand, in a literal or a quoted
name as well as between the words.  So the report comes back only if its text has them apart, as
`BreaksApart` says; `reload_changed` has a literal that is another one afterwards.

* `Folder.read_write`: a file has the text that was put into it.
* `parse_normalizeSql`: the normal form of a text.
* `reload_file`: a report whose SQL was adopted, written to a file and read from it.
-/

set_option autoImplicit false

namespace QueryReport

open Sql QueryReport.Filter

/-! ## Folders -/

namespace Storage.Folder

variable {f g : Folder} {way final parts : List String} {path text : String}

/-- The folder with a text for the file at a way. -/
def put (f : Folder) (way : List String) (text : String) : Folder :=
  { f with files := (way, text) :: f.files.filter (·.1 ≠ way) }

theorem write_eq_ok : f.write path text = .ok g ↔ ∃ way, f.locate path = .ok way
    ∧ f.hasDirectory way = false ∧ ¬ path.endsWith "/" = true ∧ g = f.put way text := by
  unfold write
  cases f.locate path with
  | error fault => exact ⟨nofun, fun h => nomatch h.choose_spec.1⟩
  | ok way =>
      show (if _ then _ else _) = _ ↔ _
      split
      · next hnone =>
        rw [Bool.or_eq_true] at hnone
        refine ⟨nofun, ?_⟩
        rintro ⟨_, ⟨⟩, hdirectory, hend, -⟩
        exact (hnone.elim (by rw [hdirectory]; nofun) hend).elim
      · next hfile =>
        rw [Bool.or_eq_true, not_or, Bool.not_eq_true] at hfile
        constructor
        · rintro ⟨⟩
          exact ⟨way, rfl, hfile.1, hfile.2, rfl⟩
        · rintro ⟨_, ⟨⟩, -, -, rfl⟩
          rfl

/-- What was a directory still is one: a file in it may have another text, but is there. -/
theorem hasDirectory_put {directory : List String} (h : f.hasDirectory directory = true) :
    (f.put way text).hasDirectory directory = true := by
  unfold hasDirectory at h ⊢
  rw [Bool.or_eq_true] at h ⊢
  refine h.imp_right fun hany => ?_
  obtain ⟨entry, hentry, hinside⟩ := List.any_eq_true.mp hany
  by_cases hway : entry.1 = way
  · exact List.any_eq_true.mpr ⟨(way, text), List.mem_cons_self, by rw [← hway]; exact hinside⟩
  · refine List.any_eq_true.mpr ⟨entry, List.mem_cons_of_mem _ ?_, hinside⟩
    exact List.mem_filter.mpr ⟨hentry, decide_eq_true hway⟩

/-- A file is no directory. -/
theorem not_hasDirectory_put (h : f.hasDirectory way = false) :
    (f.put way text).hasDirectory way = false := by
  unfold hasDirectory at h ⊢
  rw [Bool.or_eq_false_iff] at h ⊢
  refine ⟨h.1, List.any_eq_false.mpr ?_⟩
  intro entry hentry
  obtain rfl | hold := List.mem_cons.mp hentry
  · simp
  · exact List.any_eq_false.mp h.2 entry (List.mem_filter.mp hold).1

/-- A way that leads through a folder leads through any other with the same directories. -/
theorem follow_mono (hmore : ∀ way, f.hasDirectory way = true → g.hasDirectory way = true)
    (h : f.follow way parts = .ok final) : g.follow way parts = .ok final := by
  induction parts generalizing way with
  | nil => exact h
  | cons name rest ih =>
      unfold follow at h ⊢
      split at h
      · next hdirectory =>
        rw [if_pos (hmore way hdirectory)]
        split at h
        · cases h
        · next hshort =>
          rw [if_neg hshort]
          exact ih h
      · split at h <;> cases h

/-- A file has the text that was put into it. -/
theorem read_write (h : f.write path text = .ok g) : g.read path = .ok text := by
  obtain ⟨way, hlocate, hfile, hend, rfl⟩ := write_eq_ok.mp h
  have hagain : (f.put way text).locate path = .ok way := by
    unfold locate at hlocate ⊢
    split_ifs at hlocate ⊢ <;> exact follow_mono (fun _ => hasDirectory_put) hlocate
  unfold read
  rw [hagain]
  show (if _ then _ else _) = _
  rw [if_neg (Bool.eq_false_iff.mp (not_hasDirectory_put hfile)), text?, put, List.lookup_cons_self]
  exact if_neg hend

end Storage.Folder

/-! ## The normal form of a text -/

/-- The normal form of a text is read as the text is. -/
theorem parse_normalizeSql {text : String} {statements : List Statement}
    (h : parse text = .ok statements) (hapart : BreaksApart (Text.trim text).toList) :
    parse (ReportFile.normalizeSql text) = .ok statements := by
  unfold parse at h ⊢
  cases htokens : tokens text with
  | error fault =>
      rw [htokens] at h
      cases h
  | ok ts =>
      have hnormal : tokens (ReportFile.normalizeSql text) = .ok ts := by
        rw [tokens_eq_lexed, ReportFile.normalizeSql, String.toList_ofList, lexed_unify hapart,
          ← tokens_eq_lexed]
        exact tokens_trim htokens
      rw [htokens] at h
      rw [hnormal]
      exact h

namespace Report

variable {r before adopted : Report} {text path : String} {folder kept : Storage.Folder}

/-- Adopting a text makes what is read in it the baseline. -/
theorem setSql_readsBack (h : before.setSql text = .ok adopted) :
    ∃ q, adopted.sql = some text ∧ adopted.baseline = some q ∧ parse text = .ok [.query q] := by
  obtain ⟨q, _, _, _, hselect, -, -, -, rfl⟩ := setSql_eq_ok.mp h
  exact ⟨q, rfl, rfl, (selectOf_eq_ok.mp hselect).1⟩

/-- A report has the SQL that was adopted from a text, and the breaks of the text are apart.
Written to a file and read from it, the report has the same baseline, columns and definitions. -/
theorem reload_file (hset : before.setSql text = .ok adopted) (hr : Reachable r)
    (hsql : r.sql = adopted.sql) (hbaseline : r.baseline = adopted.baseline)
    (hmade : ∀ d ∈ r.definitions, d.Made) (hapart : BreaksApart (Text.trim text).toList)
    (hdocument : ReportFile.read (ReportFile.write r.save) = .ok (ReportFile.normalize r.save))
    (hwrite : folder.write path (ReportFile.write r.save) = .ok kept) :
    ∃ saved restored, ReportFile.readAt path (kept.read path) = .ok saved
      ∧ ofSaved saved = .ok restored ∧ restored.baseline = r.baseline
      ∧ restored.columns = r.columns ∧ restored.definitions = r.definitions := by
  obtain ⟨q, htext, hq, hparse⟩ := setSql_readsBack hset
  rw [← hsql] at htext
  rw [← hbaseline] at hq
  have hread : ReportFile.readAt path (kept.read path) = .ok (ReportFile.normalize r.save) := by
    rw [Storage.Folder.read_write hwrite]
    exact hdocument
  have hnormal : ReportFile.normalize r.save
      = { r.save with sql := ReportFile.normalizeSql text } := by
    rw [ReportFile.normalize, save, htext]
    rfl
  have hload := load_save_text hr hmade hq (parse_normalizeSql hparse hapart) {}
  rw [← hnormal] at hload
  exact ⟨_, _, hread, hload, rfl, rfl, rfl⟩

/-- A saved form in the normal form, with line feeds between the words and in a literal. -/
def brokenLines : Saved.Report where
  caption := none
  sql := "SELECT\n'a\nb' AS x"
  limit := none
  offset := none
  settings := .object .nil
  columnMatch := .name
  columns := [("x", { sequenceNo := 1, caption := "X" })]
  definitions := []

/-- Its file. -/
def brokenFile : String :=
  "caption: null
sql: |-
  SELECT
  'a
  b' AS x
limit: null
offset: null
external_settings: \x7b\x7d
column_match: name
columns:
  x:
    sequence_no: 1
    caption: X
    data_type: string
    hide: false
    pinned: false
    groupable: false
    group_sum: false
    group_avg: false
    group_min: false
    group_max: false
query_parameter_definitions: []
"

section

open Document Document.Yaml

/-- A key that stands before its colon as it is. -/
def StandsPlain (key : String) : Prop :=
  isShortKey key = true ∧ keyMark key = key.toList ++ [':']

instance (key : String) : Decidable (StandsPlain key) := inferInstanceAs (Decidable (_ ∧ _))

theorem memberLines_plain {key : String} {value : Tree} {rest : Members} (h : StandsPlain key) :
    memberLines (.cons key value rest)
      = valueLines (key.toList ++ [':']) value ++ memberLines rest := by
  rw [memberLines, if_pos h.1, h.2]

theorem print_brokenLines : print (Saved.encode brokenLines) = brokenFile := by
  have hencode : Saved.encode brokenLines = .object
      (.cons "caption" .null (.cons "sql" (.text "SELECT\n'a\nb' AS x")
      (.cons "limit" .null (.cons "offset" .null (.cons "external_settings" (.object .nil)
      (.cons "column_match" (.text "name") (.cons "columns" (.object (.cons "x" (.object
        (.cons "sequence_no" (.int 1) (.cons "caption" (.text "X")
        (.cons "data_type" (.text "string") (.cons "hide" (.bool false)
        (.cons "pinned" (.bool false) (.cons "groupable" (.bool false)
        (.cons "group_sum" (.bool false) (.cons "group_avg" (.bool false)
        (.cons "group_min" (.bool false) (.cons "group_max" (.bool false) .nil)))))))))))
        .nil))
      (.cons "query_parameter_definitions" (.array .nil) .nil)))))))) := rfl
  have hreport : ∀ key ∈ ["caption", "sql", "limit", "offset", "external_settings", "column_match",
      "columns", "query_parameter_definitions"], StandsPlain key := by decide +kernel
  have hcolumn : ∀ key ∈ ["x", "sequence_no", "caption", "data_type", "hide", "pinned",
      "groupable", "group_sum", "group_avg", "group_min", "group_max"], StandsPlain key := by
    decide +kernel
  simp only [List.forall_mem_cons] at hreport hcolumn
  -- The lines of a document are no structural recursion, so they are opened before anything is run.
  rw [hencode]
  unfold print
  simp only [treeLines, memberLines_plain, hreport, hcolumn, valueLines]
  rw [memberLines]
  apply congrArg String.ofList
  decide +kernel

/-- The tokens of a key with a text that both stand plain. -/
def entryTokens (key value : String) : List Yaml.Token :=
  [.key, .text .plain key, .value, .text .plain value]

/-- What the file is cut into. -/
def brokenTokens : List Yaml.Token := List.flatten [
  [.mappingStart], entryTokens "caption" "null",
  [.key, .text .plain "sql", .value, .text .literal "SELECT\n'a\nb' AS x"],
  entryTokens "limit" "null", entryTokens "offset" "null",
  [.key, .text .plain "external_settings", .value, .openBrace, .closeBrace],
  entryTokens "column_match" "name",
  [.key, .text .plain "columns", .value, .mappingStart, .key, .text .plain "x", .value,
    .mappingStart],
  entryTokens "sequence_no" "1", entryTokens "caption" "X", entryTokens "data_type" "string",
  ["hide", "pinned", "groupable", "group_sum", "group_avg", "group_min", "group_max"].flatMap
    (entryTokens · "false"),
  [.blockEnd, .blockEnd, .key, .text .plain "query_parameter_definitions", .value, .openBracket,
    .closeBracket, .blockEnd]]

theorem tokens_brokenFile : Yaml.tokens brokenFile = some brokenTokens := by
  have hchars {text : String} {cs : List Char} (h : text = .ofList cs) : text.toList = cs := by
    rw [h, String.toList_ofList]
  unfold Yaml.tokens
  rw [brokenFile, hchars rfl]
  decide +kernel

/-- The file is read as what was written, in one step for each stage of the reader. -/
theorem read_brokenLines :
    ReportFile.read (print (Saved.encode brokenLines)) = .ok brokenLines := by
  obtain ⟨n, hnode, hdecode⟩ : ∃ n ∈ (ofTokens? brokenTokens).bind (·.expand? Saved.shape),
      Saved.decode Saved.yamlRules n = .ok brokenLines := by decide +kernel
  have hfile : read? Saved.shape brokenFile = some n := by
    rw [read?, tokens_brokenFile]
    exact hnode
  rw [print_brokenLines, ReportFile.read, hfile]
  show (Saved.decode Saved.yamlRules n).mapError _ = _
  rw [hdecode]
  rfl

end

theorem write_top (text : String) : (⟨[], []⟩ : Storage.Folder).write "report.yml" text
    = .ok ⟨[(["report.yml"], text)], []⟩ := by
  refine Storage.Folder.write_eq_ok.mpr ⟨["report.yml"], ?_, ?_, ?_, rfl⟩ <;> decide +kernel

/-- A text with carriage returns between its words and behind it, and with a line feed in a literal,
which is that line feed after all. -/
theorem reload_file_breaks : ∃ (r restored : Report) (saved : Saved.Report) (kept : Storage.Folder),
    ({} : Report).setSql "SELECT\r'a\nb' AS x\r\n" = .ok r ∧ Reachable r
      ∧ (⟨[], []⟩ : Storage.Folder).write "report.yml" (ReportFile.write r.save) = .ok kept
      ∧ ReportFile.readAt "report.yml" (kept.read "report.yml") = .ok saved
      ∧ ofSaved saved = .ok restored ∧ restored.baseline = r.baseline
      ∧ restored.columns = r.columns ∧ restored.definitions = r.definitions := by
  let r : Report := ((Change.setSql "SELECT\r'a\nb' AS x\r\n").outcome {}).2
  have hset : ({} : Report).setSql "SELECT\r'a\nb' AS x\r\n" = .ok r := by decide +kernel
  have hr : Reachable r := Reachable.empty.step (.call (.setSql _))
  have hmade : ∀ d ∈ r.definitions, d.Made := by
    have hnone : r.definitions = [] := by decide +kernel
    rw [hnone]
    exact fun _ hd => absurd hd List.not_mem_nil
  have hnormal : ReportFile.normalize r.save = brokenLines := by decide +kernel
  have hdocument : ReportFile.read (ReportFile.write r.save)
      = .ok (ReportFile.normalize r.save) := by
    rw [ReportFile.write, hnormal]
    exact read_brokenLines
  -- The carriage return stands between two words, and there is none behind it.
  have hapart : BreaksApart (Text.trim "SELECT\r'a\nb' AS x\r\n").toList := by
    have htrim : (Text.trim "SELECT\r'a\nb' AS x\r\n").toList
        = 'S' :: (['E', 'L', 'E', 'C', 'T'] ++ '\r' :: "'a\nb' AS x".toList) := by decide +kernel
    have hword : lexeme 'S' (['E', 'L', 'E', 'C', 'T'] ++ '\r' :: "'a\nb' AS x".toList)
        = .ok (some (.ofWord "SELECT"), '\r' :: "'a\nb' AS x".toList) := by decide +kernel
    have hrest : lexed "'a\nb' AS x".toList
        = .ok [.literal (.string "a\nb"), .ofWord "AS", .ofWord "x"] := by decide +kernel
    rw [htrim]
    exact .piece hword (by decide) (.carriage (breaksApart_of_free hrest (by decide)))
  obtain ⟨saved, restored, hread, hrestored, hsame⟩ :=
    reload_file hset hr rfl rfl hmade hapart hdocument (write_top _)
  exact ⟨r, restored, saved, _, hset, hr, write_top _, hread, hrestored, hsame⟩

/-- A literal with a carriage return comes back with a line feed. -/
theorem reload_file_changed : ∃ (r restored : Report) (kept : Storage.Folder),
    ({} : Report).setSql "SELECT\n'a\rb' AS x" = .ok r ∧ Reachable r ∧ r.definitions = []
      ∧ ReportFile.read (ReportFile.write r.save) = .ok (ReportFile.normalize r.save)
      ∧ (⟨[], []⟩ : Storage.Folder).write "report.yml" (ReportFile.write r.save) = .ok kept
      ∧ ReportFile.readAt "report.yml" (kept.read "report.yml")
        = .ok (ReportFile.normalize r.save)
      ∧ ofSaved (ReportFile.normalize r.save) = .ok restored
      ∧ restored.baseline ≠ r.baseline := by
  let r : Report := ((Change.setSql "SELECT\n'a\rb' AS x").outcome {}).2
  let restored : Report := ((Change.setSql "SELECT\n'a\nb' AS x").outcome {}).2
  have hset : ({} : Report).setSql "SELECT\n'a\rb' AS x" = .ok r := by decide +kernel
  have hnormal : ReportFile.normalize r.save = brokenLines := by decide +kernel
  have hdocument : ReportFile.read (ReportFile.write r.save)
      = .ok (ReportFile.normalize r.save) := by
    rw [ReportFile.write, hnormal]
    exact read_brokenLines
  have hread : ReportFile.readAt "report.yml"
      ((⟨[(["report.yml"], ReportFile.write r.save)], []⟩ : Storage.Folder).read "report.yml")
        = .ok (ReportFile.normalize r.save) := by
    rw [Storage.Folder.read_write (write_top _)]
    exact hdocument
  exact ⟨r, restored, _, hset, Reachable.empty.step (.call (.setSql _)), by decide +kernel,
    hdocument, write_top _, hread, by rw [hnormal]; decide +kernel, by decide +kernel⟩

end Report

end QueryReport
