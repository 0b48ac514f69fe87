import PageExtract.Command.Run
import PageExtract.Proofs.Elementwise
import PageExtract.Proofs.JsonPrinting

/-! A run with files reads everything before it writes anything. So it fails without output, or it
writes what it writes for each of the files alone. -/
namespace PageExtract

namespace Datum
open Json

mutual

theorem writable_toJson? : (d : Datum) → ∀ v ∈ d.toJson?, Writable v
  | .nodes s => by
    rintro _ ⟨⟩
    exact .string s.text
  | .list items => by
    rintro _ ⟨⟩
    exact .array (writable_itemsJson items)
  | .string s => by
    rintro _ ⟨⟩
    exact .string s
  | .number n => by
    rintro _ ⟨⟩
    exact writable_ofNumber n
  | .boolean b => by
    rintro _ ⟨⟩
    exact .boolean b
  | .null => by
    rintro _ ⟨⟩
    exact .null
  | .undefined => by
    rintro _ ⟨⟩

theorem writable_itemsJson : (items : List Datum) → ∀ v ∈ itemsJson items, Writable v
  | [], _, hv => by cases hv
  | d :: items, v, hv => by
    rcases List.mem_cons.1 hv with rfl | hv
    · cases same : d.toJson? with
      | none => exact .null
      | some w => exact writable_toJson? d w same
    · exact writable_itemsJson items v hv

end

end Datum

theorem Schema.writable_extract (s : Schema) (lookup : Lookup) (page : Html.Document) :
    Json.Writable (.object (s.extract lookup page)) := by
  refine .object fun f hf => ?_
  obtain ⟨⟨key, e⟩, -, value⟩ := List.mem_filterMap.1 hf
  obtain ⟨v, found, rfl⟩ := Option.map_eq_some_iff.1 value
  unfold fieldValue? at found
  split at found
  next d _ => exact Datum.writable_toJson? d v found
  · cases found
  · cases found

namespace Command
variable {preset : Option String} {s : Surroundings} {o : Options} {x : Extractor}

theorem recordOf?_object {page : LoadedPage} {r : Json.Value} (h : recordOf? x page = some r) :
    (∃ record, r = .object record) ∧ Json.Writable r := by
  obtain ⟨record, extracted, rfl⟩ := Option.map_eq_some_iff.1 h
  obtain ⟨schema, -, rfl⟩ := Option.map_eq_some_iff.1 extracted
  exact ⟨⟨_, rfl⟩, schema.writable_extract _ _⟩

theorem recordOf?_eq_none_iff {page : LoadedPage} :
    recordOf? x page = none ↔
      ∀ schema ∈ x.schemas, schema.isMatching page.url (Html.Document.parse page.text) = false := by
  simp [recordOf?, Extractor.extract?, Extractor.schemaFor?]

def recordAt? (s : Surroundings) (url : Option String) (x : Extractor) (path : String) :
    Option Json.Value :=
  (loadFile s url path).toOption.bind (recordOf? x)

theorem recordAt?_object {url : Option String} {path : String} {r : Json.Value}
    (h : recordAt? s url x path = some r) : (∃ record, r = .object record) ∧ Json.Writable r := by
  obtain ⟨page, -, record⟩ := Option.bind_eq_some_iff.1 h
  exact recordOf?_object record

theorem loadPages_files (files : o.files ≠ []) : loadPages s o = o.files.mapM (loadFile s o.url) := by
  unfold loadPages
  split
  next none => exact absurd none files
  · rfl

theorem loadPages_ok (files : o.files ≠ [])
    (loads : ∀ path ∈ o.files, ∃ page, loadFile s o.url path = .ok page) :
    ∃ pages, loadPages s o = .ok pages ∧
      pages.filterMap (recordOf? x) = o.files.filterMap (recordAt? s o.url x) := by
  refine ⟨o.files.filterMap fun path => (loadFile s o.url path).toOption, ?_, ?_⟩
  · rw [loadPages_files files, mapM_of_forall_ok loads]
  · rw [List.filterMap_filterMap]
    rfl

theorem loadPages_error {path : String} {e : Failure} (asked : path ∈ o.files)
    (fails : loadFile s o.url path = .error e) : ∃ e', loadPages s o = .error e' := by
  rw [loadPages_files (List.ne_nil_of_mem asked)]
  exact mapM_of_mem_error asked fails

def schemaPath? (s : Surroundings) (o : Options) : Option String :=
  o.schema.or (settingsOf s).schema

/-- What keeps the command from writing: no valid filter of log messages, no schemas, schemas that
do not load, or a page that does not load. -/
inductive Unsound (preset : Option String) (s : Surroundings) (o : Options) : Prop
  | filter (noPreset : ∀ filter ∈ preset, s.isLogFilter filter = false)
      (level : s.isLogFilter (o.logLevel.getD (settingsOf s).logLevel) = false)
  | noSchema (none : schemaPath? s o = none)
  | schema {path : String} {e : SchemaFileError} (asked : schemaPath? s o = some path)
      (fails : Schema.loadList s.content? path (s.file path) = .error e)
  | page {path : String} {e : PageError} (asked : path ∈ o.files)
      (fails : (PageSource.file path).load (s.file path) = .error e)

structure Loaded (preset : Option String) (s : Surroundings) (o : Options) (x : Extractor) : Prop where
  filter : hasFilter s preset (o.logLevel.getD (settingsOf s).logLevel) = true
  schemas : ∃ path, schemaPath? s o = some path ∧ Schema.loadList s.content? path (s.file path) = .ok x.schemas
  builtin : x.custom = .empty
  pages : ∀ path ∈ o.files, ∃ page, loadFile s o.url path = .ok page

theorem exists_loaded (sound : ¬ Unsound preset s o) : ∃ x, Loaded preset s o x := by
  cases configured : schemaPath? s o with
  | none => exact absurd (.noSchema configured) sound
  | some path =>
    cases load : Schema.loadList s.content? path (s.file path) with
    | error e => exact absurd (.schema configured load) sound
    | ok schemas =>
      refine ⟨⟨schemas, .empty⟩, ?_, ⟨path, configured, load⟩, rfl, fun file asked => ?_⟩
      · rw [← Bool.not_eq_false]
        intro invalid
        rw [hasFilter, Bool.or_eq_false_iff, Option.any_eq_false] at invalid
        exact sound (.filter (by simpa using invalid.1) invalid.2)
      · cases page : (PageSource.file file).load (s.file file) with
        | error e => exact absurd (.page asked page) sound
        | ok text => exact ⟨⟨o.url.getD file, text⟩, by rw [loadFile, page]⟩

theorem planOf_eq_ok_iff {plan : Plan} :
    planOf s preset o = .ok plan ↔
      hasFilter s preset (o.logLevel.getD (settingsOf s).logLevel) = true ∧
        schemaPath? s o = some plan.schema ∧
        plan.pretty = (o.pretty || (settingsOf s).pretty) := by
  obtain ⟨path, pretty⟩ := plan
  unfold planOf schemaPath?
  dsimp only
  split
  next valid =>
    cases o.schema.or (settingsOf s).schema with
    | none => simp
    | some configured => simp [valid, eq_comm]
  next invalid => simp [invalid]

theorem run_eq_ok_iff {text : String} :
    run preset s o = .ok text ↔
      ∃ plan x pages, planOf s preset o = .ok plan ∧
        loadExtractor s plan.schema = .ok x ∧ loadPages s o = .ok pages ∧
        written plan.pretty (pages.filterMap (recordOf? x)) = text := by
  unfold run
  cases planOf s preset o with
  | error e => simp [bind, Except.bind]
  | ok plan =>
    cases extractor : loadExtractor s plan.schema with
    | error e => simp [bind, Except.bind, extractor]
    | ok x =>
      cases loadPages s o with
      | error e => simp [bind, Except.bind, extractor]
      | ok pages => simp [bind, Except.bind, extractor, pure, Except.pure]

theorem Unsound.run (h : Unsound preset s o) : ∃ e, run preset s o = .error e := by
  cases outcome : Command.run preset s o with
  | error e => exact ⟨e, rfl⟩
  | ok text =>
    -- A run with output has read everything, also what is missing.
    obtain ⟨plan, x, pages, planned, extractor, loaded, -⟩ := run_eq_ok_iff.1 outcome
    obtain ⟨filtered, configured, -⟩ := planOf_eq_ok_iff.1 planned
    exfalso
    cases h with
    | filter noPreset level =>
      have none : preset.any s.isLogFilter = false := by
        rw [Option.any_eq_false]
        simpa using noPreset
      rw [hasFilter, none, level] at filtered
      cases filtered
    | noSchema none =>
      rw [configured] at none
      cases none
    | schema asked fails =>
      rw [configured] at asked
      cases asked
      rw [loadExtractor, fails] at extractor
      cases extractor
    | page asked fails =>
      obtain ⟨e', failed⟩ := loadPages_error (s := s) asked (by rw [loadFile, fails])
      rw [failed] at loaded
      cases loaded

theorem Loaded.run (h : Loaded preset s o x) (files : o.files ≠ []) :
    run preset s o =
      .ok (written (o.pretty || (settingsOf s).pretty)
        (o.files.filterMap (recordAt? s o.url x))) := by
  obtain ⟨path, configured, load⟩ := h.schemas
  obtain ⟨pages, loaded, records⟩ := loadPages_ok (x := x) files h.pages
  rw [run_eq_ok_iff]
  refine ⟨⟨path, o.pretty || (settingsOf s).pretty⟩, x, pages,
    planOf_eq_ok_iff.2 ⟨h.filter, configured, rfl⟩, ?_, loaded, ?_⟩
  · rw [loadExtractor, load, ← h.builtin]
  · rw [records]

theorem Unsound.outcome (h : Unsound preset s o) :
    ∃ e, answerIn preset s (.run o) = ⟨1, "", some e⟩ := by
  obtain ⟨e, failed⟩ := h.run
  exact ⟨e, by simp only [answerIn, failed]⟩

theorem Loaded.outcome (h : Loaded preset s o x) (files : o.files ≠ []) :
    answerIn preset s (.run o) = ⟨0, written (o.pretty || (settingsOf s).pretty)
      (o.files.filterMap (recordAt? s o.url x)), none⟩ := by
  simp only [answerIn, h.run files]

def Options.alone (o : Options) (path : String) : Options :=
  ⟨[path], o.schema, o.url, o.pretty, o.logLevel⟩

theorem Loaded.alone (h : Loaded preset s o x) {path : String} (asked : path ∈ o.files) :
    Loaded preset s (o.alone path) x where
  filter := h.filter
  schemas := h.schemas
  builtin := h.builtin
  pages := by
    intro other same
    rw [List.mem_singleton.1 same]
    exact h.pages path asked

def line : Option Json.Value → String
  | none => ""
  | some r => r.compact ++ "\n"

theorem written_lines (records : List Json.Value) :
    (written false records).toList = records.flatMap fun r => r.compact.toList ++ ['\n'] := by
  simp [written, List.flatMap_map]

theorem splitOn_written (records : List Json.Value) :
    (written false records).toList.splitOn '\n' = records.map (·.compact.toList) ++ [[]] := by
  rw [written_lines]
  induction records with
  | nil => rfl
  | cons r records ih =>
    rw [List.flatMap_cons, List.append_assoc, List.singleton_append,
      List.splitOn_append_cons_self_of_not_mem (Json.oneLine_compact r).no_break, ih]
    rfl

theorem written_filterMap (record? : String → Option Json.Value) (files : List String) :
    written false (files.filterMap record?) =
      String.join (files.map fun path => line (record? path)) := by
  apply String.toList_injective
  rw [written_lines, String.toList_join, List.flatMap_map]
  induction files with
  | nil => rfl
  | cons path files ih =>
    rw [List.flatMap_cons, ← ih]
    cases found : record? path with
    | none => simp [found, line]
    | some r => simp [found, line]

theorem Loaded.output_alone (h : Loaded preset s o x) {path : String} (asked : path ∈ o.files)
    (compact : (o.pretty || (settingsOf s).pretty) = false) :
    (answerIn preset s (.run (o.alone path))).output = line (recordAt? s o.url x path) := by
  have one : (o.alone path).files = [path] := rfl
  have same : ((o.alone path).pretty || (settingsOf s).pretty) = false := compact
  rw [(h.alone asked).outcome (by simp [one]), same, one, written_filterMap]
  simp [Options.alone, String.join]

/-- With anything unsound, a run of the command fails and writes nothing. Otherwise it writes what it
writes for each of the files alone: the record of the page in a line of its own, or nothing if no
schema applies. Line by line, or as one array, the records can be read back from the output. -/
theorem all_or_nothing (preset : Option String) (s : Surroundings) (o : Options)
    (files : o.files ≠ []) :
    let outcome := answerIn preset s (.run o)
    let alone (path : String) := answerIn preset s (.run (o.alone path))
    (Unsound preset s o → outcome.code = 1 ∧ outcome.output = "") ∧
    (¬ Unsound preset s o → ∃ x, Loaded preset s o x ∧
      let records := o.files.filterMap (recordAt? s o.url x)
      outcome.code = 0 ∧ (∀ path ∈ o.files, (alone path).code = 0) ∧
      ((o.pretty || (settingsOf s).pretty) = false →
        outcome.output = String.join (o.files.map fun path => (alone path).output) ∧
        (∀ path ∈ o.files, ∃ page, loadFile s o.url path = .ok page ∧
          (alone path).output = line (recordOf? x page) ∧
          (recordOf? x page = none ↔ ∀ schema ∈ x.schemas,
            schema.isMatching page.url (Html.Document.parse page.text) = false)) ∧
        (∀ r ∈ records, (∃ record, r = .object record) ∧ '\n' ∉ r.compact.toList ∧
          Json.parse? r.compact = some r) ∧
        outcome.output.toList.splitOn '\n' = records.map (·.compact.toList) ++ [[]]) ∧
      ((o.pretty || (settingsOf s).pretty) = true →
        Json.parse? outcome.output = some (.array records))) := by
  intro outcome alone
  refine ⟨fun unsound => ?_, fun sound => ?_⟩
  · obtain ⟨e, failed⟩ : ∃ e, outcome = ⟨1, "", some e⟩ := unsound.outcome
    rw [failed]
    exact ⟨rfl, rfl⟩
  obtain ⟨x, loaded⟩ := exists_loaded sound
  have whole : outcome = ⟨0, _, none⟩ := loaded.outcome files
  have single (path : String) (asked : path ∈ o.files) : alone path = ⟨0, _, none⟩ :=
    (loaded.alone asked).outcome (by simp [Options.alone])
  have objects : ∀ r ∈ o.files.filterMap (recordAt? s o.url x),
      (∃ record, r = .object record) ∧ Json.Writable r := by
    intro r member
    obtain ⟨path, -, found⟩ := List.mem_filterMap.1 member
    exact recordAt?_object found
  refine ⟨x, loaded, by rw [whole], fun path asked => by rw [single path asked], ?_, ?_⟩
  · intro compact
    have output (path : String) (asked : path ∈ o.files) :
        (alone path).output = line (recordAt? s o.url x path) := loaded.output_alone asked compact
    rw [whole, compact]
    refine ⟨?_, fun path asked => ?_, fun r member => ?_, splitOn_written _⟩
    · rw [written_filterMap]
      exact congrArg String.join (List.map_congr_left fun path asked => (output path asked).symm)
    · obtain ⟨page, load⟩ := loaded.pages path asked
      refine ⟨page, load, ?_, recordOf?_eq_none_iff⟩
      rw [output path asked, recordAt?, load]
      rfl
    · obtain ⟨object, writable⟩ := objects r member
      exact ⟨object, (Json.oneLine_compact r).no_break, writable.parse?_compact⟩
  · intro pretty
    rw [whole, pretty]
    exact (Json.Writable.array fun r member => (objects r member).2).parse?_pretty

/-- A filter that is refused, or a page that is missing, stops the record of the other page. A page
that is asked for twice has two lines. -/
theorem one_page_missing :
    let schemas : Json.Value :=
      .object [("schemas", .array [.object [("keys", .object [("k", .string "||v")])]])]
    let s : Surroundings := ⟨fun path =>
      if path = "a.json" then some schemas.compact.toUTF8
      else if path = "a" then some ByteArray.empty else none, none, none,
      Notation.content?, (· == "debug")⟩
    let o (files : List String) (level : String) : Options :=
      ⟨files, some "a.json", none, false, some level⟩
    (answerIn none s (.run (o ["a", "a"] "wxport=loud"))).code = 1 ∧
      (answerIn none s (.run (o ["a", "b"] "debug"))).code = 1 ∧
      (answerIn none s (.run (o ["a", "b"] "debug"))).output = "" ∧
      (answerIn none s (.run (o ["a", "a"] "debug"))).code = 0 ∧
      (answerIn none s (.run (o ["a", "a"] "debug"))).output =
        "\x7b\"k\":\"v\"\x7d\n\x7b\"k\":\"v\"\x7d\n" := by
  intro schemas s o
  have loud : Unsound none s (o ["a", "a"] "wxport=loud") :=
    .filter (by simp) (show s.isLogFilter "wxport=loud" = false by decide)
  have unsound : Unsound none s (o ["a", "b"] "debug") :=
    .page (show "b" ∈ ["a", "b"] by simp) (show (PageSource.file "b").load none = .error _ from rfl)
  obtain ⟨refused, -⟩ := (all_or_nothing none s (o ["a", "a"] "wxport=loud") (by simp [o])).1 loud
  obtain ⟨code, output⟩ := (all_or_nothing none s (o ["a", "b"] "debug") (by simp [o])).1 unsound
  refine ⟨refused, code, output, ?_⟩
  have read : (PageSource.file "a").load (s.file "a") = .ok "" := by cbv
  -- The schema file is not evaluated: it is read back as the value that was written.
  have writable : Json.Writable schemas :=
    .object (List.forall_mem_singleton.2 (.array (List.forall_mem_singleton.2
      (.object (List.forall_mem_singleton.2 (.object (List.forall_mem_singleton.2
        (.string "||v"))))))))
  have text : (s.file "a.json").bind String.fromUTF8? = some schemas.compact :=
    dif_pos schemas.compact.isValidUTF8
  have content : s.content? .json schemas.compact = some schemas.toTree :=
    congrArg (Option.map Json.Value.toTree) writable.parse?_compact
  have load : Schema.loadList s.content? "a.json" (s.file "a.json") =
      .ok [⟨none, [], [("k", .constant "v")]⟩] := by
    have ending : ((Path.extension? "a.json").getD "").toLower = "json" := by cbv
    rw [Schema.loadList, text, ending]
    simp only [Schema.parseList, show Notation.ofExtension? "json" = some .json from rfl,
      Schema.listOf, content]
    cbv
  have sound : ¬ Unsound none s (o ["a", "a"] "debug") := by
    rintro (⟨-, level⟩ | configured | ⟨configured, fails⟩ | ⟨asked, fails⟩)
    · have valid : s.isLogFilter "debug" = true := by decide
      exact absurd (valid.symm.trans level) (by simp)
    · exact absurd configured (by simp [schemaPath?, o])
    · cases configured
      rw [load] at fails
      cases fails
    · obtain rfl : _ = "a" := by simpa [o] using asked
      rw [read] at fails
      cases fails
  obtain ⟨x, loaded, code, -, lines, -⟩ :=
    (all_or_nothing none s (o ["a", "a"] "debug") (by simp [o])).2 sound
  obtain ⟨joined, single, -⟩ := lines rfl
  obtain ⟨page, loads, alone, -⟩ := single "a" (by simp [o])
  have extractor : x = ⟨[⟨none, [], [("k", .constant "v")]⟩], .empty⟩ := by
    obtain ⟨path, configured, schemas⟩ := loaded.schemas
    cases configured
    obtain ⟨found, custom⟩ := x
    rw [load] at schemas
    cases schemas
    exact congrArg (Extractor.mk _) loaded.builtin
  rw [loadFile, read] at loads
  cases loads
  rw [extractor, show recordOf? _ _ = some (.object [("k", .string "v")]) from rfl] at alone
  refine ⟨code, ?_⟩
  rw [joined]
  simp only [o, List.map_cons, List.map_nil, alone]
  rfl

end Command
end PageExtract
