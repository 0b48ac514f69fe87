import Mathlib
import PageExtract.Proofs.Elementwise
import PageExtract.Proofs.Records

/-! A schema that is read from its written form is the one that is built from its parts one after
the other, and the first part that cannot be read is the error of both. A key that is given again
keeps its place and takes the new expression. -/
namespace PageExtract

section Entries
variable {α : Type} {entries more : List (String × α)} {key : String} {value : α}

theorem keys_putEntry (entries : List (String × α)) (key : String) (value : α) :
    (putEntry entries key value).map Prod.fst =
      if key ∈ entries.map Prod.fst then entries.map Prod.fst
      else entries.map Prod.fst ++ [key] := by
  by_cases old : key ∈ entries.map Prod.fst
  · rw [if_pos old]
    induction entries with
    | nil => cases old
    | cons first rest ih =>
      obtain ⟨other, _⟩ := first
      rw [putEntry]
      by_cases same : other = key
      · rw [if_pos same, List.map_cons, List.map_cons, same]
      · have later : key ∈ rest.map Prod.fst := by
          rcases List.mem_cons.1 old with here | later
          · exact absurd here.symm same
          · exact later
        rw [if_neg same, List.map_cons, List.map_cons, ih later]
  · rw [if_neg old, putEntry_of_notMem old, List.map_append]
    rfl

theorem nodup_putEntry (distinct : (entries.map Prod.fst).Nodup) (key : String) (value : α) :
    ((putEntry entries key value).map Prod.fst).Nodup := by
  rw [keys_putEntry]
  split
  · exact distinct
  next new => exact distinct.append (List.nodup_singleton key) (by simpa using new)

theorem mem_putEntry (entries : List (String × α)) (key : String) (value : α) :
    (key, value) ∈ putEntry entries key value := by
  induction entries with
  | nil => exact List.mem_singleton_self _
  | cons first rest ih =>
    obtain ⟨other, old⟩ := first
    rw [putEntry]
    split
    · exact List.mem_cons_self
    · exact List.mem_cons_of_mem _ ih

theorem mem_putEntry_of_ne {other : String} (member : (key, value) ∈ entries)
    (different : other ≠ key) (new : α) : (key, value) ∈ putEntry entries other new := by
  induction entries with
  | nil => cases member
  | cons first rest ih =>
    obtain ⟨name, old⟩ := first
    rw [putEntry]
    rcases List.mem_cons.1 member with here | later
    · cases here
      rw [if_neg different.symm]
      exact List.mem_cons_self
    · split
      · exact List.mem_cons_of_mem _ later
      · exact List.mem_cons_of_mem _ (ih later)

theorem putEntries_concat (entries more : List (String × α)) (last : String × α) :
    putEntries entries (more ++ [last]) = putEntry (putEntries entries more) last.1 last.2 := by
  rw [putEntries, List.foldl_append]
  rfl

theorem keys_putEntries (more : List (String × α)) :
    (putEntries [] more).map Prod.fst = (more.map Prod.fst).eraseDups := by
  induction more using List.reverseRecOn with
  | nil => rfl
  | append_singleton more last ih =>
    rw [putEntries_concat, keys_putEntry, ih, List.map_append, List.eraseDups_append]
    split
    next old => simp [List.removeAll, List.mem_eraseDups.1 old]
    next new => simp [List.removeAll, mt List.mem_eraseDups.2 new, List.eraseDups_cons]

theorem nodup_putEntries (more : List (String × α)) :
    ((putEntries [] more).map Prod.fst).Nodup := by
  induction more using List.reverseRecOn with
  | nil => exact .nil
  | append_singleton more last ih =>
    rw [putEntries_concat]
    exact nodup_putEntry ih last.1 last.2

theorem mem_putEntries_of_last {before after : List (String × α)}
    (last : key ∉ after.map Prod.fst) :
    (key, value) ∈ putEntries entries (before ++ (key, value) :: after) := by
  induction after using List.reverseRecOn with
  | nil =>
    rw [putEntries_concat]
    exact mem_putEntry _ key value
  | append_singleton after next ih =>
    rw [List.map_append, List.mem_append, not_or] at last
    have different : next.1 ≠ key := fun same => last.2 (by simp [same])
    rw [← List.cons_append, ← List.append_assoc, putEntries_concat]
    exact mem_putEntry_of_ne (ih last.1) different next.2

end Entries

namespace Schema

/-- One part of a schema, as it is written. -/
inductive Step where
  | urlPattern (pattern : String)
  | selector (text : String)
  | field (key text : String)

def Step.apply (s : Schema) : Step → Except SchemaError Schema
  | urlPattern pattern => s.withUrlPattern pattern
  | selector text => .ok (s.withSelector text)
  | field key text => s.withField key text

def build (s : Schema) (steps : List Step) : Except SchemaError Schema := steps.foldlM Step.apply s

variable {s : Schema}

@[simp] theorem build_nil : s.build [] = .ok s := rfl

theorem build_cons (step : Step) (steps : List Step) :
    s.build (step :: steps) = (step.apply s).bind fun next => next.build steps := rfl

theorem build_append (steps more : List Step) :
    s.build (steps ++ more) = (s.build steps).bind fun next => next.build more :=
  List.foldlM_append

theorem build_selectors (selectors : List String) :
    s.build (selectors.map .selector) = .ok ⟨s.urlPattern, s.selectors ++ selectors, s.fields⟩ := by
  induction selectors generalizing s with
  | nil => simp
  | cons first rest ih =>
    change build (s.withSelector first) (rest.map .selector) = _
    rw [ih, withSelector, List.append_assoc]
    rfl

theorem build_fields (keys : List (String × String)) :
    s.build (keys.map fun entry => .field entry.1 entry.2) =
      (fieldsOf keys).map fun fields => ⟨s.urlPattern, s.selectors, putEntries s.fields fields⟩ := by
  induction keys generalizing s with
  | nil => rfl
  | cons first rest ih =>
    obtain ⟨key, text⟩ := first
    rw [List.map_cons, build_cons]
    simp only [Step.apply, withField, fieldsOf]
    cases Expression.parse text with
    | error e => rfl
    | ok e =>
      simp only [Except.bind, ih]
      cases fieldsOf rest with
      | error e => rfl
      | ok fields => rfl

theorem build_pattern (pattern : Option String) :
    empty.build (pattern.toList.map .urlPattern) =
      (patternOf pattern).map fun compiled => ⟨compiled, [], []⟩ := by
  cases pattern with
  | none => rfl
  | some pattern =>
    rw [Option.toList_some, List.map_singleton, build_cons]
    simp only [Step.apply, withUrlPattern, patternOf]
    cases UrlPattern.parse pattern with
    | error e => rfl
    | ok compiled => rfl

end Schema

def Schema.Step.ofSelectors : Option SelectorList → List Schema.Step
  | none => []
  | some (.one single) => [.selector single]
  | some (.many selectors) => selectors.map .selector

/-- The parts of a written schema: the pattern, the selectors, the fields. -/
def SchemaConfig.steps (c : SchemaConfig) : List Schema.Step :=
  c.pageUrl.toList.map .urlPattern ++
    Schema.Step.ofSelectors c.pageSelector ++
    c.keys.map fun entry => .field entry.1 entry.2

namespace Schema

theorem Step.ofSelectors_eq (selectors : Option SelectorList) :
    Step.ofSelectors selectors =
      ((selectors.map SelectorList.toList).getD []).map .selector := by
  cases selectors with
  | none => rfl
  | some given => cases given <;> rfl

theorem ofConfig_eq_build (c : SchemaConfig) : ofConfig c = empty.build c.steps := by
  rw [SchemaConfig.steps, Step.ofSelectors_eq, build_append, build_append, build_pattern, ofConfig]
  cases patternOf c.pageUrl with
  | error e => rfl
  | ok pattern =>
    simp only [Except.map, Except.bind, build_selectors, build_fields]
    cases fieldsOf c.keys with
    | error e => rfl
    | ok fields => rfl

theorem exists_fieldsOf {calls : List (String × String)}
    (read : ∀ call ∈ calls, ∃ e, Expression.parse call.2 = .ok e) :
    ∃ fields, fieldsOf calls = .ok fields := by
  induction calls with
  | nil => exact ⟨[], rfl⟩
  | cons first rest ih =>
    obtain ⟨key, text⟩ := first
    rw [List.forall_mem_cons] at read
    obtain ⟨⟨e, parsed⟩, others⟩ := read
    obtain ⟨fields, found⟩ := ih others
    refine ⟨(key, e) :: fields, ?_⟩
    rw [fieldsOf, parsed, found]
    rfl

theorem fieldsOf_cons_eq_ok {key text : String} {rest : List (String × String)}
    {fields : List (String × Expression)} (h : fieldsOf ((key, text) :: rest) = .ok fields) :
    ∃ e others, Expression.parse text = .ok e ∧ fieldsOf rest = .ok others ∧
      fields = (key, e) :: others := by
  rw [fieldsOf] at h
  split at h
  · cases h
  next e parsed =>
    obtain ⟨others, found, rfl⟩ := exists_of_map_eq_ok h
    exact ⟨e, others, parsed, found, rfl⟩

theorem keys_fieldsOf {calls : List (String × String)} {fields : List (String × Expression)}
    (h : fieldsOf calls = .ok fields) : fields.map Prod.fst = calls.map Prod.fst := by
  induction calls generalizing fields with
  | nil =>
    cases h
    rfl
  | cons first rest ih =>
    obtain ⟨e, others, _, found, rfl⟩ := fieldsOf_cons_eq_ok h
    rw [List.map_cons, List.map_cons, ih found]

theorem fieldsOf_split {before after : List (String × String)} {key text : String} {e : Expression}
    {fields : List (String × Expression)} (h : fieldsOf (before ++ (key, text) :: after) = .ok fields)
    (parsed : Expression.parse text = .ok e) :
    ∃ front back, fields = front ++ (key, e) :: back ∧ fieldsOf after = .ok back := by
  induction before generalizing fields with
  | nil =>
    obtain ⟨e', back, parsed', found, rfl⟩ := fieldsOf_cons_eq_ok h
    cases parsed.symm.trans parsed'
    exact ⟨[], back, rfl, found⟩
  | cons first before ih =>
    obtain ⟨e', others, _, found, rfl⟩ := fieldsOf_cons_eq_ok h
    obtain ⟨front, back, rfl, rest⟩ := ih found
    exact ⟨(first.1, e') :: front, back, rfl, rest⟩

/-- A written schema is the one that its parts build in their order, with the same error if one of
them cannot be read. Fields that can be read are kept under each key once, where the key was first
given, with the expression that was given last. -/
theorem written_schema_is_built (c : SchemaConfig) (calls : List (String × String)) :
    ofConfig c = empty.build c.steps ∧
    ((∀ call ∈ calls, ∃ e, Expression.parse call.2 = .ok e) →
      ∃ s, empty.build (calls.map fun call => .field call.1 call.2) = .ok s ∧
        s.keys.Nodup ∧ s.keys = (calls.map Prod.fst).eraseDups ∧
        ∀ before key text after e, calls = before ++ (key, text) :: after →
          key ∉ after.map Prod.fst → Expression.parse text = .ok e → (key, e) ∈ s.fields) := by
  refine ⟨ofConfig_eq_build c, fun read => ?_⟩
  obtain ⟨fields, found⟩ := exists_fieldsOf read
  refine ⟨⟨none, [], putEntries [] fields⟩, ?_, nodup_putEntries fields, ?_, ?_⟩
  · rw [build_fields, found]
    rfl
  · rw [keys, keys_putEntries, keys_fieldsOf found]
  · rintro before key text after e rfl last parsed
    obtain ⟨front, back, rfl, rest⟩ := fieldsOf_split found parsed
    rw [← keys_fieldsOf rest] at last
    exact mem_putEntries_of_last last

/-- The first field is given again at the end: it stays in front, with the second expression. -/
theorem title_given_twice :
    let calls := [("title", "||a"), ("site", "||b"), ("title", "||c")]
    (∀ call ∈ calls, ∃ e, Expression.parse call.2 = .ok e) ∧
      ∃ s, empty.build (calls.map fun call => .field call.1 call.2) = .ok s ∧
        s.keys = ["title", "site"] ∧ ("title", .constant "c") ∈ s.fields := by
  intro calls
  have read : ∀ call ∈ calls, ∃ e, Expression.parse call.2 = .ok e := by
    simp only [calls, List.forall_mem_cons]
    exact ⟨⟨.constant "a", rfl⟩, ⟨.constant "b", rfl⟩, ⟨.constant "c", rfl⟩, by simp⟩
  obtain ⟨s, built, _, order, latest⟩ := (written_schema_is_built ⟨none, none, calls⟩ calls).2 read
  exact ⟨read, s, built, order.trans (by decide),
    latest [("title", "||a"), ("site", "||b")] "title" "||c" [] _ rfl (by simp) rfl⟩

end Schema
end PageExtract
