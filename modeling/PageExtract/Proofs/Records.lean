import Mathlib
import PageExtract.Schema.Basic

/-! A record has the fields of its schema that have a value, in the order of the schema. No field
takes notice of another one. -/
namespace PageExtract

namespace Datum

theorem toJson?_eq_none_iff {d : Datum} : d.toJson? = none ↔ d = .undefined := by
  cases d <;> simp [toJson?]

end Datum

namespace Schema
variable {lookup : Lookup} {page : Html.Document}

def keys (s : Schema) : List String := s.fields.map Prod.fst

theorem fieldValue?_eq_some_iff {e : Expression} {json : Json.Value} :
    fieldValue? lookup page e = some json ↔
      ∃ d, e.evaluate lookup page = .ok (.value d) ∧ d.toJson? = some json := by
  rw [fieldValue?]
  split
  next d outcome =>
    rw [outcome]
    constructor
    · intro h
      exact ⟨d, rfl, h⟩
    · rintro ⟨_, same, h⟩
      cases same
      exact h
  next missing => simp [missing]
  next e failure => simp [failure]

def shown? (lookup : Lookup) (page : Html.Document) (field : String × Expression) :
    Option (String × Json.Value) :=
  (fieldValue? lookup page field.2).map (field.1, ·)

theorem extract_eq_filterMap (s : Schema) :
    s.extract lookup page = s.fields.filterMap (shown? lookup page) := rfl

theorem shown?_eq_some_iff {field : String × Expression} {key : String} {json : Json.Value} :
    shown? lookup page field = some (key, json) ↔
      field.1 = key ∧ fieldValue? lookup page field.2 = some json := by
  rw [shown?, Option.map_eq_some_iff]
  constructor
  · rintro ⟨_, value, same⟩
    cases same
    exact ⟨rfl, value⟩
  · rintro ⟨rfl, value⟩
    exact ⟨json, value, rfl⟩

theorem mem_extract_iff {s : Schema} {key : String} {json : Json.Value} :
    (key, json) ∈ s.extract lookup page ↔
      ∃ e d, (key, e) ∈ s.fields ∧ e.evaluate lookup page = .ok (.value d) ∧
        d.toJson? = some json := by
  rw [extract_eq_filterMap, List.mem_filterMap]
  constructor
  · rintro ⟨⟨_, e⟩, member, shown⟩
    obtain ⟨rfl, value⟩ := shown?_eq_some_iff.1 shown
    obtain ⟨d, outcome, form⟩ := fieldValue?_eq_some_iff.1 value
    exact ⟨e, d, member, outcome, form⟩
  · rintro ⟨e, d, member, outcome, form⟩
    have value := fieldValue?_eq_some_iff.2 ⟨d, outcome, form⟩
    exact ⟨(key, e), member, shown?_eq_some_iff.2 ⟨rfl, value⟩⟩

theorem mem_extract_keys_iff {s : Schema} {key : String} :
    key ∈ (s.extract lookup page).map Prod.fst ↔
      ∃ e d, (key, e) ∈ s.fields ∧ e.evaluate lookup page = .ok (.value d) ∧ d ≠ .undefined := by
  constructor
  · intro h
    obtain ⟨⟨_, json⟩, member, rfl⟩ := List.mem_map.1 h
    obtain ⟨e, d, field, outcome, form⟩ := mem_extract_iff.1 member
    refine ⟨e, d, field, outcome, fun undefined => ?_⟩
    rw [Datum.toJson?_eq_none_iff.2 undefined] at form
    cases form
  · rintro ⟨e, d, field, outcome, defined⟩
    obtain ⟨json, form⟩ := Option.ne_none_iff_exists'.1 (mt Datum.toJson?_eq_none_iff.1 defined)
    exact List.mem_map.2 ⟨(key, json), mem_extract_iff.2 ⟨e, d, field, outcome, form⟩, rfl⟩

theorem extract_keys_sublist (s : Schema) :
    ((s.extract lookup page).map Prod.fst).Sublist s.keys := by
  rw [extract_eq_filterMap, keys]
  induction s.fields with
  | nil => exact .slnil
  | cons field rest ih =>
    cases shown : shown? lookup page field with
    | none =>
      rw [List.filterMap_cons_none shown, List.map_cons]
      exact ih.cons field.1
    | some entry =>
      obtain ⟨same, _⟩ := shown?_eq_some_iff.1 shown
      rw [List.filterMap_cons_some shown, List.map_cons, List.map_cons, same]
      exact ih.cons_cons entry.1

def addField (lookup : Lookup) (page : Html.Document) (r : Record) (field : String × Expression) :
    Record :=
  match fieldValue? lookup page field.2 with
  | some json => putEntry r field.1 json
  | none => r

/-- Putting the values under their keys one after the other gives the fields in their order. -/
theorem foldl_addField (fields : List (String × Expression)) (r : Record)
    (distinct : (r.map Prod.fst ++ fields.map Prod.fst).Nodup) :
    fields.foldl (addField lookup page) r = r ++ fields.filterMap (shown? lookup page) := by
  induction fields generalizing r with
  | nil => simp
  | cons field rest ih =>
    have new : field.1 ∉ r.map Prod.fst := by
      intro old
      exact List.disjoint_of_nodup_append distinct old (by simp)
    rw [List.foldl_cons, addField]
    -- A field without a value puts nothing; any other one comes behind the keys that are there.
    cases value : fieldValue? lookup page field.2 with
    | none =>
      have hidden : shown? lookup page field = none := by rw [shown?, value, Option.map_none]
      rw [List.filterMap_cons_none hidden]
      refine ih r (distinct.sublist ?_)
      exact (List.Sublist.refl _).append (List.sublist_cons_self _ _)
    | some json =>
      have shown : shown? lookup page field = some (field.1, json) :=
        shown?_eq_some_iff.2 ⟨rfl, value⟩
      rw [List.filterMap_cons_some shown]
      simp only [putEntry_of_notMem new]
      rw [ih, List.append_assoc, List.singleton_append]
      simpa using distinct

theorem extract_eq_foldl {s : Schema} (distinct : s.keys.Nodup) :
    s.extract lookup page = s.fields.foldl (addField lookup page) [] := by
  rw [foldl_addField s.fields [] (by simpa [keys] using distinct)]
  rfl

/-- The same keys in the same order, with the same expressions except under one of the keys. -/
def DifferOnlyAt (key : String) : List (String × Expression) → List (String × Expression) → Prop :=
  List.Forall₂ fun field field' => field.1 = field'.1 ∧ (field.1 ≠ key → field.2 = field'.2)

theorem DifferOnlyAt.filter_eq {key : String} {fields fields' : List (String × Expression)}
    (h : DifferOnlyAt key fields fields') :
    fields.filter (fun field => field.1 ≠ key) = fields'.filter (fun field => field.1 ≠ key) := by
  induction h with
  | nil => rfl
  | @cons field field' rest rest' same _ ih =>
    obtain ⟨name, e⟩ := field
    obtain ⟨_, e'⟩ := field'
    obtain ⟨rfl, agree⟩ := same
    rw [List.filter_cons, List.filter_cons, ih]
    by_cases other : name ≠ key
    · rw [show e = e' from agree other]
    · simp [other]

theorem filter_extract (s : Schema) (key : String) :
    (s.extract lookup page).filter (fun entry => entry.1 ≠ key) =
      (s.fields.filter fun field => field.1 ≠ key).filterMap (shown? lookup page) := by
  rw [extract_eq_filterMap, List.filter_filterMap, List.filterMap_filter]
  refine List.filterMap_congr fun field _ => ?_
  rw [shown?]
  cases fieldValue? lookup page field.2 with
  | none => simp
  | some json => rfl

/-- A record has exactly the fields of its schema whose expressions give a value other than
undefined, each with the JSON form of it, in the order of the schema: what an ordered map holds when
the values are put into it one after the other. Another expression for one of the keys changes
nothing about the others, whatever comes of the two. -/
theorem fields_extracted_on_their_own (s : Schema) (lookup : Lookup) (page : Html.Document) :
    ((s.extract lookup page).map Prod.fst).Sublist s.keys ∧
    (∀ key, key ∈ (s.extract lookup page).map Prod.fst ↔
      ∃ e d, (key, e) ∈ s.fields ∧ e.evaluate lookup page = .ok (.value d) ∧ d ≠ .undefined) ∧
    (∀ key json, (key, json) ∈ s.extract lookup page ↔
      ∃ e d, (key, e) ∈ s.fields ∧ e.evaluate lookup page = .ok (.value d) ∧
        d.toJson? = some json) ∧
    (s.keys.Nodup → ((s.extract lookup page).map Prod.fst).Nodup ∧
      s.extract lookup page = s.fields.foldl (addField lookup page) []) ∧
    ∀ (key : String) (s' : Schema), DifferOnlyAt key s.fields s'.fields →
      (s.extract lookup page).filter (fun entry => entry.1 ≠ key) =
        (s'.extract lookup page).filter (fun entry => entry.1 ≠ key) := by
  refine ⟨extract_keys_sublist s, fun key => mem_extract_keys_iff, fun key json => mem_extract_iff,
    fun distinct => ?_, fun key s' differ => ?_⟩
  · exact ⟨(extract_keys_sublist s).nodup distinct, extract_eq_foldl distinct⟩
  · rw [filter_extract, filter_extract, differ.filter_eq]

/-- A stage that does not resolve takes its own field away, and no other one. -/
theorem fields_around_unknown_stage :
    let page : Html.Document := ⟨[.element ⟨0, .html, "h1", []⟩ [.text "a"]], []⟩
    let s : Schema := ⟨none, [], [("title", .query "h1" []), ("key", .query "h1" [⟨"nope", []⟩]),
      ("site", .constant "b")]⟩
    let s' : Schema := ⟨none, [], [("title", .query "h1" []), ("key", .constant "c"),
      ("site", .constant "b")]⟩
    DifferOnlyAt "key" s.fields s'.fields ∧ s.keys.Nodup ∧
      s.extract Lookup.builtin page = s.fields.foldl (addField Lookup.builtin page) [] ∧
      s.extract Lookup.builtin page = [("title", .string "a"), ("site", .string "b")] ∧
      (s.extract Lookup.builtin page).filter (fun entry => entry.1 ≠ "key") =
        (s'.extract Lookup.builtin page).filter (fun entry => entry.1 ≠ "key") := by
  intro page s s'
  have differ : DifferOnlyAt "key" s.fields s'.fields := by simp [DifferOnlyAt, s, s']
  have distinct : s.keys.Nodup := by decide
  obtain ⟨_, _, _, loop, apart⟩ := fields_extracted_on_their_own s Lookup.builtin page
  exact ⟨differ, distinct, (loop distinct).2, by cbv, apart "key" s' differ⟩

end Schema
end PageExtract
