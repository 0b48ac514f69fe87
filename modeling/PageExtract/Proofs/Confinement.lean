import Mathlib
import PageExtract.Proofs.DocumentOrder
import PageExtract.Proofs.Pipelines
import PageExtract.Proofs.Records
import PageExtract.Proofs.SetsInData

/-! The stages of a pipeline never get to elements outside of those that its selector finds, and
without transforms of other kinds no number and no truth value gets into a record. -/
namespace PageExtract

def NodeSet.InsideOf (s found : NodeSet) : Prop :=
  ∀ l ∈ s.members, l ∈ found.members ∨ ∃ m ∈ found.members, l ∈ m.descendants

namespace NodeSet
variable {found s t : NodeSet}

theorem insideOf_self (s : NodeSet) : s.InsideOf s := fun _ member => .inl member

theorem InsideOf.part (h : s.InsideOf found) (part : t ∈ s.split) : t.InsideOf found := by
  obtain ⟨l, member, rfl⟩ := List.mem_map.1 part
  simpa [InsideOf] using h l member

theorem InsideOf.query {selector : String} (h : s.InsideOf found)
    (searched : s.query selector = .ok t) : t.InsideOf found := by
  obtain ⟨compiled, _, rfl⟩ := exists_of_map_eq_ok searched
  intro x member
  obtain ⟨l, hl, below⟩ := List.mem_flatMap.1 member
  have inside : x ∈ l.descendants := (List.mem_filter.1 below).1
  rcases h l hl with hit | ⟨m, hm, deeper⟩
  · exact .inr ⟨l, hit, inside⟩
  · exact .inr ⟨m, hm, Html.Location.among_of_mem_descendants inside deeper⟩

theorem InsideOf.makes {c : Call} (h : s.InsideOf found) (made : c.Makes s t) :
    t.InsideOf found := by
  cases made with
  | kept => exact h
  | part member => exact h.part member
  | searched _ _ searched => exact h.query searched

end NodeSet

/-- Made of node sets, texts, null and undefined: no number and no truth value at any depth. -/
inductive Datum.Textual : Datum → Prop
  | nodes (s : NodeSet) : Textual (.nodes s)
  | list {items : List Datum} (each : ∀ d ∈ items, Textual d) : Textual (.list items)
  | string (text : String) : Textual (.string text)
  | null : Textual .null
  | undefined : Textual .undefined

inductive Json.Value.TextLike : Json.Value → Prop
  | string (text : String) : TextLike (.string text)
  | null : TextLike .null
  | array {items : List Json.Value} (each : ∀ v ∈ items, TextLike v) : TextLike (.array items)

namespace Datum

theorem Plain.textual {d : Datum} (h : d.Plain) : d.Textual := by
  induction h with
  | string text => exact .string text
  | null => exact .null
  | undefined => exact .undefined
  | list _ ih => exact .list ih

theorem itemsJson_eq_map (items : List Datum) :
    itemsJson items = items.map fun d => d.toJson?.getD .null := by
  induction items with
  | nil => rfl
  | cons d items ih => rw [itemsJson, ih, List.map_cons]

theorem Textual.textLike {d : Datum} (h : d.Textual) : ∀ json ∈ d.toJson?, json.TextLike := by
  induction h with
  | nodes s =>
    rintro _ ⟨⟩
    exact .string s.text
  | string text =>
    rintro _ ⟨⟩
    exact .string text
  | null =>
    rintro _ ⟨⟩
    exact .null
  | undefined => nofun
  | @list items _ ih =>
    rintro _ ⟨⟩
    refine .array fun json member => ?_
    rw [itemsJson_eq_map] at member
    obtain ⟨d, inside, rfl⟩ := List.mem_map.1 member
    cases form : d.toJson? with
    | none => exact .null
    | some json => exact ih d inside json form

end Datum

namespace Transform
open Datum (Textual)
variable {args : List Literal} {d v : Datum}

theorem textual_of_sequence {items : List Datum} (h : d.Textual) (whole : sequence d = .ok items) :
    ∀ item ∈ items, item.Textual := by
  cases h with
  | nodes s =>
    cases whole
    simp only [List.forall_mem_map]
    exact fun part _ => .nodes part
  | list each =>
    cases whole
    exact each
  | _ => cases whole

theorem toArray_textual (h : toArray d args = .ok v) : v.Textual := by
  refine result_of_onNodes (fun _ => .list) (fun s v result => ?_) h
  cases result
  refine .list ?_
  simp only [List.forall_mem_map]
  exact fun part _ => .nodes part

theorem find_textual (h : find d args = .ok v) : v.Textual := by
  rw [find] at h
  split at h
  · refine result_of_onNodes (fun _ => .list) (fun s v result => ?_) h
    cases found : s.query _ with
    | error e =>
      rw [found] at result
      cases result
    | ok below =>
      rw [found] at result
      cases result
      exact .nodes below
  · cases h

theorem slice_textual (input : d.Textual) (h : slice d args = .ok v) : v.Textual := by
  unfold slice at h
  split at h
  · cases h
    exact .string _
  · obtain ⟨items, whole, rfl⟩ := exists_of_map_eq_ok h
    refine .list fun item member => textual_of_sequence input whole item ?_
    exact List.mem_of_mem_drop (List.mem_of_mem_take member)

theorem splice_textual (input : d.Textual) (h : splice d args = .ok v) : v.Textual := by
  obtain ⟨items, whole, rfl⟩ := exists_of_map_eq_ok h
  dsimp only
  split
  · exact .list (by simp)
  · refine .list fun item member => textual_of_sequence input whole item ?_
    exact List.mem_of_mem_drop (List.mem_of_mem_take member)

end Transform

/-- What every built-in call keeps: the data are textual, and their node sets hold nothing outside of
the elements found first. -/
structure Datum.Confined (found : NodeSet) (d : Datum) : Prop where
  textual : d.Textual
  inside : ∀ s, d.Holds s → s.InsideOf found

namespace Call
variable {c : Call} {calls : List Call} {d v : Datum}

theorem textual_of_apply (input : d.Textual) (h : c.apply Lookup.builtin d = .ok v) :
    v.Textual := by
  cases found : Lookup.builtin c.name with
  | none =>
    rw [apply, found] at h
    cases h
  | some t =>
    rw [apply_eq_ok_iff found] at h
    revert h
    refine Registry.of_find?_ofList
      (P := fun _ t => t d c.args = .ok v → v.Textual) ?_ found
    simp only [List.forall_mem_cons]
    -- One case for each entry of the built-in registry, in its order.
    open Transform in
    exact ⟨fun h => (text_plain h).textual, fun h => (markup_plain h).textual,
      fun h => (attributeValue_plain h).textual, toArray_textual, toArray_textual, find_textual,
      fun h => (mapped_plain _ h).textual, fun h => (mapped_plain _ h).textual,
      fun h => (mapped_plain _ h).textual, fun h => (mapped_plain _ h).textual,
      fun h => (mapped_plain _ h).textual, fun h => (mapped_plain _ h).textual,
      fun h => (mapped_plain _ h).textual, fun h => (padStart_plain h).textual,
      fun h => (padEnd_plain h).textual, fun h => (repeated_plain h).textual,
      fun h => (substring_plain h).textual, fun h => (split_plain h).textual,
      fun h => (join_plain h).textual, slice_textual input, splice_textual input, by simp⟩

theorem confined_of_apply {found : NodeSet} (input : d.Confined found)
    (h : c.apply Lookup.builtin d = .ok v) : v.Confined found := by
  refine ⟨textual_of_apply input.textual h, fun t held => ?_⟩
  obtain ⟨s, holds, made⟩ := makes_of_apply h held
  exact (input.inside s holds).makes made

theorem confined_of_run {found : NodeSet} (input : d.Confined found)
    (h : run Lookup.builtin calls d = .ok v) : v.Confined found := by
  induction calls generalizing d with
  | nil =>
    cases h
    exact input
  | cons c calls ih =>
    obtain ⟨next, first, rest⟩ := run_cons_eq_ok_iff.1 h
    exact ih (confined_of_apply input first) rest

end Call

namespace Expression
variable {page : Html.Document} {v : Datum}

theorem confined_of_finish {found : NodeSet} {calls : List Call}
    (h : finish Lookup.builtin found calls = .ok (.value v)) : v.Confined found := by
  unfold finish at h
  split at h
  · cases h
  split at h
  · cases h
    exact ⟨.string _, fun t held => absurd held (Datum.Plain.string _).not_holds⟩
  · obtain ⟨_, outcome, same⟩ := exists_of_map_eq_ok h
    cases same
    refine Call.confined_of_run ⟨.nodes found, fun t held => ?_⟩ outcome
    rw [Datum.holds_nodes_iff.1 held]
    exact found.insideOf_self

theorem evaluate_confined {selector : String} {calls : List Call}
    (h : evaluate Lookup.builtin page (.query selector calls) = .ok (.value v)) :
    ∃ found, page.query selector = .ok found ∧ v.Confined found := by
  rw [evaluate] at h
  cases found : page.query selector with
  | error e =>
    rw [found] at h
    cases h
  | ok s =>
    rw [found] at h
    exact ⟨s, rfl, confined_of_finish h⟩

theorem evaluate_textual {e : Expression}
    (h : evaluate Lookup.builtin page e = .ok (.value v)) : v.Textual := by
  cases e with
  | constant text =>
    cases h
    exact .string text
  | query selector calls =>
    obtain ⟨_, _, confined⟩ := evaluate_confined h
    exact confined.textual

/-- Whatever value a built-in pipeline gives: the elements in its node sets are elements found by the
selector or stand in such ones, and nothing in it is a number or a truth value. So the values of a
record are strings, null and arrays of these. -/
theorem pipelines_stay_inside (page : Html.Document) :
    (∀ (selector : String) (calls : List Call) (v : Datum),
      evaluate Lookup.builtin page (.query selector calls) = .ok (.value v) →
        ∃ found, page.query selector = .ok found ∧ v.Textual ∧
          ∀ s, v.Holds s → ∀ l ∈ s.members,
            l ∈ found.members ∨ ∃ m ∈ found.members, l ∈ m.descendants) ∧
    ∀ (s : Schema) (key : String) (json : Json.Value),
      (key, json) ∈ s.extract Lookup.builtin page → json.TextLike := by
  refine ⟨fun selector calls v h => ?_, fun s key json member => ?_⟩
  · obtain ⟨found, asked, confined⟩ := evaluate_confined h
    exact ⟨found, asked, confined.textual, confined.inside⟩
  · obtain ⟨e, d, _, outcome, form⟩ := Schema.mem_extract_iff.1 member
    exact (evaluate_textual outcome).textLike json form

/-- The items of a list are found below it one level down, and their texts make an array. -/
theorem items_of_list_confined :
    let item : Nat → String → Html.Node := fun serial text =>
      .element ⟨serial, .html, "li", []⟩ [.text text]
    let page : Html.Document := ⟨[.element ⟨0, .html, "ul", []⟩ [item 1 "a", item 2 "b"]], []⟩
    let s : Schema := ⟨none, [], [("items", .query "li" [⟨"toArray", []⟩, ⟨"text", []⟩])]⟩
    ∃ ul li : NodeSet,
      evaluate Lookup.builtin page (.query "ul" [⟨"toArray", []⟩, ⟨"find", [.string "li"]⟩]) =
        .ok (.value (.list [.nodes li])) ∧
      page.query "ul" = .ok ul ∧ li.size = 2 ∧
      (∀ l ∈ li.members, l ∈ ul.members ∨ ∃ m ∈ ul.members, l ∈ m.descendants) ∧
      ("items", .array [.string "a", .string "b"]) ∈ s.extract Lookup.builtin page ∧
      Json.Value.TextLike (.array [.string "a", .string "b"]) := by
  intro item page s
  let frames : List Html.Frame := [⟨.page, [], []⟩]
  let li : NodeSet := ⟨[
    ⟨⟨1, .html, "li", []⟩, [.text "a"], ⟨.element ⟨0, .html, "ul", []⟩, [], [item 2 "b"]⟩ :: frames⟩,
    ⟨⟨2, .html, "li", []⟩, [.text "b"], ⟨.element ⟨0, .html, "ul", []⟩, [item 1 "a"], []⟩ :: frames⟩]⟩
  have value : evaluate Lookup.builtin page
      (.query "ul" [⟨"toArray", []⟩, ⟨"find", [.string "li"]⟩]) =
      .ok (.value (.list [.nodes li])) := by cbv
  have record : s.extract Lookup.builtin page =
      [("items", .array [.string "a", .string "b"])] := by cbv
  have field : ("items", .array [.string "a", .string "b"]) ∈ s.extract Lookup.builtin page := by
    rw [record]
    exact List.mem_cons_self
  obtain ⟨stages, fields⟩ := pipelines_stay_inside page
  obtain ⟨ul, found, _, inside⟩ := stages _ _ _ value
  exact ⟨ul, li, value, found, rfl, inside li (.inside List.mem_cons_self .here), field,
    fields s _ _ field⟩

end Expression
end PageExtract
