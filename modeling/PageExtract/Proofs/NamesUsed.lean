import Mathlib
import PageExtract.Proofs.Registries
import PageExtract.Schema.Basic

/-! An extraction asks its look-up for the names in its expressions and for no others. Whatever
else is registered does not show in a record. -/
namespace PageExtract

def Expression.names : Expression → List String
  | .constant _ => []
  | .query _ calls => calls.map Call.name

def Schema.names (s : Schema) : List String := s.fields.flatMap fun field => field.2.names

section Agreement
variable {lookup lookup' : Lookup}

namespace Call

theorem apply_congr (c : Call) (agree : lookup c.name = lookup' c.name) (d : Datum) :
    c.apply lookup d = c.apply lookup' d := by
  rw [apply, apply, agree]

theorem run_congr (calls : List Call)
    (agree : ∀ name ∈ calls.map Call.name, lookup name = lookup' name) (d : Datum) :
    run lookup calls d = run lookup' calls d := by
  induction calls generalizing d with
  | nil => rfl
  | cons c calls ih =>
    rw [List.map_cons, List.forall_mem_cons] at agree
    obtain ⟨first, others⟩ := agree
    rw [run, run, apply_congr c first]
    cases c.apply lookup' d with
    | error e => rfl
    | ok next => exact ih others next

end Call

namespace Expression

theorem evaluate_congr (e : Expression) (agree : ∀ name ∈ e.names, lookup name = lookup' name)
    (page : Html.Document) : evaluate lookup page e = evaluate lookup' page e := by
  cases e with
  | constant text => rfl
  | query selector calls =>
    rw [evaluate, evaluate]
    cases page.query selector with
    | error e => rfl
    | ok found =>
      cases calls with
      | nil => rfl
      | cons c calls =>
        have runs := Call.run_congr (c :: calls) agree (.nodes found)
        simp only [finish, runs]

end Expression

namespace Schema

theorem extract_congr (s : Schema) (agree : ∀ name ∈ s.names, lookup name = lookup' name)
    (page : Html.Document) : s.extract lookup page = s.extract lookup' page := by
  rw [extract, extract]
  refine List.filterMap_congr ?_
  rintro ⟨key, e⟩ member
  have outcomes : e.evaluate lookup page = e.evaluate lookup' page :=
    e.evaluate_congr (fun name used => agree name (List.mem_flatMap.2 ⟨_, member, used⟩)) page
  simp only [fieldValue?, outcomes]

end Schema

end Agreement

theorem Lookup.withCustom_congr {custom other : Registry} {name : String}
    (agree : custom.find? name = other.find? name) :
    withCustom custom name = withCustom other name := by
  rw [withCustom, withCustom, agree]

namespace Extractor

theorem extract?_congr {schemas : List Schema} {custom other : Registry}
    (agree : ∀ s ∈ schemas, ∀ name ∈ s.names, custom.find? name = other.find? name) (url : String)
    (page : Html.Document) :
    extract? ⟨schemas, custom⟩ url page = extract? ⟨schemas, other⟩ url page := by
  simp only [extract?, schemaFor?]
  cases chosen : schemas.find? fun s => s.isMatching url page with
  | none => rfl
  | some s =>
    have member := List.mem_of_find?_eq_some chosen
    exact congrArg some
      (s.extract_congr (fun name used => Lookup.withCustom_congr (agree s member name used)) page)

/-- Registries that agree on the names in the schemas give the same records. So registering,
replacing and dropping transforms under other names changes nothing, and an empty registry is as
good as none. Where a registry has a transform, every stage of that name runs it. -/
theorem records_from_names_used (schemas : List Schema) (custom : Registry) (url : String)
    (page : Html.Document) :
    (∀ other : Registry,
      (∀ s ∈ schemas, ∀ name ∈ s.names, custom.find? name = other.find? name) →
        extract? ⟨schemas, custom⟩ url page = extract? ⟨schemas, other⟩ url page ∧
        ∀ s ∈ schemas, s.extract (Lookup.withCustom custom) page =
          s.extract (Lookup.withCustom other) page) ∧
    (∀ name t, (∀ s ∈ schemas, name ∉ s.names) →
      extract? ⟨schemas, custom.register name t⟩ url page = extract? ⟨schemas, custom⟩ url page) ∧
    (∀ keep : String → Bool, (∀ s ∈ schemas, ∀ name ∈ s.names, keep name) →
      extract? ⟨schemas, custom.restrict keep⟩ url page = extract? ⟨schemas, custom⟩ url page) ∧
    (extract? ⟨schemas, Registry.empty⟩ url page =
      (schemas.find? fun s => s.isMatching url page).map fun s => s.extract Lookup.builtin page) ∧
    ∀ name t, custom.find? name = some t → ∀ (args : List Literal) (d : Datum),
      Call.apply (Lookup.withCustom custom) ⟨name, args⟩ d =
        (t d args).mapError (.transform name) := by
  refine ⟨fun other agree => ⟨extract?_congr agree url page, fun s member => ?_⟩, ?_, ?_, ?_, ?_⟩
  · exact s.extract_congr (fun name used => Lookup.withCustom_congr (agree s member name used)) page
  · intro name t unused
    refine extract?_congr (fun s member used mentioned => ?_) url page
    have different : name ≠ used := fun same => unused s member (same ▸ mentioned)
    rw [Registry.find?_register, if_neg different]
  · intro keep kept
    refine extract?_congr (fun s member used mentioned => ?_) url page
    rw [Registry.find?_restrict, if_pos (kept s member used mentioned)]
  · rw [extract?, Lookup.withCustom_empty]
    rfl
  · intro name t found args d
    rw [Call.apply, Lookup.withCustom_of_find? found]

/-- The stage `trim` runs the registered transform, and one of another name has no part in it. -/
theorem records_with_own_trim :
    let own : Registry := Registry.empty.register "trim" fun _ _ => .ok (.string "own")
    let schema : Schema := ⟨none, [], [("title", .query "h1" [⟨"trim", []⟩])]⟩
    let page : Html.Document := ⟨[.element ⟨0, .html, "h1", []⟩ [.text "a"]], []⟩
    let more : Registry := own.register "shout" Transform.join
    (∀ name ∈ schema.names, own.find? name = more.find? name) ∧
      extract? ⟨[schema], own⟩ "" page = extract? ⟨[schema], more⟩ "" page ∧
      extract? ⟨[schema], own⟩ "" page = some [("title", .string "own")] := by
  intro own schema page more
  have agree : ∀ name ∈ schema.names, own.find? name = more.find? name := by
    intro name used
    have unlike : "shout" ≠ name := fun same => absurd (same ▸ used) (by decide)
    rw [own.find?_register, if_neg unlike]
  have same := (records_from_names_used [schema] own "" page).1 more (by simpa using agree)
  exact ⟨agree, same.1, by cbv⟩

end Extractor
end PageExtract
