import Mathlib
import PageExtract.Proofs.Pipelines
import PageExtract.Proofs.Registries

/-! Transforms of strings take a node set for its text, and transforms of sequences take it for the
list of its nodes. A stage that converts the set first makes no difference to the outcome. -/
namespace PageExtract

theorem Datum.joinTexts_empty (texts : List String) : joinTexts "" texts = String.join texts := by
  induction texts with
  | nil => rfl
  | cons text rest ih =>
    cases rest with
    | nil => simp [joinTexts]
    | cons next rest =>
      rw [joinTexts, String.intercalate_cons_cons, ← joinTexts, ih]
      simp

namespace Transform

def ReadsText (t : Transform) : Prop :=
  ∀ (s : NodeSet) (args : List Literal), t (.nodes s) args = t (.string s.text) args

def ReadsParts (t : Transform) : Prop :=
  ∀ (s : NodeSet) (args : List Literal), t (.nodes s) args = t (.list (s.split.map .nodes)) args

theorem onStrings_nodes (f : List Char → Except TransformError Datum) (s : NodeSet) :
    onStrings f (.nodes s) = onStrings f (.string s.text) := by
  rw [onStrings, onStrings]

theorem onStrings_readsText (f : List Literal → List Char → Except TransformError Datum) :
    ReadsText fun d args => onStrings (f args) d :=
  fun s args => onStrings_nodes (f args) s

-- The count is looked at before the input, so a bad one is refused whatever the input is.
theorem repeated_readsText : ReadsText repeated := by
  intro s args
  unfold repeated
  cases Arguments.integer args 0 (.int 0) with
  | int count => simp only [onStrings_nodes]
  | negInfinity => rfl
  | infinity => rfl

theorem sequence_nodes (s : NodeSet) :
    sequence (.nodes s) = sequence (.list (s.split.map .nodes)) := by
  rw [sequence, sequence]

theorem join_readsParts : ReadsParts join := by
  intro s args
  simp only [join, sequence_nodes]

theorem slice_readsParts : ReadsParts slice := by
  intro s args
  simp only [slice, sequence_nodes]

theorem splice_readsParts : ReadsParts splice := by
  intro s args
  simp only [splice, sequence_nodes]

theorem join_texts (s : NodeSet) (args : List Literal) :
    join (.list (s.split.map fun part => .string part.text)) args = join (.nodes s) args := by
  have texts : (s.split.map fun part => Datum.string part.text).map Datum.itemText =
      (s.split.map Datum.nodes).map Datum.itemText := by
    simp [Function.comp_def, Datum.itemText, Datum.toText]
  simp only [join, sequence, Except.map, texts]

theorem join_empty (s : NodeSet) : join (.nodes s) [.string ""] = .ok (.string s.text) := by
  have texts : (s.split.map Datum.nodes).map Datum.itemText = s.members.map Html.Location.text := by
    simp [NodeSet.split, Function.comp_def, Datum.itemText, Datum.toText, NodeSet.text]
  have separator : Arguments.text [.string ""] 0 "," = "" := rfl
  simp only [join, sequence, Except.map, texts, separator, Datum.joinTexts_empty, NodeSet.text]

def stringNames : List String :=
  ["toLowerCase", "toUpperCase", "toLocaleLowerCase", "toLocaleUpperCase", "trim", "trimStart",
    "trimEnd", "padStart", "padEnd", "repeat", "substring", "split"]

def sequenceNames : List String := ["join", "slice", "splice"]

end Transform

theorem Lookup.builtin_readsText {name : String} (h : name ∈ Transform.stringNames) {t : Transform}
    (found : builtin name = some t) : t.ReadsText := by
  revert h
  refine Registry.of_find?_ofList
    (P := fun name t => name ∈ Transform.stringNames → t.ReadsText) ?_ found
  simp only [List.forall_mem_cons]
  have other {name : String} {t : Transform} (outside : name ∉ Transform.stringNames) :
      name ∈ Transform.stringNames → t.ReadsText := fun h => absurd h outside
  open Transform in
  exact ⟨other (by decide), other (by decide), other (by decide), other (by decide),
    other (by decide), other (by decide), fun _ => onStrings_readsText _,
    fun _ => onStrings_readsText _, fun _ => onStrings_readsText _, fun _ => onStrings_readsText _,
    fun _ => onStrings_readsText _, fun _ => onStrings_readsText _, fun _ => onStrings_readsText _,
    fun _ => onStrings_readsText _, fun _ => onStrings_readsText _, fun _ => repeated_readsText,
    fun _ => onStrings_readsText _, fun _ => onStrings_readsText _, other (by decide),
    other (by decide), other (by decide), by simp⟩

theorem Lookup.builtin_readsParts {name : String} (h : name ∈ Transform.sequenceNames)
    {t : Transform} (found : builtin name = some t) : t.ReadsParts := by
  simp only [Transform.sequenceNames, List.mem_cons, List.not_mem_nil, or_false] at h
  rcases h with rfl | rfl | rfl <;> cases found
  · exact Transform.join_readsParts
  · exact Transform.slice_readsParts
  · exact Transform.splice_readsParts

namespace Call
variable {lookup : Lookup}

theorem apply_congr_input {c : Call} {d d' : Datum}
    (same : ∀ t, lookup c.name = some t → t d c.args = t d' c.args) :
    c.apply lookup d = c.apply lookup d' := by
  rw [apply, apply]
  cases found : lookup c.name with
  | none => rfl
  | some t =>
    dsimp only
    rw [same t found]

theorem run_cons_ok {c : Call} {calls : List Call} {d next : Datum}
    (h : c.apply lookup d = .ok next) : run lookup (c :: calls) d = run lookup calls next := by
  rw [run, h]

theorem run_cons_congr {c : Call} {calls : List Call} {d d' : Datum}
    (same : c.apply lookup d = c.apply lookup d') :
    run lookup (c :: calls) d = run lookup (c :: calls) d' := by
  rw [run, run, same]

theorem apply_text (s : NodeSet) :
    apply Lookup.builtin ⟨"text", []⟩ (.nodes s) = .ok (.string s.text) := rfl

theorem apply_toArray (s : NodeSet) :
    apply Lookup.builtin ⟨"toArray", []⟩ (.nodes s) = .ok (.list (s.split.map .nodes)) := rfl

theorem apply_text_parts (parts : List NodeSet) :
    apply Lookup.builtin ⟨"text", []⟩ (.list (parts.map .nodes)) =
      .ok (.list (parts.map fun part => .string part.text)) := by
  have each : Transform.onEachNodes (fun s => .ok (.string s.text)) (parts.map .nodes) =
      .ok (parts.map fun part => .string part.text) := by
    induction parts with
    | nil => rfl
    | cons part parts ih =>
      rw [List.map_cons, Transform.onEachNodes, Transform.onNodes]
      dsimp only
      rw [ih]
      rfl
  have found : Lookup.builtin "text" = some Transform.text := rfl
  simp only [apply, found, Transform.text, Transform.onNodes, each, Except.map, Except.mapError]

end Call

namespace Expression
variable {page : Html.Document} {selector : String}

theorem evaluate_congr_chain {lookup : Lookup} {calls calls' : List Call} (some : calls ≠ [])
    (some' : calls' ≠ [])
    (same : ∀ s, Call.run lookup calls (.nodes s) = Call.run lookup calls' (.nodes s)) :
    evaluate lookup page (.query selector calls) = evaluate lookup page (.query selector calls') := by
  rw [evaluate_query some, evaluate_query some']
  simp only [same]

theorem evaluate_plain {lookup : Lookup} {c : Call}
    (same : ∀ s, c.apply lookup (.nodes s) = .ok (.string s.text)) :
    evaluate lookup page (.query selector []) = evaluate lookup page (.query selector [c]) := by
  rw [evaluate_query (List.cons_ne_nil c []), evaluate]
  cases page.query selector with
  | error e => rfl
  | ok found => simp only [finish, Call.run, same, Except.map]

/-- A transform of strings right behind the selector has the outcome that it has behind `text`, and
a transform of sequences that which it has behind `toArray`; what is joined are the texts of the
nodes; and without stages the outcome is the text, or the texts joined with nothing between them. -/
theorem conversions_are_implicit (page : Html.Document) (selector : String) :
    (∀ name ∈ Transform.stringNames, ∀ (args : List Literal) (calls : List Call),
      evaluate Lookup.builtin page (.query selector (⟨name, args⟩ :: calls)) =
        evaluate Lookup.builtin page
          (.query selector (⟨"text", []⟩ :: ⟨name, args⟩ :: calls))) ∧
    (∀ name ∈ Transform.sequenceNames, ∀ (args : List Literal) (calls : List Call),
      evaluate Lookup.builtin page (.query selector (⟨name, args⟩ :: calls)) =
        evaluate Lookup.builtin page
          (.query selector (⟨"toArray", []⟩ :: ⟨name, args⟩ :: calls))) ∧
    (∀ args : List Literal,
      evaluate Lookup.builtin page (.query selector [⟨"join", args⟩]) =
        evaluate Lookup.builtin page
          (.query selector [⟨"toArray", []⟩, ⟨"text", []⟩, ⟨"join", args⟩])) ∧
    evaluate Lookup.builtin page (.query selector []) =
      evaluate Lookup.builtin page (.query selector [⟨"text", []⟩]) ∧
    evaluate Lookup.builtin page (.query selector []) =
      evaluate Lookup.builtin page (.query selector [⟨"join", [.string ""]⟩]) := by
  refine ⟨fun name member args calls => ?_, fun name member args calls => ?_, fun args => ?_, ?_, ?_⟩
  · refine evaluate_congr_chain (by simp) (by simp) fun s => ?_
    rw [Call.run_cons_ok (Call.apply_text s)]
    refine Call.run_cons_congr (Call.apply_congr_input fun t found => ?_)
    exact Lookup.builtin_readsText member found s args
  · refine evaluate_congr_chain (by simp) (by simp) fun s => ?_
    rw [Call.run_cons_ok (Call.apply_toArray s)]
    refine Call.run_cons_congr (Call.apply_congr_input fun t found => ?_)
    exact Lookup.builtin_readsParts member found s args
  · refine evaluate_congr_chain (by simp) (by simp) fun s => ?_
    rw [Call.run_cons_ok (Call.apply_toArray s), Call.run_cons_ok (Call.apply_text_parts s.split)]
    refine Call.run_cons_congr (Call.apply_congr_input fun t found => ?_)
    cases found
    exact (Transform.join_texts s args).symm
  · exact evaluate_plain Call.apply_text
  · refine evaluate_plain fun s => ?_
    have found : Lookup.builtin "join" = some Transform.join := rfl
    rw [Call.apply, found]
    simp only [Transform.join_empty, Except.mapError]

/-- The text of two items is trimmed as a whole, and a separator goes between their texts. -/
theorem list_items_converted :
    let item : Nat → String → Html.Node := fun serial text =>
      .element ⟨serial, .html, "li", []⟩ [.text text]
    let page : Html.Document := ⟨[.element ⟨0, .html, "ul", []⟩ [item 1 " a ", item 2 "b "]], []⟩
    "trim" ∈ Transform.stringNames ∧ "join" ∈ Transform.sequenceNames ∧
      evaluate Lookup.builtin page (.query "li" [⟨"text", []⟩, ⟨"trim", []⟩]) =
        .ok (.value (.string "a b")) ∧
      evaluate Lookup.builtin page
        (.query "li" [⟨"toArray", []⟩, ⟨"join", [.string "/"]⟩, ⟨"trim", []⟩]) =
        .ok (.value (.string "a /b")) := by
  intro item page
  have isString : "trim" ∈ Transform.stringNames := by decide
  have isSequence : "join" ∈ Transform.sequenceNames := by decide
  obtain ⟨strings, sequences, _⟩ := conversions_are_implicit page "li"
  refine ⟨isString, isSequence, ?_, ?_⟩
  · rw [← strings "trim" isString [] []]
    cbv
  · rw [← sequences "join" isSequence [.string "/"] [⟨"trim", []⟩]]
    cbv

end Expression
end PageExtract
