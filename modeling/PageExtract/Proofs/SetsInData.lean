import Mathlib
import PageExtract.Proofs.Elementwise

/-! The node sets that a datum holds at any depth, and where those in the result of a built-in
transform come from. -/
namespace PageExtract

namespace Datum

/-- A datum is a node set, or a list with the node set in one of its items. -/
inductive Holds (s : NodeSet) : Datum → Prop
  | here : Holds s (.nodes s)
  | inside {items : List Datum} {d : Datum} (member : d ∈ items) (held : Holds s d) :
      Holds s (.list items)

variable {s t : NodeSet}

theorem holds_nodes_iff : Holds t (.nodes s) ↔ t = s := by
  constructor
  · intro h
    cases h
    rfl
  · rintro rfl
    exact .here

theorem holds_list_iff {items : List Datum} : Holds t (.list items) ↔ ∃ d ∈ items, Holds t d := by
  constructor
  · rintro (_ | ⟨member, held⟩)
    exact ⟨_, member, held⟩
  · rintro ⟨d, member, held⟩
    exact .inside member held

inductive Plain : Datum → Prop
  | string (text : String) : Plain (.string text)
  | null : Plain .null
  | undefined : Plain .undefined
  | list {items : List Datum} (each : ∀ d ∈ items, Plain d) : Plain (.list items)

theorem Plain.not_holds {d : Datum} (h : d.Plain) : ¬Holds t d := by
  induction h with
  | list _ ih =>
    intro held
    obtain ⟨d, member, held⟩ := holds_list_iff.1 held
    exact ih d member held
  | _ => exact nofun

theorem plain_getD {d : Datum} (h : d.Plain) (text : Option String) :
    ((text.map string).getD d).Plain := by
  cases text with
  | none => exact h
  | some text => exact .string text

theorem induction_on_items {motive : Datum → Prop}
    (list : ∀ items : List Datum, (∀ d ∈ items, motive d) → motive (.list items))
    (other : ∀ d : Datum, (∀ items, d ≠ .list items) → motive d) (d : Datum) : motive d := by
  match d with
  | .list items => exact list items fun d member => induction_on_items list other d
  | .nodes _ => exact other _ nofun
  | .string _ => exact other _ nofun
  | .number _ => exact other _ nofun
  | .boolean _ => exact other _ nofun
  | .null => exact other _ nofun
  | .undefined => exact other _ nofun
termination_by sizeOf d
decreasing_by
  have smaller := List.sizeOf_lt_of_mem member
  rw [Datum.list.sizeOf_spec]
  omega

end Datum

namespace Transform
open Datum (Holds Plain holds_nodes_iff holds_list_iff plain_getD)

section Results
variable {P : Datum → Prop} {d v : Datum}

theorem result_of_elementwise {f : Datum → Except TransformError Datum}
    (lists : ∀ items : List Datum, f (.list items) = (items.mapM f).map .list)
    (closed : ∀ items : List Datum, (∀ d ∈ items, P d) → P (.list items))
    (others : ∀ d v, (∀ items, d ≠ .list items) → f d = .ok v → P v) (h : f d = .ok v) : P v := by
  induction d using Datum.induction_on_items generalizing v with
  | other d single => exact others d v single h
  | list items ih =>
    rw [lists] at h
    obtain ⟨results, made, rfl⟩ := exists_of_map_eq_ok h
    refine closed results fun y member => ?_
    obtain ⟨d, inside, result⟩ := exists_of_mem_mapM made member
    exact ih d inside result

theorem result_of_onNodes {f : NodeSet → Except TransformError Datum}
    (closed : ∀ items : List Datum, (∀ d ∈ items, P d) → P (.list items))
    (each : ∀ s v, f s = .ok v → P v) (h : onNodes f d = .ok v) : P v := by
  refine result_of_elementwise (onNodes_list f) closed (fun d v single h => ?_) h
  cases d with
  | nodes s => exact each s v h
  | list items => exact absurd rfl (single items)
  | _ => cases h

theorem result_of_onStrings {f : List Char → Except TransformError Datum}
    (closed : ∀ items : List Datum, (∀ d ∈ items, P d) → P (.list items))
    (each : ∀ text v, f text = .ok v → P v) (h : onStrings f d = .ok v) : P v := by
  refine result_of_elementwise (onStrings_list f) closed (fun d v single h => ?_) h
  cases d with
  | nodes s => exact each _ v h
  | string text => exact each _ v h
  | list items => exact absurd rfl (single items)
  | _ => cases h

theorem plain_of_onNodes {f : NodeSet → Except TransformError Datum}
    (each : ∀ s v, f s = .ok v → v.Plain) (h : onNodes f d = .ok v) : v.Plain :=
  result_of_onNodes (fun _ => .list) each h

theorem plain_of_onStrings {f : List Char → Except TransformError Datum}
    (each : ∀ text v, f text = .ok v → v.Plain) (h : onStrings f d = .ok v) : v.Plain :=
  result_of_onStrings (fun _ => .list) each h

end Results

section Reaching
variable {P : NodeSet → NodeSet → Prop} {d v : Datum} {t : NodeSet}

theorem source_of_elementwise {f : Datum → Except TransformError Datum}
    (lists : ∀ items : List Datum, f (.list items) = (items.mapM f).map .list)
    (others : ∀ d v, (∀ items, d ≠ .list items) → f d = .ok v → Holds t v →
      ∃ s, Holds s d ∧ P s t)
    (h : f d = .ok v) (held : Holds t v) : ∃ s, Holds s d ∧ P s t := by
  induction d using Datum.induction_on_items generalizing v with
  | other d single => exact others d v single h held
  | list items ih =>
    rw [lists] at h
    obtain ⟨results, made, rfl⟩ := exists_of_map_eq_ok h
    obtain ⟨y, member, held⟩ := holds_list_iff.1 held
    obtain ⟨d, inside, result⟩ := exists_of_mem_mapM made member
    obtain ⟨s, holds, origin⟩ := ih d inside result held
    exact ⟨s, .inside inside holds, origin⟩

theorem source_of_onNodes {f : NodeSet → Except TransformError Datum}
    (each : ∀ s v, f s = .ok v → Holds t v → P s t) (h : onNodes f d = .ok v)
    (held : Holds t v) : ∃ s, Holds s d ∧ P s t := by
  refine source_of_elementwise (onNodes_list f) (fun d v single h held => ?_) h held
  cases d with
  | nodes s => exact ⟨s, .here, each s v h held⟩
  | list items => exact absurd rfl (single items)
  | _ => cases h

theorem source_of_sequence {items : List Datum} (h : sequence d = .ok items) {item : Datum}
    (member : item ∈ items) (held : Holds t item) : ∃ s, Holds s d ∧ (t = s ∨ t ∈ s.split) := by
  cases d with
  | nodes s =>
    cases h
    obtain ⟨part, inside, rfl⟩ := List.mem_map.1 member
    exact ⟨s, .here, .inr (holds_nodes_iff.1 held ▸ inside)⟩
  | list items =>
    cases h
    exact ⟨t, .inside member held, .inl rfl⟩
  | _ => cases h

end Reaching

section Builtin
variable {args : List Literal} {d v : Datum} {t : NodeSet}

theorem text_plain (h : text d args = .ok v) : v.Plain := by
  refine plain_of_onNodes (fun s v result => ?_) h
  cases result
  exact .string _

theorem markup_plain (h : markup d args = .ok v) : v.Plain := by
  refine plain_of_onNodes (fun s v result => ?_) h
  cases result
  exact plain_getD .null _

theorem attributeValue_plain (h : attributeValue d args = .ok v) : v.Plain := by
  rw [attributeValue] at h
  split at h
  · refine plain_of_onNodes (fun s v result => ?_) h
    cases result
    exact plain_getD .undefined _
  · cases h

theorem source_of_toArray (h : toArray d args = .ok v) (held : Holds t v) :
    ∃ s, Holds s d ∧ t ∈ s.split := by
  refine source_of_onNodes (P := fun s t => t ∈ s.split) (fun s v result held => ?_) h held
  cases result
  obtain ⟨_, member, held⟩ := holds_list_iff.1 held
  obtain ⟨part, inside, rfl⟩ := List.mem_map.1 member
  exact holds_nodes_iff.1 held ▸ inside

theorem source_of_find (h : find d args = .ok v) (held : Holds t v) :
    ∃ s selector, Holds s d ∧ Arguments.get args 0 = .string selector ∧
      s.query selector = .ok t := by
  rw [find] at h
  split at h
  next selector asked =>
    obtain ⟨s, holds, found⟩ := source_of_onNodes (P := fun s t => s.query selector = .ok t)
      (fun s v result held => by
        cases found : s.query selector with
        | error e =>
          rw [found] at result
          cases result
        | ok below =>
          rw [found] at result
          cases result
          rw [holds_nodes_iff.1 held]) h held
    exact ⟨s, selector, holds, asked, found⟩
  next => cases h

theorem mapped_plain (f : List Char → List Char) (h : mapped f d args = .ok v) : v.Plain := by
  refine plain_of_onStrings (fun text v result => ?_) h
  cases result
  exact .string _

theorem padStart_plain (h : padStart d args = .ok v) : v.Plain := by
  refine plain_of_onStrings (fun text v result => ?_) h
  obtain ⟨fill, _, rfl⟩ := exists_of_map_eq_ok result
  exact .string _

theorem padEnd_plain (h : padEnd d args = .ok v) : v.Plain := by
  refine plain_of_onStrings (fun text v result => ?_) h
  obtain ⟨fill, _, rfl⟩ := exists_of_map_eq_ok result
  exact .string _

theorem repeated_plain (h : repeated d args = .ok v) : v.Plain := by
  rw [repeated] at h
  split at h
  next count _ =>
    split at h
    · cases h
    · refine plain_of_onStrings (fun text v result => ?_) h
      split at result
      · cases result
      · cases result
        exact .string _
  next => cases h

theorem substring_plain (h : substring d args = .ok v) : v.Plain := by
  refine plain_of_onStrings (fun text v result => ?_) h
  cases result
  exact .string _

theorem split_plain (h : split d args = .ok v) : v.Plain := by
  refine plain_of_onStrings (fun text v result => ?_) h
  cases result
  refine .list fun d member => ?_
  obtain ⟨part, _, rfl⟩ := List.mem_map.1 member
  exact .string _

theorem join_plain (h : join d args = .ok v) : v.Plain := by
  obtain ⟨items, _, rfl⟩ := exists_of_map_eq_ok h
  exact .string _

theorem source_of_slice (h : slice d args = .ok v) (held : Holds t v) :
    ∃ s, Holds s d ∧ (t = s ∨ t ∈ s.split) := by
  unfold slice at h
  split at h
  next =>
    cases h
    exact absurd held (Plain.string _).not_holds
  next =>
    obtain ⟨items, whole, rfl⟩ := exists_of_map_eq_ok h
    obtain ⟨item, member, held⟩ := holds_list_iff.1 held
    exact source_of_sequence whole (List.mem_of_mem_drop (List.mem_of_mem_take member)) held

theorem source_of_splice (h : splice d args = .ok v) (held : Holds t v) :
    ∃ s, Holds s d ∧ (t = s ∨ t ∈ s.split) := by
  obtain ⟨items, whole, rfl⟩ := exists_of_map_eq_ok h
  dsimp only at held
  split at held
  · exact absurd held (Plain.list (by simp)).not_holds
  · obtain ⟨item, member, held⟩ := holds_list_iff.1 held
    exact source_of_sequence whole (List.mem_of_mem_drop (List.mem_of_mem_take member)) held

end Builtin
end Transform

inductive Call.Makes (c : Call) (s : NodeSet) : NodeSet → Prop
  | kept : Makes c s s
  | part {t : NodeSet} (member : t ∈ s.split) : Makes c s t
  | searched {t : NodeSet} {selector : String} (called : c.name = "find")
      (asked : Arguments.get c.args 0 = .string selector) (found : s.query selector = .ok t) :
      Makes c s t

namespace Call

theorem makes_of_part {c : Call} {s t : NodeSet} (h : t = s ∨ t ∈ s.split) : c.Makes s t := by
  rcases h with rfl | member
  · exact .kept
  · exact .part member

/-- Every node set in the result of a built-in call is one of its input, a part of one, or what
`find` finds below one. -/
theorem makes_of_apply {c : Call} {d v : Datum} (h : c.apply Lookup.builtin d = .ok v) {t : NodeSet}
    (held : Datum.Holds t v) : ∃ s, Datum.Holds s d ∧ c.Makes s t := by
  obtain ⟨name, args⟩ := c
  cases found : Lookup.builtin name with
  | none =>
    rw [apply, found] at h
    cases h
  | some transform =>
    rw [apply_eq_ok_iff found] at h
    revert h
    refine Registry.of_find?_ofList
      (P := fun name transform => transform d args = .ok v →
        ∃ s, Datum.Holds s d ∧ Makes ⟨name, args⟩ s t) ?_ found
    have free {c : Call} (plain : v.Plain) : ∃ s, Datum.Holds s d ∧ c.Makes s t :=
      absurd held plain.not_holds
    have part {c : Call} (source : ∃ s, Datum.Holds s d ∧ (t = s ∨ t ∈ s.split)) :
        ∃ s, Datum.Holds s d ∧ c.Makes s t :=
      source.imp fun s => And.imp_right makes_of_part
    have list (h : Transform.toArray d args = .ok v) :
        ∃ s, Datum.Holds s d ∧ (t = s ∨ t ∈ s.split) :=
      (Transform.source_of_toArray h held).imp fun s => And.imp_right .inr
    have searched (h : Transform.find d args = .ok v) :
        ∃ s, Datum.Holds s d ∧ Makes ⟨"find", args⟩ s t := by
      obtain ⟨s, selector, holds, asked, found⟩ := Transform.source_of_find h held
      exact ⟨s, holds, .searched rfl asked found⟩
    simp only [List.forall_mem_cons]
    -- One case for each entry of the built-in registry, in its order.
    open Transform in
    exact ⟨fun h => free (text_plain h), fun h => free (markup_plain h),
      fun h => free (attributeValue_plain h), fun h => part (list h), fun h => part (list h),
      searched, fun h => free (mapped_plain _ h), fun h => free (mapped_plain _ h),
      fun h => free (mapped_plain _ h), fun h => free (mapped_plain _ h),
      fun h => free (mapped_plain _ h), fun h => free (mapped_plain _ h),
      fun h => free (mapped_plain _ h), fun h => free (padStart_plain h),
      fun h => free (padEnd_plain h), fun h => free (repeated_plain h),
      fun h => free (substring_plain h), fun h => free (split_plain h),
      fun h => free (join_plain h), fun h => part (source_of_slice h held),
      fun h => part (source_of_splice h held), by simp⟩

end Call
end PageExtract
