import Mathlib
import PageExtract.Evaluation
import PageExtract.Proofs.Registries

/-! The transforms that reach into lists make of a list the list of what they make of its items,
and so does a chain of them. -/
namespace PageExtract

section Rows
variable {ε α β γ : Type} {f : α → Except ε β}

theorem exists_of_map_eq_ok {outcome : Except ε α} {g : α → β} {y : β}
    (h : outcome.map g = .ok y) : ∃ x, outcome = .ok x ∧ g x = y := by
  cases outcome with
  | error e => cases h
  | ok x =>
    cases h
    exact ⟨x, rfl, rfl⟩

theorem mapM_cons_ok {x : α} {xs : List α} {y : β} (h : f x = .ok y) :
    (x :: xs).mapM f = (xs.mapM f).map (y :: ·) := by
  rw [List.mapM_cons, h]
  cases xs.mapM f <;> rfl

theorem mapM_cons_error {x : α} {xs : List α} {e : ε} (h : f x = .error e) :
    (x :: xs).mapM f = .error e := by
  rw [List.mapM_cons, h]
  rfl

theorem mapM_eq_ok_iff {xs : List α} {ys : List β} :
    xs.mapM f = .ok ys ↔ List.Forall₂ (fun x y => f x = .ok y) xs ys := by
  induction xs generalizing ys with
  | nil => cases ys <;> simp [pure, Except.pure]
  | cons x xs ih =>
    cases first : f x with
    | error e => cases ys <;> simp [mapM_cons_error first, first]
    | ok y =>
      rw [mapM_cons_ok first]
      cases ys with
      | nil => cases xs.mapM f <;> simp [Except.map]
      | cons z zs =>
        rw [List.forall₂_cons, ← ih, first]
        cases xs.mapM f <;> simp [Except.map]

theorem exists_of_mem_mapM {xs : List α} {ys : List β} (h : xs.mapM f = .ok ys) {y : β}
    (member : y ∈ ys) : ∃ x ∈ xs, f x = .ok y := by
  replace h := mapM_eq_ok_iff.1 h
  induction h with
  | nil => cases member
  | cons first _ ih =>
    rcases List.mem_cons.1 member with rfl | member
    · exact ⟨_, List.mem_cons_self, first⟩
    · obtain ⟨x, inside, result⟩ := ih member
      exact ⟨x, List.mem_cons_of_mem _ inside, result⟩

theorem mapM_eq_error_iff {xs : List α} {e : ε} :
    xs.mapM f = .error e ↔
      ∃ before x after, xs = before ++ x :: after ∧ (∀ b ∈ before, ∃ y, f b = .ok y) ∧
        f x = .error e := by
  induction xs with
  | nil => simp [pure, Except.pure]
  | cons x xs ih =>
    cases first : f x with
    | error e' =>
      rw [mapM_cons_error first]
      constructor
      · intro same
        cases same
        exact ⟨[], x, xs, rfl, by simp, first⟩
      · rintro ⟨before, x', after, split, fine, failure⟩
        cases before with
        | nil =>
          cases split
          rw [first] at failure
          cases failure
          rfl
        | cons b before =>
          cases split
          obtain ⟨y, success⟩ := fine x List.mem_cons_self
          rw [first] at success
          cases success
    | ok y =>
      have rest : (x :: xs).mapM f = .error e ↔ xs.mapM f = .error e := by
        rw [mapM_cons_ok first]
        cases xs.mapM f <;> simp [Except.map]
      rw [rest, ih]
      constructor
      · rintro ⟨before, x', after, rfl, fine, failure⟩
        exact ⟨x :: before, x', after, rfl, List.forall_mem_cons.2 ⟨⟨y, first⟩, fine⟩, failure⟩
      · rintro ⟨before, x', after, split, fine, failure⟩
        cases before with
        | nil =>
          cases split
          rw [first] at failure
          cases failure
        | cons b before =>
          cases split
          exact ⟨before, x', after, rfl, (List.forall_mem_cons.1 fine).2, failure⟩

theorem mapM_of_forall_ok {xs : List α} (each : ∀ x ∈ xs, ∃ y, f x = .ok y) :
    xs.mapM f = .ok (xs.filterMap fun x => (f x).toOption) := by
  induction xs with
  | nil => rfl
  | cons x xs ih =>
    obtain ⟨y, first⟩ := each x List.mem_cons_self
    rw [mapM_cons_ok first, ih fun z inside => each z (List.mem_cons_of_mem x inside),
      List.filterMap_cons, first]
    rfl

theorem mapM_of_mem_error {xs : List α} {x : α} {e : ε} (inside : x ∈ xs)
    (fails : f x = .error e) : ∃ e', xs.mapM f = .error e' := by
  induction xs with
  | nil => cases inside
  | cons z xs ih =>
    cases first : f z with
    | error e' => exact ⟨e', mapM_cons_error first⟩
    | ok y =>
      rcases List.mem_cons.1 inside with rfl | later
      · rw [fails] at first
        cases first
      · obtain ⟨e', rest⟩ := ih later
        exact ⟨e', by rw [mapM_cons_ok first, rest]; rfl⟩

theorem forall₂_comp_iff {R : α → β → Prop} {S : β → γ → Prop} {xs : List α} {zs : List γ} :
    List.Forall₂ (fun x z => ∃ y, R x y ∧ S y z) xs zs ↔
      ∃ ys, List.Forall₂ R xs ys ∧ List.Forall₂ S ys zs := by
  constructor
  · intro h
    induction h with
    | nil => exact ⟨[], .nil, .nil⟩
    | cons both _ ih =>
      obtain ⟨y, first, second⟩ := both
      obtain ⟨ys, firsts, seconds⟩ := ih
      exact ⟨y :: ys, .cons first firsts, .cons second seconds⟩
  · rintro ⟨ys, firsts, seconds⟩
    induction firsts generalizing zs with
    | nil =>
      cases seconds
      exact .nil
    | cons first _ ih =>
      cases seconds with
      | cons second seconds => exact .cons ⟨_, first, second⟩ (ih seconds)

end Rows

namespace Transform

/-- A function of data that takes a list item by item, up to the first error. -/
def Elementwise (f : Datum → Except TransformError Datum) : Prop :=
  ∀ items : List Datum, items ≠ [] → f (.list items) = (items.mapM f).map .list

theorem onEachNodes_eq_mapM (f : NodeSet → Except TransformError Datum) (items : List Datum) :
    onEachNodes f items = items.mapM (onNodes f) := by
  induction items with
  | nil => rfl
  | cons d rest ih =>
    rw [onEachNodes]
    cases first : onNodes f d with
    | error e => rw [mapM_cons_error first]
    | ok y => rw [mapM_cons_ok first, ih]

theorem onEachString_eq_mapM (f : List Char → Except TransformError Datum) (items : List Datum) :
    onEachString f items = items.mapM (onStrings f) := by
  induction items with
  | nil => rfl
  | cons d rest ih =>
    rw [onEachString]
    cases first : onStrings f d with
    | error e => rw [mapM_cons_error first]
    | ok y => rw [mapM_cons_ok first, ih]

theorem onNodes_list (f : NodeSet → Except TransformError Datum) (items : List Datum) :
    onNodes f (.list items) = (items.mapM (onNodes f)).map .list := by
  rw [onNodes, onEachNodes_eq_mapM]

theorem onStrings_list (f : List Char → Except TransformError Datum) (items : List Datum) :
    onStrings f (.list items) = (items.mapM (onStrings f)).map .list := by
  rw [onStrings, onEachString_eq_mapM]

theorem onNodes_elementwise (f : NodeSet → Except TransformError Datum) :
    Elementwise (onNodes f) := fun items _ => onNodes_list f items

theorem onStrings_elementwise (f : List Char → Except TransformError Datum) :
    Elementwise (onStrings f) := fun items _ => onStrings_list f items

theorem failure_elementwise (e : TransformError) : Elementwise fun _ => .error e := by
  intro items nonempty
  obtain ⟨d, rest, rfl⟩ := List.exists_cons_of_ne_nil nonempty
  have first : (d :: rest).mapM (fun _ => Except.error e) =
      (Except.error e : Except TransformError (List Datum)) := mapM_cons_error rfl
  rw [first]
  rfl

theorem attributeValue_elementwise (args : List Literal) :
    Elementwise fun d => attributeValue d args := by
  unfold attributeValue
  cases Arguments.get args 0 with
  | string name => exact onNodes_elementwise _
  | _ => exact failure_elementwise _

theorem find_elementwise (args : List Literal) : Elementwise fun d => find d args := by
  unfold find
  cases Arguments.get args 0 with
  | string selector => exact onNodes_elementwise _
  | _ => exact failure_elementwise _

theorem repeated_elementwise (args : List Literal) : Elementwise fun d => repeated d args := by
  unfold repeated
  cases Arguments.integer args 0 (.int 0) with
  | int count =>
    by_cases negative : count < 0
    · simp only [negative, if_true]
      exact failure_elementwise _
    · simp only [negative, if_false]
      exact onStrings_elementwise _
  | _ => exact failure_elementwise _

def elementwiseNames : List String :=
  ["text", "html", "attr", "toArray", "to$Array", "find", "toLowerCase", "toUpperCase",
    "toLocaleLowerCase", "toLocaleUpperCase", "trim", "trimStart", "trimEnd", "padStart", "padEnd",
    "repeat", "substring", "split"]

end Transform

theorem Lookup.builtin_elementwise {name : String} (h : name ∈ Transform.elementwiseNames) :
    ∃ t, builtin name = some t ∧ ∀ args, Transform.Elementwise fun d => t d args := by
  obtain ⟨t, found⟩ : ∃ t, builtin name = some t := by
    refine Registry.exists_find?_ofList ?_
    revert name
    decide
  refine ⟨t, found, ?_⟩
  revert h
  refine Registry.of_find?_ofList
    (P := fun name t => name ∈ Transform.elementwiseNames →
      ∀ args, Transform.Elementwise fun d => t d args) ?_ found
  simp only [List.forall_mem_cons]
  open Transform in
  exact ⟨fun _ _ => onNodes_elementwise _, fun _ _ => onNodes_elementwise _,
    fun _ => attributeValue_elementwise, fun _ _ => onNodes_elementwise _,
    fun _ _ => onNodes_elementwise _, fun _ => find_elementwise,
    fun _ _ => onStrings_elementwise _, fun _ _ => onStrings_elementwise _,
    fun _ _ => onStrings_elementwise _, fun _ _ => onStrings_elementwise _,
    fun _ _ => onStrings_elementwise _, fun _ _ => onStrings_elementwise _,
    fun _ _ => onStrings_elementwise _, fun _ _ => onStrings_elementwise _,
    fun _ _ => onStrings_elementwise _, fun _ => repeated_elementwise,
    fun _ _ => onStrings_elementwise _, fun _ _ => onStrings_elementwise _,
    fun h => absurd h (by decide), fun h => absurd h (by decide), fun h => absurd h (by decide),
    by simp⟩

namespace Transform.Elementwise
variable {f : Datum → Except TransformError Datum} {items : List Datum}

theorem eq_ok_iff (h : Elementwise f) (nonempty : items ≠ []) {v : Datum} :
    f (.list items) = .ok v ↔
      ∃ made, v = .list made ∧ List.Forall₂ (fun d y => f d = .ok y) items made := by
  rw [h items nonempty]
  simp only [← mapM_eq_ok_iff]
  cases items.mapM f with
  | error e => simp [Except.map]
  | ok made => simp [Except.map, eq_comm]

theorem eq_error_iff (h : Elementwise f) (nonempty : items ≠ []) {e : TransformError} :
    f (.list items) = .error e ↔
      ∃ before d after, items = before ++ d :: after ∧ (∀ b ∈ before, ∃ y, f b = .ok y) ∧
        f d = .error e := by
  rw [h items nonempty, ← mapM_eq_error_iff]
  cases items.mapM f with
  | error e' => simp [Except.map]
  | ok made => simp [Except.map]

end Transform.Elementwise

namespace Call
variable {lookup : Lookup}

theorem apply_eq_ok_iff {c : Call} {t : Transform} (found : lookup c.name = some t) {d v : Datum} :
    c.apply lookup d = .ok v ↔ t d c.args = .ok v := by
  rw [apply, found]
  cases result : t d c.args <;> simp [result, Except.mapError]

theorem run_cons_eq_ok_iff {c : Call} {calls : List Call} {d v : Datum} :
    run lookup (c :: calls) d = .ok v ↔
      ∃ next, c.apply lookup d = .ok next ∧ run lookup calls next = .ok v := by
  rw [run]
  cases c.apply lookup d <;> simp

theorem run_list_eq_ok_iff {calls : List Call}
    (elementwise : ∀ c ∈ calls, ∃ t, lookup c.name = some t ∧
      ∀ args, Transform.Elementwise fun d => t d args)
    {items : List Datum} (nonempty : items ≠ []) {v : Datum} :
    run lookup calls (.list items) = .ok v ↔
      ∃ made, v = .list made ∧ List.Forall₂ (fun d y => run lookup calls d = .ok y) items made := by
  -- The stages meet the items in another order than a chain that is run on one item after the
  -- other, so the two can fail with different errors, and only success is compared.
  induction calls generalizing items with
  | nil => simp [run, List.forall₂_eq_eq_eq, eq_comm]
  | cons c calls ih =>
    obtain ⟨⟨t, found, stage⟩, others⟩ := List.forall_mem_cons.1 elementwise
    simp only [run_cons_eq_ok_iff, apply_eq_ok_iff found, (stage c.args).eq_ok_iff nonempty,
      forall₂_comp_iff]
    have later {between : List Datum}
        (firsts : List.Forall₂ (fun d y => t d c.args = .ok y) items between) :
        run lookup calls (.list between) = .ok v ↔
          ∃ made, v = .list made ∧
            List.Forall₂ (fun d y => run lookup calls d = .ok y) between made := by
      refine ih others fun none => nonempty ?_
      rw [none] at firsts
      cases firsts
      rfl
    constructor
    · rintro ⟨_, ⟨between, rfl, firsts⟩, success⟩
      obtain ⟨made, value, seconds⟩ := (later firsts).1 success
      exact ⟨made, value, between, firsts, seconds⟩
    · rintro ⟨made, value, between, firsts, seconds⟩
      exact ⟨_, ⟨between, rfl, firsts⟩, (later firsts).2 ⟨made, value, seconds⟩⟩

/-- Every built-in transform that reaches into lists makes of a list the list of what it makes of
the items, or fails as it does on the first item on which it fails. A chain of them succeeds on a
list exactly if it succeeds on every item, and gives the list of the results. -/
theorem elementwise_chains_map_lists {items : List Datum} (nonempty : items ≠ []) :
    (∀ name ∈ Transform.elementwiseNames, ∃ t, Lookup.builtin name = some t ∧
      ∀ args : List Literal,
        (∀ v, t (.list items) args = .ok v ↔
          ∃ made, v = .list made ∧ List.Forall₂ (fun d y => t d args = .ok y) items made) ∧
        ∀ e, t (.list items) args = .error e ↔
          ∃ before d after, items = before ++ d :: after ∧
            (∀ b ∈ before, ∃ y, t b args = .ok y) ∧ t d args = .error e) ∧
    ∀ calls : List Call, (∀ c ∈ calls, c.name ∈ Transform.elementwiseNames) →
      ∀ v, run Lookup.builtin calls (.list items) = .ok v ↔
        ∃ made, v = .list made ∧
          List.Forall₂ (fun d y => run Lookup.builtin calls d = .ok y) items made := by
  refine ⟨fun name member => ?_, fun calls members v => ?_⟩
  · obtain ⟨t, found, elementwise⟩ := Lookup.builtin_elementwise member
    exact ⟨t, found, fun args =>
      ⟨fun v => (elementwise args).eq_ok_iff nonempty,
        fun e => (elementwise args).eq_error_iff nonempty⟩⟩
  · exact run_list_eq_ok_iff
      (fun c member => Lookup.builtin_elementwise (members c member)) nonempty

/-- A list inside the list keeps its shape, and every text is split where it stands. -/
theorem split_inside_nested_list :
    let items : List Datum := [.string "a, b", .list [.string " c"]]
    let calls : List Call := [⟨"split", [.string ","]⟩, ⟨"trim", []⟩]
    items ≠ [] ∧ (∀ c ∈ calls, c.name ∈ Transform.elementwiseNames) ∧
      run Lookup.builtin calls (.list items) =
        .ok (.list [.list [.string "a", .string "b"], .list [.list [.string "c"]]]) := by
  intro items calls
  have nonempty : items ≠ [] := by simp [items]
  have members : ∀ c ∈ calls, c.name ∈ Transform.elementwiseNames := by decide
  have first : run Lookup.builtin calls (.string "a, b") =
      .ok (.list [.string "a", .string "b"]) := by cbv
  have second : run Lookup.builtin calls (.list [.string " c"]) =
      .ok (.list [.list [.string "c"]]) := by cbv
  have chain := (elementwise_chains_map_lists nonempty).2 calls members
  exact ⟨nonempty, members, (chain _).2 ⟨_, rfl, .cons first (.cons second .nil)⟩⟩

end Call

end PageExtract
