import Mathlib
import PageExtract.Proofs.Confinement
import PageExtract.Proofs.NumberTexts

/-! Which data are equal to themselves, and that equality runs both ways, goes from datum to datum
and is respected by everything that is shown of a datum, wherever in a list it stands. -/
namespace PageExtract

namespace Number
variable {m n : Number}

theorem equals_symm (h : m.equals n = true) : n.equals m = true := by
  obtain ⟨number, same⟩ := equals_iff_unsignedZero.1 h
  refine equals_iff_unsignedZero.2 ⟨?_, same.symm⟩
  rintro rfl
  cases m with
  | nan => exact number rfl
  | _ => cases same

theorem equals_trans {k : Number} (first : m.equals n = true) (second : n.equals k = true) :
    m.equals k = true := by
  obtain ⟨number, same⟩ := equals_iff_unsignedZero.1 first
  exact equals_iff_unsignedZero.2 ⟨number, same.trans (equals_iff_unsignedZero.1 second).2⟩

theorem equals_self_iff : n.equals n = true ↔ n ≠ nan := by
  simp [equals_iff_unsignedZero]

theorem format_of_equals (h : m.equals n = true) : m.format = n.format :=
  format_inj.2 (.inl h)

end Number

theorem Json.ofNumber_unsignedZero (n : Number) : ofNumber n.unsignedZero = ofNumber n := by
  cases n with
  | nan => rfl
  | infinite negative => rfl
  | finite negative a =>
    by_cases zero : a.units = 0
    · have none : a.floor = 0 := by rw [Magnitude.floor, zero, Nat.zero_div]
      have integral : a.isIntegral = true := by simp [Magnitude.isIntegral, zero]
      have small : 0 < integerBound := by decide
      simp [Number.unsignedZero, ofNumber, zero, none, integral, small]
    · have some : (a.units != 0) = true := bne_iff_ne.2 zero
      rw [Number.unsignedZero, some, Bool.and_true]

theorem Json.ofNumber_of_equals {m n : Number} (h : m.equals n = true) :
    ofNumber m = ofNumber n := by
  rw [← ofNumber_unsignedZero, (Number.equals_iff_unsignedZero.1 h).2, ofNumber_unsignedZero]

theorem NodeSet.equals_iff {s t : NodeSet} :
    s.equals t = true ↔ s.size = t.size ∧ s.markup? = t.markup? ∧ s.text = t.text := by
  simp [equals, and_assoc]

namespace Datum

theorem allEqual_iff {as bs : List Datum} :
    allEqual as bs = true ↔ List.Forall₂ (fun a b => a.equals b = true) as bs := by
  induction as generalizing bs with
  | nil => cases bs <;> simp [allEqual]
  | cons a as ih => cases bs <;> simp [allEqual, ih]

theorem equals_list_iff {as bs : List Datum} :
    (list as).equals (list bs) = true ↔ List.Forall₂ (fun a b => a.equals b = true) as bs := by
  rw [equals, allEqual_iff]

theorem exists_list_of_equals {as : List Datum} {b : Datum} (h : (list as).equals b = true) :
    ∃ bs, b = list bs ∧ List.Forall₂ (fun a b => a.equals b = true) as bs := by
  cases b with
  | list bs => exact ⟨bs, rfl, equals_list_iff.1 h⟩
  | _ => simp [equals] at h

theorem eq_of_equals {a b : Datum} (noList : ∀ items, a ≠ .list items) (noSet : ∀ s, a ≠ .nodes s)
    (noNumber : ∀ n, a ≠ .number n) (h : a.equals b = true) : a = b := by
  cases a <;> cases b <;> simp_all [equals]

/-- The induction over two equal data: one case for node sets, one for numbers, one for lists whose
items are equal in pairs, and one for data that are the same. -/
theorem equals_induction {motive : Datum → Datum → Prop}
    (nodes : ∀ s t : NodeSet, s.equals t = true → motive (.nodes s) (.nodes t))
    (number : ∀ m n : Number, m.equals n = true → motive (.number m) (.number n))
    (list : ∀ as bs, List.Forall₂ (fun a b => a.equals b = true ∧ motive a b) as bs →
      motive (.list as) (.list bs))
    (same : ∀ d : Datum, d.equals d = true → motive d d) {a b : Datum} (h : a.equals b = true) :
    motive a b := by
  induction a using induction_on_items generalizing b with
  | list as ih =>
    obtain ⟨bs, rfl, pairs⟩ := exists_list_of_equals h
    have each : ∀ a ∈ as, ∀ b, a.equals b = true → motive a b := fun a member b => ih a member
    have both := (List.forall₂_and_left _ _).2 ⟨each, pairs⟩
    exact list as bs (both.imp fun a b pair => ⟨pair.2, pair.1 b pair.2⟩)
  | other a single =>
    cases a with
    | list as => exact absurd rfl (single as)
    | nodes s =>
      cases b with
      | nodes t => exact nodes s t h
      | _ => simp [equals] at h
    | number m =>
      cases b with
      | number n => exact number m n h
      | _ => simp [equals] at h
    | _ =>
      obtain rfl := eq_of_equals (by simp) (by simp) (by simp) h
      exact same _ h

theorem equals_symm {a b : Datum} (h : a.equals b = true) : b.equals a = true := by
  refine equals_induction (motive := fun a b => b.equals a = true) ?_ ?_ ?_ (fun d self => self) h
  · intro s t pair
    obtain ⟨size, markup, text⟩ := NodeSet.equals_iff.1 pair
    exact NodeSet.equals_iff.2 ⟨size.symm, markup.symm, text.symm⟩
  · intro m n pair
    exact Number.equals_symm pair
  · intro as bs pairs
    exact equals_list_iff.2 (pairs.imp fun a b pair => pair.2).flip

theorem equals_trans {a b c : Datum} (first : a.equals b = true) (second : b.equals c = true) :
    a.equals c = true := by
  refine equals_induction (motive := fun a b => ∀ c, b.equals c = true → a.equals c = true)
    ?_ ?_ ?_ (fun d _ c pair => pair) first c second
  · intro s t pair c behind
    cases c with
    | nodes u =>
      obtain ⟨size, markup, text⟩ := NodeSet.equals_iff.1 pair
      obtain ⟨size', markup', text'⟩ := NodeSet.equals_iff.1 behind
      exact NodeSet.equals_iff.2 ⟨size.trans size', markup.trans markup', text.trans text'⟩
    | _ => simp [equals] at behind
  · intro m n pair c behind
    cases c with
    | number k => exact Number.equals_trans pair behind
    | _ => simp [equals] at behind
  · intro as bs pairs c behind
    obtain ⟨cs, rfl, others⟩ := exists_list_of_equals behind
    have linked := forall₂_comp_iff.2 ⟨bs, pairs, others⟩
    refine equals_list_iff.2 (linked.imp ?_)
    rintro a c ⟨b, pair, behind⟩
    exact pair.2 c behind

/-- A datum stands in another one at any depth: it is the other one or stands in an item of it. -/
inductive Within (x : Datum) : Datum → Prop
  | self : Within x x
  | item {items : List Datum} {d : Datum} (member : d ∈ items) (within : Within x d) :
      Within x (.list items)

theorem within_list_iff {x : Datum} {items : List Datum} (other : x ≠ .list items) :
    Within x (.list items) ↔ ∃ d ∈ items, Within x d := by
  constructor
  · intro h
    cases h with
    | self => exact absurd rfl other
    | item member within => exact ⟨_, member, within⟩
  · rintro ⟨d, member, within⟩
    exact .item member within

theorem within_single_iff {x d : Datum} (single : ∀ items, d ≠ .list items) :
    Within x d ↔ x = d := by
  constructor
  · intro h
    cases h with
    | self => rfl
    | item => exact absurd rfl (single _)
  · rintro rfl
    exact .self

theorem equals_self_iff {d : Datum} : d.equals d = true ↔ ¬Within (.number .nan) d := by
  induction d using induction_on_items with
  | list items ih =>
    rw [equals_list_iff, List.forall₂_same, within_list_iff (by simp)]
    push Not
    exact forall₂_congr ih
  | other d single =>
    rw [within_single_iff single]
    cases d with
    | list items => exact absurd rfl (single items)
    | number n => rw [equals, Number.equals_self_iff, ne_comm, number.injEq]
    | _ => simp [equals, NodeSet.equals]

structure ShownAlike (a b : Datum) : Prop where
  kind : a.kind = b.kind
  text : a.toText = b.toText
  itemText : a.itemText = b.itemText
  json : a.toJson? = b.toJson?

theorem ShownAlike.refl (d : Datum) : ShownAlike d d := ⟨rfl, rfl, rfl, rfl⟩

theorem itemTexts_eq_map (items : List Datum) : itemTexts items = items.map Datum.itemText := by
  induction items with
  | nil => rfl
  | cons d items ih => cases d <;> simp [itemTexts, itemText, ih]

theorem ShownAlike.list {as bs : List Datum} (each : List.Forall₂ ShownAlike as bs) :
    ShownAlike (.list as) (.list bs) := by
  have texts : as.map Datum.itemText = bs.map Datum.itemText := by
    rw [← List.forall₂_eq_eq_eq, List.forall₂_map_left_iff, List.forall₂_map_right_iff]
    exact each.imp fun a b alike => alike.itemText
  have forms : itemsJson as = itemsJson bs := by
    rw [itemsJson_eq_map, itemsJson_eq_map, ← List.forall₂_eq_eq_eq, List.forall₂_map_left_iff,
      List.forall₂_map_right_iff]
    exact each.imp fun a b alike => by rw [alike.json]
  have text : (Datum.list as).toText = (Datum.list bs).toText := by
    rw [toText, toText, itemTexts_eq_map, itemTexts_eq_map, texts]
  exact ⟨rfl, text, text, by rw [toJson?, toJson?, forms]⟩

theorem ShownAlike.of_equals {a b : Datum} (h : a.equals b = true) : ShownAlike a b := by
  refine equals_induction ?_ ?_ ?_ (fun d _ => .refl d) h
  · intro s t pair
    have text := (NodeSet.equals_iff.1 pair).2.2
    exact ⟨rfl, text, text, by rw [toJson?, toJson?, text]⟩
  · intro m n pair
    have text := Number.format_of_equals pair
    exact ⟨rfl, text, text, by rw [toJson?, toJson?, Json.ofNumber_of_equals pair]⟩
  · intro as bs pairs
    exact .list (pairs.imp fun a b pair => pair.2)

/-- A datum among the items of a list, which is among the items of another one, and so on. The items
before and behind are given for each list, the innermost first. -/
def inside (d : Datum) (lists : List (List Datum × List Datum)) : Datum :=
  lists.foldl (fun d (before, behind) => .list (before ++ d :: behind)) d

theorem ShownAlike.inside {a b : Datum} (h : ShownAlike a b)
    (lists : List (List Datum × List Datum)) : ShownAlike (a.inside lists) (b.inside lists) := by
  induction lists generalizing a b with
  | nil => exact h
  | cons items lists ih =>
    refine ih (.list ?_)
    have before := List.forall₂_same.2 fun d (_ : d ∈ items.1) => ShownAlike.refl d
    have behind := List.forall₂_same.2 fun d (_ : d ∈ items.2) => ShownAlike.refl d
    exact List.rel_append before (.cons h behind)

/-- Equality of data runs both ways and goes on from datum to datum. It holds of a datum and itself
exactly if not-a-number stands nowhere in it. Equal data are shown alike, alone and at the same
place in a list, however deep it is. -/
theorem equality_respected (a b c : Datum) :
    (a.equals b = true → b.equals a = true) ∧
      (a.equals b = true → b.equals c = true → a.equals c = true) ∧
      (a.equals a = true ↔ ¬Within (.number .nan) a) ∧
      (a.equals b = true → a.kind = b.kind ∧ a.toText = b.toText ∧ a.toJson? = b.toJson? ∧
        ∀ lists : List (List Datum × List Datum),
          (a.inside lists).kind = (b.inside lists).kind ∧
            (a.inside lists).toText = (b.inside lists).toText ∧
            (a.inside lists).toJson? = (b.inside lists).toJson?) := by
  refine ⟨equals_symm, equals_trans, equals_self_iff, fun same => ?_⟩
  have alike := ShownAlike.of_equals same
  refine ⟨alike.kind, alike.text, alike.json, fun lists => ?_⟩
  have within := alike.inside lists
  exact ⟨within.kind, within.text, within.json⟩

theorem zeros_alike_beside_nan :
    (list [.null, .number (.finite true .zero)]).equals (list [.null, .number .zero]) = true ∧
      (list [.null, .number .zero]).equals (list [.null, .number (.finite true .zero)]) = true ∧
      (list [.null, .number (.finite true .zero)]).equals
        (list [.null, .number (.finite true .zero)]) = true ∧
      ((list [.null, .number (.finite true .zero)]).inside [([.number .nan], [])]).toText =
        ((list [.null, .number .zero]).inside [([.number .nan], [])]).toText := by
  have same : (list [.null, .number (.finite true .zero)]).equals (list [.null, .number .zero]) =
      true := by
    simp [equals, allEqual, Number.equals, Number.zero, Magnitude.zero]
  obtain ⟨symmetric, transitive, -, shown⟩ := equality_respected
    (list [.null, .number (.finite true .zero)]) (list [.null, .number .zero])
    (list [.null, .number (.finite true .zero)])
  have back := symmetric same
  exact ⟨same, back, transitive same back, ((shown same).2.2.2 _).2.1⟩

end Datum
end PageExtract
