import Mathlib
import PageExtract.Proofs.DocumentOrder
import PageExtract.Proofs.SetsInData

/-! Pipelines keep the elements of a node set in document order as long as members that stand in
each other do not find the same elements or elements in each other's way. A query takes the
elements of a page in the order in which they were made. -/
namespace PageExtract
open Html (Location)

namespace Html.Document

def standing (d : Document) : List Location := Location.among .page [] [] d.children

theorem pairwise_standing (d : Document) : d.standing.Pairwise Location.Precedes :=
  Location.pairwise_among .page [] [] d.children

theorem not_standing_of_removed {d : Document} {l : Location}
    (h : l ∈ d.removed.flatMap removedElements) : l ∉ d.standing := by
  intro standing
  obtain ⟨inner, frame, steps, page, _⟩ := Location.exists_of_mem_among standing
  obtain ⟨root, _, member⟩ := List.mem_flatMap.1 h
  have other : ∃ inner' frame', l.frames = inner' ++ [frame'] ∧ frame'.holder ≠ .page := by
    cases root with
    | element e children =>
      obtain ⟨inner', frame', steps', holder, _⟩ := Location.exists_of_mem_among member
      exact ⟨inner', frame', steps', by rw [holder]; nofun⟩
    | fragment children =>
      obtain ⟨inner', frame', steps', holder, _⟩ := Location.exists_of_mem_among member
      exact ⟨inner', frame', steps', by rw [holder]; nofun⟩
    | _ => cases member
  obtain ⟨inner', frame', steps', different⟩ := other
  have same : [frame] = [frame'] := List.append_inj_right' (steps.symm.trans steps') rfl
  cases same
  exact different page

end Html.Document

namespace Html.Location

theorem precedes_or_precedes {a b : Location} (different : a.path ≠ b.path) :
    a.Precedes b ∨ b.Precedes a := by
  rcases trichotomous_of (List.Lex (· < ·)) a.path b.path with first | same | second
  · exact .inl first
  · exact absurd same different
  · exact .inr second

theorem forall_of_pairwise {row : List Location} {R : Location → Location → Prop}
    (ordered : row.Pairwise Precedes) (h : row.Pairwise R) {a b : Location} (ha : a ∈ row)
    (hb : b ∈ row) (first : a.Precedes b) : R a b := by
  refine List.Pairwise.forall_of_forall_of_flip (R := fun a b => a.Precedes b → R a b) ?_ ?_ ?_
    ha hb first
  · intro a _ before
    exact absurd rfl before.path_ne
  · exact h.imp fun {a b} related (_ : a.Precedes b) => related
  · exact ordered.imp fun {a b} before back => absurd back before.asymm

end Html.Location

namespace NodeSet

/-- The elements of the set were made in the order in which they stand. -/
def MadeInOrder (s : NodeSet) : Prop :=
  ∀ a ∈ s.members, ∀ b ∈ s.members, a.Precedes b → a.serial < b.serial

/-- What a selector finds below a member comes before what it finds below members inside it. -/
def SearchedInOrder (s : NodeSet) (selector : String) : Prop :=
  ∀ found, compile selector = .ok found →
    ∀ a ∈ s.members, ∀ b ∈ s.members, b ∈ a.descendants →
      ∀ x ∈ below found a, ∀ y ∈ below found b, x.Precedes y

theorem searchedInOrder_of_level {s : NodeSet} {depth : Nat}
    (level : ∀ l ∈ s.members, l.path.length = depth) (selector : String) :
    s.SearchedInOrder selector := by
  intro compiled _ a ha b hb inside
  have deeper := (Location.encloses_of_mem_descendants inside).length_lt
  rw [level a ha, level b hb] at deeper
  exact absurd deeper (Nat.lt_irrefl depth)

structure Ordered (page : Html.Document) (s : NodeSet) : Prop where
  standing : ∀ l ∈ s.members, l ∈ page.standing
  ascending : s.members.Pairwise Location.Precedes

variable {page : Html.Document} {s t : NodeSet}

theorem Ordered.nodup (h : s.Ordered page) : s.members.Nodup :=
  h.ascending.imp fun {_ _} before same => before.path_ne (congrArg Location.path same)

theorem pairwise_elements_serial (page : Html.Document) :
    page.elements.Pairwise fun a b => a.serial ≤ b.serial := by
  have sorted : page.elements.Pairwise fun a b => decide (a.serial ≤ b.serial) = true := by
    refine List.pairwise_mergeSort (fun a b c first second => ?_) (fun a b => ?_) _
    · exact decide_eq_true ((of_decide_eq_true first).trans (of_decide_eq_true second))
    · simpa using Nat.le_total a.serial b.serial
  exact sorted.imp fun {a b} h => of_decide_eq_true h

theorem pairwise_path_ne {passes : Location → Bool}
    (standing : ∀ l ∈ page.elements.filter passes, l ∈ page.standing) :
    (page.elements.filter passes).Pairwise fun a b => a.path ≠ b.path := by
  have all : (page.elements.filter passes).Perm
      (page.standing.filter passes ++
        (page.removed.flatMap Html.Document.removedElements).filter passes) := by
    rw [← List.filter_append]
    exact (List.mergeSort_perm _ _).filter passes
  -- The selector looks through trees taken out of the page too, but finds nothing in them here.
  have none : (page.removed.flatMap Html.Document.removedElements).filter passes = [] := by
    refine List.eq_nil_iff_forall_not_mem.2 fun l member => ?_
    have outside := Html.Document.not_standing_of_removed (List.mem_filter.1 member).1
    exact outside (standing l (all.mem_iff.2 (List.mem_append_right _ member)))
  rw [none, List.append_nil] at all
  refine (all.pairwise_iff fun {a b} different => different.symm).2 ?_
  exact (page.pairwise_standing.filter passes).imp fun {a b} before => before.path_ne

theorem ordered_of_made {selector : String} (found : page.query selector = .ok s)
    (standing : ∀ l ∈ s.members, l ∈ page.standing) (made : s.MadeInOrder) : s.Ordered page := by
  refine ⟨standing, ?_⟩
  obtain ⟨compiled, _, rfl⟩ := exists_of_map_eq_ok found
  have serials := (pairwise_elements_serial page).filter (Css.selects none compiled)
  refine (serials.and (pairwise_path_ne standing)).imp_of_mem fun {a b} ha hb h => ?_
  rcases Location.precedes_or_precedes h.2 with first | second
  · exact first
  · exact absurd (made b hb a ha second) (Nat.not_lt.2 h.1)

theorem ordered_part (h : s.Ordered page) (part : t ∈ s.split) : t.Ordered page := by
  obtain ⟨l, member, rfl⟩ := List.mem_map.1 part
  exact ⟨by simpa using h.standing l member, List.pairwise_singleton _ l⟩

theorem query_standing {selector : String} (h : s.Ordered page) (found : s.query selector = .ok t) :
    ∀ l ∈ t.members, l ∈ page.standing := by
  obtain ⟨compiled, _, rfl⟩ := exists_of_map_eq_ok found
  intro x member
  obtain ⟨a, ha, below⟩ := List.mem_flatMap.1 member
  exact Location.among_of_mem_descendants (List.mem_filter.1 below).1 (h.standing a ha)

theorem pairwise_below (compiled : List Css.Complex) (a : Location) :
    (below compiled a).Pairwise Location.Precedes :=
  (Location.pairwise_among _ _ _ _).filter _

theorem encloses_of_mem_below {compiled : List Css.Complex} {a x : Location}
    (h : x ∈ below compiled a) : a.Encloses x :=
  Location.encloses_of_mem_descendants (List.mem_filter.1 h).1

/-- Nothing but members inside each other can bring what is found below them out of order. -/
theorem query_ascending_iff {selector : String} (h : s.Ordered page)
    (found : s.query selector = .ok t) :
    t.members.Pairwise Location.Precedes ↔ s.SearchedInOrder selector := by
  obtain ⟨compiled, read, rfl⟩ := exists_of_map_eq_ok found
  rw [List.pairwise_flatMap, and_iff_right fun a _ => pairwise_below compiled a]
  constructor
  · intro blocks compiled' read' a ha b hb inside
    rw [read] at read'
    cases read'
    exact Location.forall_of_pairwise h.ascending blocks ha hb
      (Location.encloses_of_mem_descendants inside).precedes
  · intro searched
    refine h.ascending.imp_of_mem fun {a b} ha hb first x hx y hy => ?_
    -- Members beside each other keep apart what is in them; only members in each other need care.
    rcases Location.precedes_iff.1 first with beside | around
    · exact (beside.inside (encloses_of_mem_below hx) (encloses_of_mem_below hy)).precedes
    · have inside : b ∈ a.descendants :=
        (Location.encloses_iff_mem_descendants (h.standing a ha) (h.standing b hb)).1 around
      exact searched compiled read a ha b hb inside x hx y hy

end NodeSet

/-- What selectors, parts and built-in stages make of a page in any order, where the elements that a
selector finds in the page were made in the order in which they stand and every search below a set
is in order. -/
inductive Html.Document.Reaches (page : Html.Document) : Datum → Prop
  | found {selector : String} {s : NodeSet} (h : page.query selector = .ok s)
      (standing : ∀ l ∈ s.members, l ∈ page.standing) (made : s.MadeInOrder) :
      Reaches page (.nodes s)
  | query {s t : NodeSet} {selector : String} (reached : Reaches page (.nodes s))
      (h : s.query selector = .ok t) (searched : s.SearchedInOrder selector) :
      Reaches page (.nodes t)
  | part {s t : NodeSet} (reached : Reaches page (.nodes s)) (h : t ∈ s.split) :
      Reaches page (.nodes t)
  | item {items : List Datum} {d : Datum} (reached : Reaches page (.list items)) (h : d ∈ items) :
      Reaches page d
  | stage {c : Call} {d v : Datum} (reached : Reaches page d)
      (h : c.apply Lookup.builtin d = .ok v)
      (searched : c.name = "find" → ∀ s selector, d.Holds s →
        Arguments.get c.args 0 = .string selector → s.SearchedInOrder selector) :
      Reaches page v

namespace NodeSet
variable {page : Html.Document} {s t : NodeSet}

theorem Ordered.query {selector : String} (h : s.Ordered page) (found : s.query selector = .ok t)
    (searched : s.SearchedInOrder selector) : t.Ordered page :=
  ⟨query_standing h found, (query_ascending_iff h found).2 searched⟩

theorem ordered_of_apply {c : Call} {d v : Datum} (ordered : ∀ s, d.Holds s → s.Ordered page)
    (h : c.apply Lookup.builtin d = .ok v)
    (searched : c.name = "find" → ∀ s selector, d.Holds s →
      Arguments.get c.args 0 = .string selector → s.SearchedInOrder selector)
    (held : v.Holds t) : t.Ordered page := by
  obtain ⟨s, holds, made⟩ := Call.makes_of_apply h held
  cases made with
  | kept => exact ordered t holds
  | part member => exact ordered_part (ordered s holds) member
  | searched called asked found =>
    exact (ordered s holds).query found (searched called s _ holds asked)

theorem ordered_of_reaches {d : Datum} (h : page.Reaches d) (held : d.Holds s) :
    s.Ordered page := by
  induction h generalizing s with
  | found h standing made =>
    rw [Datum.holds_nodes_iff.1 held]
    exact ordered_of_made h standing made
  | query _ h searched ih =>
    rw [Datum.holds_nodes_iff.1 held]
    exact (ih .here).query h searched
  | part _ h ih =>
    rw [Datum.holds_nodes_iff.1 held]
    exact ordered_part (ih .here) h
  | item _ h ih => exact ih (.inside h held)
  | stage _ h searched ih => exact ordered_of_apply (fun s holds => ih holds) h searched held

/-- No node set that is reached holds an element twice, and each lists its elements in document
order. A further search keeps the order exactly if what it finds below a member comes before what it
finds below the members inside that one. -/
theorem reached_sets_ascend {d : Datum} (h : page.Reaches d) (held : d.Holds s) :
    s.members.Nodup ∧ s.members.Pairwise Location.Precedes ∧
      ∀ selector t, s.query selector = .ok t →
        (t.members.Pairwise Location.Precedes ↔ s.SearchedInOrder selector) := by
  have ordered := ordered_of_reaches h held
  exact ⟨ordered.nodup, ordered.ascending,
    fun selector t found => query_ascending_iff ordered found⟩

/-- The items of a list stand next to each other, and a search below them keeps the order. -/
theorem links_of_list_items_ascend :
    let link : Nat → Html.Node := fun serial => .element ⟨serial, .html, "a", []⟩ []
    let item : Nat → Html.Node := fun serial =>
      .element ⟨serial, .html, "li", []⟩ [link (serial + 1)]
    let page : Html.Document := ⟨[.element ⟨0, .html, "ul", []⟩ [item 1, item 3]], []⟩
    ∃ s t, page.query "li" = .ok s ∧
      Call.apply Lookup.builtin ⟨"find", [.string "a"]⟩ (.nodes s) = .ok (.nodes t) ∧
      page.Reaches (.nodes t) ∧ t.size = 2 ∧ t.members.Nodup ∧
      t.members.Pairwise Location.Precedes := by
  intro link item page
  let frame : List Html.Node → List Html.Node → List Html.Frame := fun before after =>
    [⟨.element ⟨0, .html, "ul", []⟩, before, after⟩, ⟨.page, [], []⟩]
  let first : Location := ⟨⟨1, .html, "li", []⟩, [link 2], frame [] [item 3]⟩
  let second : Location := ⟨⟨3, .html, "li", []⟩, [link 4], frame [item 1] []⟩
  let firstLink : Location :=
    ⟨⟨2, .html, "a", []⟩, [], ⟨.element first.element, [], []⟩ :: first.frames⟩
  let secondLink : Location :=
    ⟨⟨4, .html, "a", []⟩, [], ⟨.element second.element, [], []⟩ :: second.frames⟩
  have items : page.query "li" = .ok ⟨[first, second]⟩ := by cbv
  have links : Call.apply Lookup.builtin ⟨"find", [.string "a"]⟩ (.nodes ⟨[first, second]⟩) =
      .ok (.nodes ⟨[firstLink, secondLink]⟩) := by cbv
  have elements : page.standing =
      [⟨⟨0, .html, "ul", []⟩, [item 1, item 3], [⟨.page, [], []⟩]⟩, first, firstLink, second,
        secondLink] := rfl
  have standing : ∀ l ∈ [first, second], l ∈ page.standing := by simp [elements]
  have made : MadeInOrder ⟨[first, second]⟩ := by
    have serials : ∀ a ∈ [first, second], ∀ b ∈ [first, second],
        a.Precedes b → a.serial < b.serial := by decide
    exact serials
  have level : ∀ l ∈ [first, second], l.path.length = 2 := by decide
  have reached : page.Reaches (.nodes ⟨[firstLink, secondLink]⟩) := by
    refine .stage (.found items standing made) links fun _ s selector holds _ => ?_
    rw [Datum.holds_nodes_iff.1 holds]
    exact searchedInOrder_of_level level selector
  obtain ⟨distinct, ascending, _⟩ := reached_sets_ascend reached .here
  exact ⟨_, _, items, links, reached, rfl, distinct, ascending⟩

/-- One paragraph is found below a division and again below the division inside it. -/
theorem nested_members_found_twice :
    ∃ s t, (Html.Document.parse "<div><div><p>x</p></div></div>").query "div" = .ok s ∧
      s.query "p" = .ok t ∧ ¬t.members.Nodup ∧ ¬t.members.Pairwise Location.Precedes := by
  let text : List Html.Node := [.text "x"]
  let p : Html.Element := ⟨6, .html, "p", []⟩
  let inner : Html.Element := ⟨5, .html, "div", []⟩
  let outer : Html.Element := ⟨4, .html, "div", []⟩
  let body : List Html.Frame :=
    [⟨.element ⟨3, .html, "body", []⟩, [], []⟩,
      ⟨.element ⟨1, .html, "html", []⟩, [.element ⟨2, .html, "head", []⟩ []], []⟩, ⟨.page, [], []⟩]
  let first : Location := ⟨outer, [.element inner [.element p text]], body⟩
  let second : Location := ⟨inner, [.element p text], ⟨.element outer, [], []⟩ :: body⟩
  let found : Location := ⟨p, text, ⟨.element inner, [], []⟩ :: ⟨.element outer, [], []⟩ :: body⟩
  refine ⟨⟨[first, second]⟩, ⟨[found, found]⟩, by cbv, by cbv, by simp, fun ascending => ?_⟩
  have before : found.Precedes found := List.rel_of_pairwise_cons ascending List.mem_cons_self
  exact before.path_ne rfl

end NodeSet
end PageExtract
