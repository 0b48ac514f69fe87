import Mathlib
import PageExtract.Transform.Registry

/-! What a registry finds after registrations, and what a look-up with a registry before the
built-in transforms finds. -/
namespace PageExtract

namespace Registry

@[simp] theorem find?_empty (name : String) : empty.find? name = none := rfl

theorem find?_cons (first : String × Transform) (rest : List (String × Transform)) (name : String) :
    find? ⟨first :: rest⟩ name = if first.1 = name then some first.2 else find? ⟨rest⟩ name := by
  rw [find?, find?, List.find?_cons]
  by_cases same : first.1 = name
  · simp [same]
  · have unlike : (first.1 == name) = false := beq_eq_false_iff_ne.2 same
    rw [if_neg same, unlike]

theorem find?_insertEntry (name : String) (t : Transform) (entries : List (String × Transform))
    (other : String) :
    find? ⟨insertEntry name t entries⟩ other =
      if name = other then some t else find? ⟨entries⟩ other := by
  induction entries with
  | nil => rw [insertEntry, find?_cons]
  | cons first rest ih =>
    rw [insertEntry]
    split
    · rw [find?_cons]
    · split
      next same =>
        subst same
        rw [find?_cons, find?_cons]
        split <;> rfl
      next different =>
        rw [find?_cons, find?_cons, ih]
        by_cases met : first.1 = other
        · have unlike : name ≠ other := fun same => different (same.trans met.symm)
          rw [if_pos met, if_pos met, if_neg unlike]
        · rw [if_neg met, if_neg met]

theorem find?_register (r : Registry) (name : String) (t : Transform) (other : String) :
    (r.register name t).find? other = if name = other then some t else r.find? other :=
  find?_insertEntry name t r.entries other

theorem find?_foldl_register (entries : List (String × Transform)) (r : Registry) (name : String) :
    (entries.foldl (fun r entry => r.register entry.1 entry.2) r).find? name =
      (find? ⟨entries.reverse⟩ name).or (r.find? name) := by
  -- From the end, since a later registration hides the earlier ones of its name.
  induction entries using List.reverseRecOn with
  | nil => rfl
  | append_singleton entries last ih =>
    rw [List.foldl_append, List.foldl_cons, List.foldl_nil, find?_register, ih, List.reverse_append,
      List.reverse_singleton, List.singleton_append, find?_cons]
    split <;> rfl

theorem find?_ofList (entries : List (String × Transform)) (name : String) :
    (ofList entries).find? name = find? ⟨entries.reverse⟩ name := by
  rw [ofList, find?_foldl_register, find?_empty, Option.or_none]

theorem mem_of_find? {r : Registry} {name : String} {t : Transform}
    (found : r.find? name = some t) : (name, t) ∈ r.entries := by
  obtain ⟨entry, member, rfl⟩ := Option.map_eq_some_iff.1 found
  have same : entry.1 = name := by simpa using List.find?_some member
  subst same
  exact List.mem_of_find?_eq_some member

theorem exists_find? {r : Registry} {name : String} (h : name ∈ r.names) :
    ∃ t, r.find? name = some t := by
  obtain ⟨entry, member, same⟩ := List.mem_map.1 h
  have some : (r.entries.find? fun entry => entry.1 == name).isSome := by
    rw [List.find?_isSome]
    exact ⟨entry, member, by simpa using same⟩
  obtain ⟨first, found⟩ := Option.isSome_iff_exists.1 some
  exact ⟨first.2, by rw [find?, found, Option.map_some]⟩

theorem of_find?_ofList {P : String → Transform → Prop} {entries : List (String × Transform)}
    {name : String} {t : Transform} (h : ∀ entry ∈ entries, P entry.1 entry.2)
    (found : (ofList entries).find? name = some t) : P name t := by
  rw [find?_ofList] at found
  exact h (name, t) (List.mem_reverse.1 (mem_of_find? found))

theorem exists_find?_ofList {entries : List (String × Transform)} {name : String}
    (h : name ∈ entries.map Prod.fst) : ∃ t, (ofList entries).find? name = some t := by
  rw [find?_ofList]
  refine exists_find? ?_
  rw [names, List.map_reverse, List.mem_reverse]
  exact h

/-- A registry without the entries whose names are not kept. -/
def restrict (r : Registry) (keep : String → Bool) : Registry :=
  ⟨r.entries.filter fun entry => keep entry.1⟩

theorem find?_restrict (r : Registry) (keep : String → Bool) (name : String) :
    (r.restrict keep).find? name = if keep name then r.find? name else none := by
  obtain ⟨entries⟩ := r
  induction entries with
  | nil => simp [restrict, find?]
  | cons first rest ih =>
    have split : restrict ⟨first :: rest⟩ keep =
        if keep first.1 then ⟨first :: (restrict ⟨rest⟩ keep).entries⟩
        else restrict ⟨rest⟩ keep := by
      rw [restrict, List.filter_cons]
      split <;> rfl
    rw [split, find?_cons]
    by_cases kept : keep first.1
    · rw [if_pos kept, find?_cons, ih]
      by_cases same : first.1 = name
      · rw [← same, if_pos rfl, if_pos rfl, if_pos kept]
      · rw [if_neg same, if_neg same]
    · rw [if_neg kept, ih]
      by_cases same : first.1 = name
      · rw [← same, if_neg kept, if_neg kept]
      · rw [if_neg same]

end Registry

namespace Lookup
variable {custom : Registry} {name : String}

theorem withCustom_of_find? {t : Transform} (found : custom.find? name = some t) :
    withCustom custom name = some t := by
  rw [withCustom, found]
  rfl

theorem withCustom_of_missing (missing : custom.find? name = none) :
    withCustom custom name = builtin name := by
  rw [withCustom, missing]
  rfl

theorem withCustom_empty : withCustom Registry.empty = builtin := by
  funext name
  exact withCustom_of_missing (Registry.find?_empty name)

end Lookup
end PageExtract
