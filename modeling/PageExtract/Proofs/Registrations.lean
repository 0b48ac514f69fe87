import Mathlib
import PageExtract.Proofs.NamesUsed

/-! A registry is a finite map from names to transforms, whatever was registered before. Of the
registrations under one name the last one counts. Each name occurs once and the names ascend, so
histories with the same last registrations make the same registry. -/
namespace PageExtract

namespace Registry
variable {r : Registry} {name other : String} {t u : Transform}
  {history : List (String × Transform)}

theorem isSome_find?_iff : (r.find? name).isSome ↔ name ∈ r.names := by
  rw [Option.isSome_iff_exists]
  constructor
  · rintro ⟨t, found⟩
    exact List.mem_map.2 ⟨(name, t), mem_of_find? found, rfl⟩
  · exact exists_find?

theorem contains_eq_isSome_find? (r : Registry) (name : String) :
    r.contains name = (r.find? name).isSome := by
  rw [Bool.eq_iff_iff, isSome_find?_iff, contains, names, List.any_eq_true, List.mem_map]
  simp only [beq_iff_eq]

theorem mem_names_register :
    other ∈ (r.register name t).names ↔ other = name ∨ other ∈ r.names := by
  rw [← isSome_find?_iff, ← isSome_find?_iff, find?_register]
  by_cases same : name = other
  · simp [same]
  · rw [if_neg same, or_iff_right (Ne.symm same)]

/-- Each name comes before those behind it, so that none occurs twice. -/
def Ascending (r : Registry) : Prop := r.names.Pairwise (· < ·)

theorem ascending_cons {first : String × Transform} {rest : List (String × Transform)} :
    Ascending ⟨first :: rest⟩ ↔ (∀ name ∈ names ⟨rest⟩, first.1 < name) ∧ Ascending ⟨rest⟩ :=
  List.pairwise_cons

theorem ascending_empty : empty.Ascending := .nil

theorem Ascending.register (ascends : r.Ascending) (name : String) (t : Transform) :
    (r.register name t).Ascending := by
  obtain ⟨entries⟩ := r
  rw [Registry.register]
  -- The entry is put before the first larger name, so whatever is passed on the way is smaller.
  induction entries with
  | nil => exact List.pairwise_singleton _ _
  | cons first rest ih =>
    obtain ⟨below, ordered⟩ := ascending_cons.1 ascends
    rw [insertEntry]
    split
    next before =>
      refine ascending_cons.2 ⟨fun later member => ?_, ascends⟩
      obtain rfl | member := List.mem_cons.1 member
      · exact before
      · exact before.trans (below later member)
    next notBefore =>
      split
      next same => exact ascending_cons.2 ⟨fun later member => same ▸ below later member, ordered⟩
      next different =>
        have behind : first.1 < name := lt_of_le_of_ne (not_lt.1 notBefore) (Ne.symm different)
        refine ascending_cons.2 ⟨fun later member => ?_, ih ordered⟩
        obtain rfl | member := (mem_names_register (r := ⟨rest⟩)).1 member
        · exact behind
        · exact below later member

theorem Ascending.find?_eq_some_iff (ascends : r.Ascending) :
    r.find? name = some t ↔ (name, t) ∈ r.entries := by
  refine ⟨mem_of_find?, fun member => ?_⟩
  obtain ⟨entries⟩ := r
  induction entries with
  | nil => cases member
  | cons first rest ih =>
    obtain ⟨below, ordered⟩ := ascending_cons.1 ascends
    rw [find?_cons]
    obtain rfl | member := List.mem_cons.1 member
    · rw [if_pos rfl]
    · have unlike : first.1 ≠ name := (below name (List.mem_map_of_mem member)).ne
      rw [if_neg unlike]
      exact ih ordered member

theorem Ascending.pairwise_entries (ascends : r.Ascending) :
    r.entries.Pairwise fun entry later => entry.1 < later.1 := List.pairwise_map.1 ascends

theorem Ascending.nodup_entries (ascends : r.Ascending) : r.entries.Nodup :=
  ascends.pairwise_entries.imp fun before same => before.ne (congrArg Prod.fst same)

theorem Ascending.ext {r' : Registry} (ascends : r.Ascending) (ascends' : r'.Ascending)
    (agree : ∀ name, r.find? name = r'.find? name) : r = r' := by
  have shared : r.entries.Perm r'.entries := by
    refine (List.perm_ext_iff_of_nodup ascends.nodup_entries ascends'.nodup_entries).2 ?_
    rintro ⟨name, t⟩
    rw [← ascends.find?_eq_some_iff, ← ascends'.find?_eq_some_iff, agree]
  -- The same entries ascend in one order only.
  have same : r.entries = r'.entries :=
    shared.eq_of_pairwise (fun _ _ _ _ before after => absurd after before.asymm)
      ascends.pairwise_entries ascends'.pairwise_entries
  exact congrArg Registry.mk same

theorem ofList_induction {P : Registry → Prop} (start : P empty)
    (step : ∀ r name t, P r → P (r.register name t)) (history : List (String × Transform)) :
    P (ofList history) := by
  rw [ofList]
  induction history using List.reverseRecOn with
  | nil => exact start
  | append_singleton earlier last ih =>
    rw [List.foldl_append, List.foldl_cons, List.foldl_nil]
    exact step _ _ _ ih

theorem ascending_ofList (history : List (String × Transform)) : (ofList history).Ascending :=
  ofList_induction ascending_empty (fun _ name t ascends => ascends.register name t) history

/-- The transform of the last registration under a name. -/
def lastUnder? (history : List (String × Transform)) (name : String) : Option Transform :=
  ((history.filter fun entry => entry.1 = name).getLast?).map Prod.snd

theorem find?_ofList_eq_lastUnder? (history : List (String × Transform)) (name : String) :
    (ofList history).find? name = lastUnder? history name := by
  rw [find?_ofList, lastUnder?, find?, List.getLast?_eq_head?_reverse, ← List.filter_reverse,
    List.head?_filter]
  rfl

theorem lastUnder?_append (earlier later : List (String × Transform)) (name : String) :
    lastUnder? (earlier ++ later) name = (lastUnder? later name).or (lastUnder? earlier name) := by
  rw [lastUnder?, lastUnder?, lastUnder?, List.filter_append, List.getLast?_append, Option.map_or]

theorem lastUnder?_cons (first : String × Transform) (later : List (String × Transform))
    (name : String) :
    lastUnder? (first :: later) name =
      (lastUnder? later name).or (if first.1 = name then some first.2 else none) := by
  have alone : lastUnder? [first] name = if first.1 = name then some first.2 else none := by
    rw [lastUnder?, List.filter_singleton]
    by_cases same : first.1 = name <;> simp [same]
  rw [← List.singleton_append, lastUnder?_append, alone]

theorem lastUnder?_eq_none_iff : lastUnder? history name = none ↔ name ∉ history.map Prod.fst := by
  rw [lastUnder?, Option.map_eq_none_iff, List.getLast?_eq_none_iff, List.filter_eq_nil_iff]
  simp only [decide_eq_true_eq, List.mem_map, not_exists, not_and]

theorem mem_names_ofList : name ∈ (ofList history).names ↔ name ∈ history.map Prod.fst := by
  rw [← isSome_find?_iff, find?_ofList_eq_lastUnder?, Option.isSome_iff_ne_none, ne_eq,
    lastUnder?_eq_none_iff, not_not]

theorem ofList_eq_of_lastUnder? {history' : List (String × Transform)}
    (agree : ∀ name, lastUnder? history name = lastUnder? history' name) :
    ofList history = ofList history' := by
  refine (ascending_ofList history).ext (ascending_ofList history') fun name => ?_
  rw [find?_ofList_eq_lastUnder?, find?_ofList_eq_lastUnder?, agree]

theorem lastUnder?_exchange {before between after : List (String × Transform)}
    (different : name ≠ other) (unused : name ∉ between.map Prod.fst)
    (unused' : other ∉ between.map Prod.fst) (asked : String) :
    lastUnder? (before ++ (name, t) :: (between ++ (other, u) :: after)) asked =
      lastUnder? (before ++ (other, u) :: (between ++ (name, t) :: after)) asked := by
  simp only [lastUnder?_append, lastUnder?_cons]
  -- Only one of the two can be asked for, and nothing between them is.
  by_cases same : name = asked
  · subst same
    rw [lastUnder?_eq_none_iff.2 unused, if_pos rfl, if_neg different.symm]
    simp only [Option.or_none]
  · rw [if_neg same]
    by_cases same' : other = asked
    · subst same'
      rw [lastUnder?_eq_none_iff.2 unused', if_pos rfl]
      simp only [Option.or_none]
    · rw [if_neg same']

/-- After any number of registrations a registry is the finite map of the last ones. It finds the
transform of the last registration under exactly the name that is asked for, and nothing under a
name that was not registered. Its names ascend and are those that were registered; what it contains,
its size and its emptiness go with them. A stage, with the registry alone or before the built-in
transforms, depends on the last registration of its name only. Where all last registrations are the
same, the registries are the same, and so is whatever they answer later. An exchange of two
registrations under different names, with neither name in between, keeps all of them. -/
theorem last_registrations_make_map (history : List (String × Transform)) :
    (∀ name, (ofList history).find? name = lastUnder? history name) ∧
    (∀ name, (ofList history).find? name = none ↔ name ∉ history.map Prod.fst) ∧
    (∀ name, (ofList history).contains name = ((ofList history).find? name).isSome) ∧
    (ofList history).names.Pairwise (· < ·) ∧
    (∀ name, name ∈ (ofList history).names ↔ name ∈ history.map Prod.fst) ∧
    (ofList history).size = (ofList history).names.length ∧
    ((ofList history).isEmpty ↔ (ofList history).names = []) ∧
    (∀ history' name, lastUnder? history name = lastUnder? history' name →
      ∀ (args : List Literal) (d : Datum),
        Call.apply (ofList history).find? ⟨name, args⟩ d =
          Call.apply (ofList history').find? ⟨name, args⟩ d ∧
        Call.apply (Lookup.withCustom (ofList history)) ⟨name, args⟩ d =
          Call.apply (Lookup.withCustom (ofList history')) ⟨name, args⟩ d) ∧
    (∀ history', (∀ name, lastUnder? history name = lastUnder? history' name) →
      ofList history = ofList history') ∧
    ∀ before between after name other t u, name ≠ other → name ∉ between.map Prod.fst →
      other ∉ between.map Prod.fst →
        history = before ++ (name, t) :: (between ++ (other, u) :: after) →
          ofList history = ofList (before ++ (other, u) :: (between ++ (name, t) :: after)) := by
  refine ⟨find?_ofList_eq_lastUnder? history, fun name => ?_, contains_eq_isSome_find? _,
    ascending_ofList history, fun name => mem_names_ofList, ?_, ?_, ?_, fun history' agree => ?_, ?_⟩
  · rw [find?_ofList_eq_lastUnder?, lastUnder?_eq_none_iff]
  · rw [size, names, List.length_map]
  · rw [isEmpty, names, List.isEmpty_iff, List.map_eq_nil_iff]
  · intro history' name same args d
    have agree : (ofList history).find? name = (ofList history').find? name := by
      rw [find?_ofList_eq_lastUnder?, find?_ofList_eq_lastUnder?, same]
    exact ⟨Call.apply_congr ⟨name, args⟩ agree d,
      Call.apply_congr ⟨name, args⟩ (Lookup.withCustom_congr agree) d⟩
  · exact ofList_eq_of_lastUnder? agree
  · rintro before between after name other t u different unused unused' rfl
    exact ofList_eq_of_lastUnder? (lastUnder?_exchange different unused unused')

/-- A second transform under `shout` replaces the first one, whatever comes between the two, and
`Shout` is another name. -/
theorem shout_registered_again :
    let whisper : Transform := fun _ _ => .ok (.string "hey")
    let shout : Transform := fun _ _ => .ok (.string "hey!")
    let history := [("shout", whisper), ("trim", Transform.trim), ("shout", shout)]
    let history' := [("shout", whisper), ("shout", shout), ("trim", Transform.trim)]
    (ofList history).names = ["shout", "trim"] ∧ (ofList history).find? "shout" = some shout ∧
      (ofList history).find? "Shout" = none ∧
      Call.apply (Lookup.withCustom (ofList history)) ⟨"shout", []⟩ .undefined =
        Call.apply (Lookup.withCustom (ofList [("shout", shout)])) ⟨"shout", []⟩ .undefined ∧
      ofList history = ofList history' ∧ ofList history = ofList history'.tail := by
  intro whisper shout history history'
  obtain ⟨finds, missing, _, _, _, _, _, applies, same, exchange⟩ :=
    last_registrations_make_map history
  have later : ∀ name, lastUnder? history name = lastUnder? history'.tail name := by
    intro name
    by_cases asked : "shout" = name
    · subst asked
      rfl
    · simp only [history, history', List.tail_cons, lastUnder?_cons, if_neg asked, Option.or_none]
  refine ⟨by cbv, ?_, (missing "Shout").2 (by decide), ?_, ?_, same history'.tail later⟩
  · rw [finds]
    rfl
  · exact (applies [("shout", shout)] "shout" rfl [] .undefined).2
  · exact exchange [("shout", whisper)] [] [] "trim" "shout" Transform.trim shout (by decide)
      (by decide) (by decide) rfl

end Registry
end PageExtract
