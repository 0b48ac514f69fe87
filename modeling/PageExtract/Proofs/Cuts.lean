import Mathlib
import PageExtract.Proofs.Splitting

/-! A position always lies in its row, so the part before it and the part from it on make the row
again. Where a slice lies depends on the length of the row alone, so it is the same for a text and
for the list of its characters. -/
namespace PageExtract

def ExtInt.extended : ExtInt → WithBot (WithTop ℤ)
  | negInfinity => ⊥
  | int n => ((n : WithTop ℤ) : WithBot (WithTop ℤ))
  | infinity => ((⊤ : WithTop ℤ) : WithBot (WithTop ℤ))

/-- Where an integer lands in a row of that length: counted from the end if it is negative, and
never outside. -/
noncomputable def ExtInt.landing (length : ℕ) (n : WithBot (WithTop ℤ)) : WithBot (WithTop ℤ) :=
  if n < 0 then max (length + n) 0 else min n length

/-- The items of a list, and the nodes of a node set one by one. -/
inductive Datum.Row : Datum → List Datum → Prop
  | list (items : List Datum) : Row (.list items) items
  | nodes (members : List Html.Location) :
      Row (.nodes ⟨members⟩) (members.map fun l => .nodes ⟨[l]⟩)

namespace Arguments
variable {k : Literal} (length : Nat)

theorem fromEitherEnd_le (n : ExtInt) : fromEitherEnd length n ≤ length := by
  cases n with
  | negInfinity => exact Nat.zero_le length
  | infinity => exact Nat.le_refl length
  | int n =>
    simp only [fromEitherEnd]
    split <;> omega

theorem fromEitherEnd_extended (n : ExtInt) :
    (fromEitherEnd length n : WithBot (WithTop ℤ)) = ExtInt.landing length n.extended := by
  cases n with
  | negInfinity => simp [fromEitherEnd, ExtInt.extended, ExtInt.landing]
  | infinity => simp [fromEitherEnd, ExtInt.extended, ExtInt.landing]
  | int n =>
    have below : ((n : WithTop ℤ) : WithBot (WithTop ℤ)) < 0 ↔ n < 0 := by norm_cast
    simp only [fromEitherEnd, ExtInt.extended, ExtInt.landing, below]
    split
    next negative =>
      norm_cast
      omega
    next nonnegative =>
      have whole : ((min n.toNat length : ℕ) : ℤ) = min n length := by omega
      norm_cast
      rw [← whole]
      norm_cast

theorem fromEitherEnd_length : fromEitherEnd length (.int length) = length := by
  simp [fromEitherEnd]

theorem clamped_length : clamped length (.int length) = length := by
  simp [clamped]

theorem clamped_extended (n : ExtInt) :
    (clamped length n : WithBot (WithTop ℤ)) = min (max n.extended 0) length := by
  cases n with
  | negInfinity => simp [clamped, ExtInt.extended]
  | infinity => simp [clamped, ExtInt.extended]
  | int n =>
    have whole : ((min n.toNat length : ℕ) : ℤ) = min (max n 0) length := by omega
    simp only [clamped, ExtInt.extended]
    norm_cast
    rw [← whole]
    norm_cast

theorem clamped_le (n : ExtInt) : clamped length n ≤ length := by
  cases n with
  | negInfinity => exact Nat.zero_le length
  | infinity => exact Nat.le_refl length
  | int n => exact Nat.min_le_right n.toNat length

theorem get_one_missing (k : Literal) : get [k] 1 = .undefined := rfl

theorem integer_missing {args : List Literal} {index : Nat} (h : get args index = .undefined)
    (default : ExtInt) : integer args index default = default := by
  rw [integer, h]

theorem integer_zero (rest : List Literal) (default : ExtInt) :
    integer (.number .zero :: rest) 0 default = .int 0 := by
  rw [integer_given (get_zero (.number .zero) rest) nofun]
  simp [Literal.toNumber, Number.toExtInt, Number.zero, Magnitude.floor_zero]

end Arguments

namespace Transform
open Arguments
variable {α β : Type} {d : Datum} {items : List Datum} {k c : Literal}

theorem between_zero (s : List α) (stop : Nat) : between s 0 stop = s.take stop := rfl

theorem between_length (s : List α) (start : Nat) : between s start s.length = s.drop start := by
  rw [between, ← List.length_drop, List.take_length]

theorem between_map (f : α → β) (s : List α) (start stop : Nat) :
    between (s.map f) start stop = (between s start stop).map f := by
  rw [between, between, List.map_take, List.map_drop]

theorem sliced_map (f : α → β) (s : List α) (args : List Literal) :
    sliced (s.map f) args = (sliced s args).map f := by
  simp only [sliced, List.length_map, between_map]

def cutAt (length : Nat) (k : Literal) : Nat := fromEitherEnd length (integer [k] 0 (.int 0))

theorem sliced_from (s : List α) (k : Literal) : sliced s [k] = s.drop (cutAt s.length k) := by
  rw [sliced, integer_missing (get_one_missing k)]
  simp only [fromEitherEnd_length, between_length, cutAt]

theorem sliced_to (given : k ≠ .undefined) (s : List α) :
    sliced s [.number .zero, k] = s.take (cutAt s.length k) := by
  rw [sliced, integer_zero, integer_given (get_one _ k []) given, cutAt,
    integer_given (get_zero k []) given]
  exact between_zero s _

def clipped (s : List α) (args : List Literal) : List α :=
  let first := clamped s.length (integer args 0 (.int 0))
  let second := clamped s.length (integer args 1 (.int s.length))
  between s (min first second) (max first second)

theorem clipped_from (s : List α) (k : Literal) :
    clipped s [k] = s.drop (clamped s.length (integer [k] 0 (.int 0))) := by
  rw [clipped, integer_missing (get_one_missing k)]
  simp only [clamped_length, Nat.min_eq_left (clamped_le _ _), Nat.max_eq_right (clamped_le _ _),
    between_length]

theorem clipped_to (given : k ≠ .undefined) (s : List α) :
    clipped s [.number .zero, k] = s.take (clamped s.length (integer [k] 0 (.int 0))) := by
  rw [clipped, integer_zero, integer_given (get_one _ k []) given,
    integer_given (get_zero k []) given]
  simp only [clamped, Int.toNat_zero, Nat.zero_min, Nat.zero_max, between_zero]

theorem length_sliced_to (given : k ≠ .undefined) (s : List α) :
    ((sliced s [.number .zero, k]).length : WithBot (WithTop ℤ)) =
      ExtInt.landing s.length k.toNumber.toExtInt.extended := by
  rw [sliced_to given, List.length_take, cutAt, Nat.min_eq_left (fromEitherEnd_le _ _),
    integer_given (get_zero k []) given, fromEitherEnd_extended]

theorem length_clipped_to (given : k ≠ .undefined) (s : List α) :
    ((clipped s [.number .zero, k]).length : WithBot (WithTop ℤ)) =
      min (max k.toNumber.toExtInt.extended 0) s.length := by
  rw [clipped_to given, List.length_take, Nat.min_eq_left (clamped_le _ _),
    integer_given (get_zero k []) given, clamped_extended]

def spliced (s : List α) (args : List Literal) : List α :=
  if args.isEmpty then []
  else
    let start := fromEitherEnd s.length (integer args 0 (.int 0))
    (s.drop start).take (spliceCount args (s.length - start))

theorem spliced_from (s : List α) (k : Literal) : spliced s [k] = s.drop (cutAt s.length k) := by
  simp only [spliced, List.isEmpty_cons, Bool.false_eq_true, ↓reduceIte, spliceCount,
    List.length_singleton, Nat.one_lt_ofNat]
  rw [← List.length_drop, List.take_length, cutAt]

theorem spliced_count (given : c ≠ .undefined) (s : List α) (k : Literal) :
    spliced s [k, c] = (s.drop (cutAt s.length k)).take
      (clamped (s.drop (cutAt s.length k)).length c.toNumber.toExtInt) := by
  have count : integer [k, c] 1 (.int 0) = c.toNumber.toExtInt :=
    integer_given (get_one k c []) given (.int 0)
  simp only [spliced, List.isEmpty_cons, Bool.false_eq_true, ↓reduceIte, spliceCount, count,
    List.length_cons, List.length_nil, List.length_drop]
  rfl

def between? (s : List α) (start stop : Nat) : Option (List α) :=
  (stop.psub start).map fun count => (s.drop start).take count

def sliced? (s : List α) (args : List Literal) : Option (List α) :=
  between? s (fromEitherEnd s.length (integer args 0 (.int 0)))
    (fromEitherEnd s.length (integer args 1 (.int s.length)))

def clipped? (s : List α) (args : List Literal) : Option (List α) :=
  let first := clamped s.length (integer args 0 (.int 0))
  let second := clamped s.length (integer args 1 (.int s.length))
  between? s (min first second) (max first second)

def spliced? (s : List α) (args : List Literal) : Option (List α) :=
  if args.isEmpty then some []
  else
    let start := fromEitherEnd s.length (integer args 0 (.int 0))
    (s.length.psub start).map fun left => (s.drop start).take (spliceCount args left)

theorem between?_eq {start stop : Nat} (h : start ≤ stop) (s : List α) :
    between? s start stop = some (between s start stop) := by
  rw [between?, Nat.psub_eq_sub h, Option.map_some, between]

theorem sliced?_from (s : List α) (k : Literal) : sliced? s [k] = some (sliced s [k]) := by
  refine between?_eq ?_ s
  rw [integer_missing (get_one_missing k), fromEitherEnd_length]
  exact fromEitherEnd_le s.length _

theorem sliced?_to (s : List α) (k : Literal) :
    sliced? s [.number .zero, k] = some (sliced s [.number .zero, k]) := by
  refine between?_eq ?_ s
  rw [integer_zero]
  exact Nat.zero_le _

theorem clipped?_eq (s : List α) (args : List Literal) : clipped? s args = some (clipped s args) :=
  between?_eq min_le_max s

theorem spliced?_eq (s : List α) (args : List Literal) :
    spliced? s args = some (spliced s args) := by
  simp only [spliced?, spliced, Nat.psub_eq_sub (fromEitherEnd_le _ _), Option.map_some]
  split <;> rfl

theorem sequence_row (h : d.Row items) : sequence d = .ok items := by
  cases h with
  | list => rfl
  | nodes members => simp [sequence, NodeSet.split]

theorem slice_row (h : d.Row items) (args : List Literal) :
    slice d args = .ok (.list (sliced items args)) := by
  have row := sequence_row h
  cases h <;> simp only [slice, row, Except.map]

theorem splice_row (h : d.Row items) (args : List Literal) :
    splice d args = .ok (.list (spliced items args)) := by
  rw [splice, sequence_row h, Except.map, spliced]
  split <;> rfl

theorem slice_string (s : String) (args : List Literal) :
    slice (.string s) args = .ok (ofChars (sliced s.toList args)) := rfl

theorem substring_string (s : String) (args : List Literal) :
    substring (.string s) args = .ok (ofChars (clipped s.toList args)) := by
  rw [substring, onStrings]
  rfl

theorem split_characters (s : String) :
    split (.string s) [.string ""] = .ok (.list ((s.toList.map fun c => [c]).map ofChars)) := by
  rw [split_alone, piecesAt_eq (x := .string "") nofun]
  rfl

theorem join_characters (s : List Char) :
    join (.list ((s.map fun c => [c]).map ofChars)) [.string ""] = .ok (ofChars s) := by
  rw [join_pieces, text_given (get_zero (.string "") []) nofun]
  exact congrArg (Except.ok ∘ ofChars) (intercalate_parts [] s)

theorem ofChars_append {front back : List Char} {s : String} (h : front ++ back = s.toList) :
    String.ofList front ++ String.ofList back = s := by
  rw [← String.ofList_append, h, String.ofList_toList]

end Transform

namespace Call

/-- Slicing a text is slicing its characters, and splicing a row at one argument takes out what
slicing it there keeps. A slice is what lies between the places where its two arguments land. -/
theorem slice_agrees_with_characters_and_splice :
    (∀ (s : String) (args : List Literal), ∃ (start stop : ℕ) (part : String),
        (start : WithBot (WithTop ℤ)) =
          ExtInt.landing s.length (Arguments.integer args 0 (.int 0)).extended ∧
        (stop : WithBot (WithTop ℤ)) =
          ExtInt.landing s.length (Arguments.integer args 1 (.int s.length)).extended ∧
        part.toList = (s.toList.drop start).take (stop - start) ∧
        run Lookup.builtin [⟨"slice", args⟩] (.string s) = .ok (.string part) ∧
        run Lookup.builtin [⟨"split", [.string ""]⟩, ⟨"slice", args⟩, ⟨"join", [.string ""]⟩]
          (.string s) = .ok (.string part)) ∧
      ∀ (d : Datum) (items : List Datum) (k : Literal), d.Row items → ∃ start : ℕ,
        (start : WithBot (WithTop ℤ)) =
          ExtInt.landing items.length (Arguments.integer [k] 0 (.int 0)).extended ∧
        run Lookup.builtin [⟨"slice", [k]⟩] d = .ok (.list (items.drop start)) ∧
        run Lookup.builtin [⟨"splice", [k]⟩] d = .ok (.list (items.drop start)) := by
  refine ⟨fun s args => ?_, fun d items k row => ?_⟩
  · refine ⟨_, _, String.ofList (Transform.sliced s.toList args),
      Arguments.fromEitherEnd_extended s.length _, Arguments.fromEitherEnd_extended s.length _, ?_,
      run_found rfl (Transform.slice_string s args), ?_⟩
    · rw [String.toList_ofList, Transform.sliced, String.length_toList, Transform.between]
    · rw [run_cons_found rfl (Transform.split_characters s),
        run_cons_found rfl (Transform.slice_row (.list _) args), Transform.sliced_map,
        Transform.sliced_map]
      exact run_found rfl (Transform.join_characters _)
  · refine ⟨Transform.cutAt items.length k, Arguments.fromEitherEnd_extended _ _, ?_, ?_⟩
    · rw [← Transform.sliced_from]
      exact run_found rfl (Transform.slice_row row [k])
    · rw [← Transform.spliced_from]
      exact run_found rfl (Transform.splice_row row [k])

/-- An undefined position is the start, and a splice at it takes everything out. -/
theorem undefined_splice_takes_all :
    run Lookup.builtin [⟨"slice", [.undefined]⟩] (.list [.null, .string "é"]) =
        .ok (.list [.null, .string "é"]) ∧
      run Lookup.builtin [⟨"splice", [.undefined]⟩] (.list [.null, .string "é"]) =
        .ok (.list [.null, .string "é"]) := by
  obtain ⟨start, place, sliced, spliced⟩ :=
    slice_agrees_with_characters_and_splice.2 _ _ .undefined (.list [.null, .string "é"])
  obtain rfl : start = 0 := by
    simpa [Arguments.integer, Arguments.get, ExtInt.extended, ExtInt.landing] using place
  exact ⟨sliced, spliced⟩

/-- Wherever a text or a row is cut, the part before the cut and the part from it on make it again,
whether the position counts from either end or is clamped, and the first part is as long as the
position says. A splice with a count takes the first items from the cut on, as many as the count
says and there are. The subtractions, when checked, never go below zero. -/
theorem cut_loses_nothing (k : Literal) (given : k ≠ .undefined) :
    (∀ s : String, ∃ front back : String,
        run Lookup.builtin [⟨"slice", [.number .zero, k]⟩] (.string s) = .ok (.string front) ∧
        run Lookup.builtin [⟨"slice", [k]⟩] (.string s) = .ok (.string back) ∧
        front ++ back = s ∧
        (front.length : WithBot (WithTop ℤ)) =
          ExtInt.landing s.length k.toNumber.toExtInt.extended ∧
        Transform.sliced? s.toList [.number .zero, k] = some front.toList ∧
        Transform.sliced? s.toList [k] = some back.toList) ∧
      (∀ s : String, ∃ front back : String,
        run Lookup.builtin [⟨"substring", [.number .zero, k]⟩] (.string s) = .ok (.string front) ∧
        run Lookup.builtin [⟨"substring", [k]⟩] (.string s) = .ok (.string back) ∧
        front ++ back = s ∧
        (front.length : WithBot (WithTop ℤ)) =
          min (max k.toNumber.toExtInt.extended 0) s.length ∧
        Transform.clipped? s.toList [.number .zero, k] = some front.toList ∧
        Transform.clipped? s.toList [k] = some back.toList) ∧
      ∀ (d : Datum) (items : List Datum), d.Row items → ∃ front back : List Datum,
        run Lookup.builtin [⟨"slice", [.number .zero, k]⟩] d = .ok (.list front) ∧
        run Lookup.builtin [⟨"slice", [k]⟩] d = .ok (.list back) ∧
        run Lookup.builtin [⟨"splice", [k]⟩] d = .ok (.list back) ∧
        front ++ back = items ∧
        (front.length : WithBot (WithTop ℤ)) =
          ExtInt.landing items.length k.toNumber.toExtInt.extended ∧
        Transform.sliced? items [.number .zero, k] = some front ∧
        Transform.sliced? items [k] = some back ∧
        Transform.spliced? items [k] = some back ∧
        ∀ c : Literal, c ≠ .undefined → ∃ taken : List Datum,
          run Lookup.builtin [⟨"splice", [k, c]⟩] d = .ok (.list taken) ∧
          Transform.spliced? items [k, c] = some taken ∧
          taken <+: back ∧
          (taken.length : WithBot (WithTop ℤ)) =
            min (max c.toNumber.toExtInt.extended 0) back.length := by
  refine ⟨fun s => ?_, fun s => ?_, fun d items row => ?_⟩
  · refine ⟨_, _, run_found rfl (Transform.slice_string s [.number .zero, k]),
      run_found rfl (Transform.slice_string s [k]), Transform.ofChars_append ?_, ?_, ?_, ?_⟩
    · rw [Transform.sliced_to given, Transform.sliced_from, List.take_append_drop]
    · rw [String.length_ofList, Transform.length_sliced_to given, String.length_toList]
    · rw [Transform.sliced?_to, String.toList_ofList]
    · rw [Transform.sliced?_from, String.toList_ofList]
  · refine ⟨_, _, run_found rfl (Transform.substring_string s [.number .zero, k]),
      run_found rfl (Transform.substring_string s [k]), Transform.ofChars_append ?_, ?_, ?_, ?_⟩
    · rw [Transform.clipped_to given, Transform.clipped_from, List.take_append_drop]
    · rw [String.length_ofList, Transform.length_clipped_to given, String.length_toList]
    · rw [Transform.clipped?_eq, String.toList_ofList]
    · rw [Transform.clipped?_eq, String.toList_ofList]
  · have from_cut : Transform.sliced items [k] = Transform.spliced items [k] := by
      rw [Transform.sliced_from, Transform.spliced_from]
    refine ⟨_, _, run_found rfl (Transform.slice_row row [.number .zero, k]),
      run_found rfl (Transform.slice_row row [k]), ?_, ?_, Transform.length_sliced_to given items,
      Transform.sliced?_to items k, Transform.sliced?_from items k, ?_, fun c counted => ?_⟩
    · rw [from_cut]
      exact run_found rfl (Transform.splice_row row [k])
    · rw [Transform.sliced_to given, Transform.sliced_from, List.take_append_drop]
    · rw [from_cut, Transform.spliced?_eq]
    · refine ⟨_, run_found rfl (Transform.splice_row row [k, c]), Transform.spliced?_eq items _, ?_⟩
      rw [Transform.spliced_count counted, Transform.sliced_from]
      refine ⟨List.take_prefix _ _, ?_⟩
      rw [List.length_take, Nat.min_eq_left (Arguments.clamped_le _ _)]
      exact Arguments.clamped_extended _ _

/-- The position `true` is behind the first item, and an endless count takes what is left. -/
theorem cut_behind_first_item :
    run Lookup.builtin [⟨"slice", [.number .zero, .boolean true]⟩] (.list [.null, .string "é"]) =
        .ok (.list [.null]) ∧
      run Lookup.builtin [⟨"splice", [.boolean true, .number (.infinite false)]⟩]
        (.list [.null, .string "é"]) = .ok (.list [.string "é"]) := by
  obtain ⟨-, -, rows⟩ := cut_loses_nothing (.boolean true) nofun
  obtain ⟨front, back, before, -, -, whole, -, kept, -, -, counted⟩ :=
    rows _ _ (.list [.null, .string "é"])
  obtain ⟨taken, spliced, -, first, many⟩ := counted (.number (.infinite false)) nofun
  have cut : Transform.cutAt 2 (.boolean true) = 1 := by
    have one : Arguments.integer [.boolean true] 0 (.int 0) = .int 1 := by
      simp [Arguments.integer, Arguments.get, Literal.toNumber, Number.toExtInt, Number.one,
        Magnitude.floor_one]
    rw [Transform.cutAt, one]
    rfl
  rw [Transform.sliced?_to, Transform.sliced_to (k := .boolean true) nofun] at kept
  obtain rfl : [Datum.null] = front := by simpa [cut] using kept
  obtain rfl : back = [.string "é"] := by simpa using whole
  have all : taken = [.string "é"] := by
    refine first.eq_of_length ?_
    simpa [Literal.toNumber, Number.toExtInt, ExtInt.extended] using many
  rw [all] at spliced
  exact ⟨before, spliced⟩

end Call
end PageExtract
