import PageExtract.Proofs.BinaryArithmetic
import PageExtract.Proofs.Cuts

/-! A substring lies between two clamped positions, in whichever order they are given. In ascending
order it is the slice at the same positions, with the start in place of negative ones. -/
namespace PageExtract

def Number.fromZero : Number → Number
  | finite false a => finite false a.whole
  | infinite false => infinite false
  | _ => zero

theorem Number.extended_zero : zero.toExtInt.extended = 0 := by
  rw [toExtInt_zero]
  rfl

theorem Number.extended_fromZero (n : Number) :
    n.fromZero.toExtInt.extended = max n.toExtInt.extended 0 := by
  cases n with
  | nan =>
    rw [show fromZero nan = zero from rfl, extended_zero]
    exact (max_self 0).symm
  | infinite negative =>
    cases negative with
    | false =>
      rw [fromZero, max_eq_left]
      exact le_top
    | true =>
      rw [show fromZero (infinite true) = zero from rfl, extended_zero, max_eq_right]
      exact bot_le
  | finite negative a =>
    cases negative with
    | false =>
      have positive : (0 : WithBot (WithTop ℤ)) ≤ ((a.floor : WithTop ℤ) : WithBot (WithTop ℤ)) := by
        exact_mod_cast Int.natCast_nonneg a.floor
      simp only [fromZero, toExtInt, Magnitude.floor_whole, Bool.false_eq_true, ↓reduceIte]
      exact (max_eq_left positive).symm
    | true =>
      have below : (((-(a.floor : ℤ) : ℤ) : WithTop ℤ) : WithBot (WithTop ℤ)) ≤ 0 := by
        exact_mod_cast Int.neg_nonpos_of_nonneg (Int.natCast_nonneg a.floor)
      rw [show fromZero (finite true a) = zero from rfl, extended_zero]
      exact (max_eq_right below).symm

namespace Arguments
variable {length : Nat} {n m : ExtInt}

theorem fromEitherEnd_eq_clamped (same : m.extended = max n.extended 0) :
    fromEitherEnd length m = clamped length n := by
  have from_zero : ¬m.extended < 0 := by
    rw [same, not_lt]
    exact le_max_right _ _
  have place := fromEitherEnd_extended length m
  rw [ExtInt.landing, if_neg from_zero, same, ← clamped_extended] at place
  exact_mod_cast place

theorem clamped_mono (ordered : n.extended ≤ m.extended) : clamped length n ≤ clamped length m := by
  have places : (clamped length n : WithBot (WithTop ℤ)) ≤ clamped length m := by
    rw [clamped_extended, clamped_extended]
    exact min_le_min_right _ (max_le_max_right _ ordered)
  exact_mod_cast places

end Arguments

namespace Transform
open Arguments
variable {α : Type} {a b a' b' : Literal}

theorem clipped_pair (ha : a ≠ .undefined) (hb : b ≠ .undefined) (s : List α) :
    clipped s [a, b] =
      between s
        (min (clamped s.length a.toNumber.toExtInt) (clamped s.length b.toNumber.toExtInt))
        (max (clamped s.length a.toNumber.toExtInt) (clamped s.length b.toNumber.toExtInt)) := by
  simp only [clipped, integer_given (get_zero a [b]) ha, integer_given (get_one a b []) hb]

theorem clipped_comm (ha : a ≠ .undefined) (hb : b ≠ .undefined) (s : List α) :
    clipped s [a, b] = clipped s [b, a] := by
  rw [clipped_pair ha hb, clipped_pair hb ha, min_comm, max_comm]

theorem clipped_eq_sliced (ha : a ≠ .undefined) (hb : b ≠ .undefined) (ha' : a' ≠ .undefined)
    (hb' : b' ≠ .undefined)
    (ordered : a.toNumber.toExtInt.extended ≤ b.toNumber.toExtInt.extended)
    (first : a'.toNumber.toExtInt.extended = max a.toNumber.toExtInt.extended 0)
    (second : b'.toNumber.toExtInt.extended = max b.toNumber.toExtInt.extended 0) (s : List α) :
    clipped s [a, b] = sliced s [a', b'] := by
  have places : clamped s.length a.toNumber.toExtInt ≤ clamped s.length b.toNumber.toExtInt :=
    clamped_mono ordered
  rw [clipped_pair ha hb, min_eq_left places, max_eq_right places]
  simp only [sliced, integer_given (get_zero a' [b']) ha', integer_given (get_one a' b' []) hb',
    fromEitherEnd_eq_clamped first, fromEitherEnd_eq_clamped second]

end Transform

namespace Call

theorem run_substring (s : String) (args : List Literal) :
    run Lookup.builtin [⟨"substring", args⟩] (.string s) =
      .ok (.string (String.ofList (Transform.clipped s.toList args))) :=
  run_found (t := Transform.substring) rfl (Transform.substring_string s args)

theorem run_slice (s : String) (args : List Literal) :
    run Lookup.builtin [⟨"slice", args⟩] (.string s) =
      .ok (.string (String.ofList (Transform.sliced s.toList args))) :=
  run_found (t := Transform.slice) rfl (Transform.slice_string s args)

theorem run_substring_eq_slice {a b a' b' : Literal} (ha : a ≠ .undefined) (hb : b ≠ .undefined)
    (ha' : a' ≠ .undefined) (hb' : b' ≠ .undefined)
    (ordered : a.toNumber.toExtInt.extended ≤ b.toNumber.toExtInt.extended)
    (first : a'.toNumber.toExtInt.extended = max a.toNumber.toExtInt.extended 0)
    (second : b'.toNumber.toExtInt.extended = max b.toNumber.toExtInt.extended 0) (s : String) :
    run Lookup.builtin [⟨"substring", [a, b]⟩] (.string s) =
      run Lookup.builtin [⟨"slice", [a', b']⟩] (.string s) := by
  rw [run_substring, run_slice, Transform.clipped_eq_sliced ha hb ha' hb' ordered first second]

/-- The order of its two positions makes no difference to a substring: it is what lies between the
smaller and the larger one, both clamped to the text. Where they are in order it is the slice between
any two literals for the same positions that have zero in place of negative ones, and there are such
literals. -/
theorem substring_symmetric_and_sliced (s : String) (a b : Literal) (ha : a ≠ .undefined)
    (hb : b ≠ .undefined) :
    run Lookup.builtin [⟨"substring", [a, b]⟩] (.string s) =
        run Lookup.builtin [⟨"substring", [b, a]⟩] (.string s) ∧
      (∃ (first second : ℕ) (part : String),
        (first : WithBot (WithTop ℤ)) = min (max a.toNumber.toExtInt.extended 0) s.length ∧
        (second : WithBot (WithTop ℤ)) = min (max b.toNumber.toExtInt.extended 0) s.length ∧
        part.toList = (s.toList.take (max first second)).drop (min first second) ∧
        run Lookup.builtin [⟨"substring", [a, b]⟩] (.string s) = .ok (.string part)) ∧
      (a.toNumber.toExtInt.extended ≤ b.toNumber.toExtInt.extended →
        (∀ a' b' : Literal, a' ≠ .undefined → b' ≠ .undefined →
          a'.toNumber.toExtInt.extended = max a.toNumber.toExtInt.extended 0 →
          b'.toNumber.toExtInt.extended = max b.toNumber.toExtInt.extended 0 →
          run Lookup.builtin [⟨"substring", [a, b]⟩] (.string s) =
            run Lookup.builtin [⟨"slice", [a', b']⟩] (.string s)) ∧
        ∃ m n : Number, m.toExtInt.extended = max a.toNumber.toExtInt.extended 0 ∧
          n.toExtInt.extended = max b.toNumber.toExtInt.extended 0 ∧
          run Lookup.builtin [⟨"substring", [a, b]⟩] (.string s) =
            run Lookup.builtin [⟨"slice", [.number m, .number n]⟩] (.string s)) := by
  -- in any order, then between the clamped positions, then in ascending order as a slice
  refine ⟨?_, ⟨_, _, String.ofList (Transform.clipped s.toList [a, b]),
    Arguments.clamped_extended s.length _, Arguments.clamped_extended s.length _, ?_, ?_⟩,
    fun ordered => ⟨fun a' b' ha' hb' first second => ?_, ?_⟩⟩
  · rw [run_substring, run_substring, Transform.clipped_comm ha hb]
  · rw [String.toList_ofList, Transform.clipped_pair ha hb, Transform.between, List.drop_take,
      String.length_toList]
  · exact run_substring s [a, b]
  · exact run_substring_eq_slice ha hb ha' hb' ordered first second s
  · refine ⟨_, _, Number.extended_fromZero a.toNumber, Number.extended_fromZero b.toNumber, ?_⟩
    exact run_substring_eq_slice ha hb (Literal.number_ne_undefined _)
      (Literal.number_ne_undefined _) ordered (Number.extended_fromZero a.toNumber)
      (Number.extended_fromZero b.toNumber) s

/-- Positions out of order and before the start: the same letters in either order, and the slice from
the start on. -/
theorem substring_swaps_and_clamps :
    let two : Literal := .number (.finite false (Magnitude.natural 2 (by decide)))
    let before : Literal := .number (.infinite true)
    run Lookup.builtin [⟨"substring", [two, before]⟩] (.string "héllo") = .ok (.string "hé") ∧
      run Lookup.builtin [⟨"slice", [.null, two]⟩] (.string "héllo") = .ok (.string "hé") := by
  intro two before
  obtain ⟨swapped, -, ascending⟩ :=
    substring_symmetric_and_sliced "héllo" before two (Literal.number_ne_undefined _)
      (Literal.number_ne_undefined _)
  have position : two.toNumber.toExtInt = .int 2 := by
    rw [Literal.toNumber, Number.toExtInt, Magnitude.floor_natural]
    rfl
  have start : Literal.null.toNumber.toExtInt.extended =
      max before.toNumber.toExtInt.extended 0 := by
    rw [show Literal.null.toNumber = .zero from rfl, Number.extended_zero]
    rfl
  have letters : run Lookup.builtin [⟨"substring", [before, two]⟩] (.string "héllo") =
      .ok (.string "hé") := by
    rw [run_substring, Transform.clipped_pair (Literal.number_ne_undefined _)
      (Literal.number_ne_undefined _), position]
    rfl
  have sliced := (ascending bot_le).1 .null two (by simp) (Literal.number_ne_undefined _) start
    (by rw [position]; rfl)
  exact ⟨swapped.symm.trans letters, sliced.symm.trans letters⟩

end Call
end PageExtract
