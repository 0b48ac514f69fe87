import PageExtract.Proofs.Padding

/-! A padded text has exactly the length that is asked for, and copies of a text are exactly as
many as asked for, or the call is refused. No text that is built is above the limit. -/
namespace PageExtract

namespace Transform
open Arguments (count padText wholeNumber wholeNumber_cases)

theorem copies_eq (s : List Char) (count : Nat) :
    copies s count = (List.replicate count s).flatten := by
  unfold copies
  split
  next none => simp [List.isEmpty_iff.1 none]
  next => rfl

theorem size_copies (s : List Char) (count : Nat) :
    Utf8.size (List.replicate count s).flatten = count * Utf8.size s := by
  induction count with
  | zero => simp [Utf8.size]
  | succ count ih =>
    rw [List.replicate_succ, List.flatten_cons, Utf8.size_append, ih, Nat.succ_mul, Nat.add_comm]

theorem ofChars_copies (s : String) (n : ℕ) :
    ofChars (copies s.toList n) = .string (String.join (List.replicate n s)) := by
  rw [ofChars, copies_eq, String.join_eq, List.map_replicate]

theorem copies_empty (n : ℕ) : String.join (List.replicate n "") = "" := by
  simp [String.join_eq]

theorem utf8ByteSize_copies (s : String) (n : ℕ) :
    (String.join (List.replicate n s)).utf8ByteSize = n * s.utf8ByteSize := by
  rw [← Utf8.size_toList, String.join_eq, String.toList_ofList, List.map_replicate, size_copies,
    Utf8.size_toList]

theorem repeated_eq (s : String) (args : List Literal) :
    repeated (.string s) args =
      match count args with
      | .int n =>
        if n < 0 then .error (.invalidArgument 0 (.repeatCount (.int n)))
        else if 2 ^ 28 < s.utf8ByteSize * n then .error (.invalidArgument 0 .tooLong)
        else .ok (.string (String.join (List.replicate n.toNat s)))
      | n => .error (.invalidArgument 0 (.repeatCount n)) := by
  rw [repeated, ← count]
  cases count args with
  | negInfinity => rfl
  | infinity => rfl
  | int n =>
    have limit : (lengthLimit : ℤ) = 2 ^ 28 := rfl
    simp only [onStrings, Utf8.size_toList, ofChars_copies, limit, gt_iff_lt]

theorem repeated_refused {s : String} {args : List Literal}
    (bad : (count args).extended < 0 ∨ count args = .infinity) :
    repeated (.string s) args = .error (.invalidArgument 0 (.repeatCount (count args))) := by
  rw [repeated_eq]
  cases asked : count args with
  | negInfinity => rfl
  | infinity => rfl
  | int n =>
    rw [asked] at bad
    have below : n < 0 := by
      rcases bad with below | infinite
      · rw [ExtInt.extended] at below
        exact_mod_cast below
      · cases infinite
    dsimp only
    rw [if_pos below]

theorem repeated_natural (s : String) {args : List Literal} {n : ℕ} (asked : count args = .int n) :
    repeated (.string s) args =
      if 2 ^ 28 < n * s.utf8ByteSize then .error (.invalidArgument 0 .tooLong)
      else .ok (.string (String.join (List.replicate n s))) := by
  have bytes : 2 ^ 28 < (s.utf8ByteSize : ℤ) * n ↔ 2 ^ 28 < n * s.utf8ByteSize := by
    rw [Int.mul_comm]
    norm_cast
  rw [repeated_eq, asked]
  simp only [if_neg (Int.not_lt.2 (Int.natCast_nonneg n)), bytes, Int.toNat_natCast]

/-- A repetition with the arithmetic of numbers of double width and of machine words. There is none
where the length of the copies has no word. -/
def repeated? (s : String) (args : List Literal) : Option (Except TransformError Datum) :=
  let number := wholeNumber args
  if Number.zero.exceeds number || number.isInfinite then
    some (.error (.invalidArgument 0 (.repeatCount number.toExtInt)))
  else if ((Number.ofNat s.utf8ByteSize).product number).exceeds (.ofNat lengthLimit) then
    some (.error (.invalidArgument 0 .tooLong))
  else if s.utf8ByteSize * number.toWord < Number.wordLimit then
    some (.ok (ofChars (copies s.toList number.toWord)))
  else none

theorem repeated?_eq (s : String) (args : List Literal) :
    repeated? s args = some (repeated (.string s) args) := by
  rw [repeated?, repeated_eq]
  rcases wholeNumber_cases args with ⟨negative, number, asked⟩ | ⟨negative, a, number, asked⟩
  · rw [number, asked]
    cases negative <;> rfl
  · rw [number, asked, Number.zero_exceeds, Number.product_comm]
    by_cases below : (if negative then -(a.floor : ℤ) else a.floor) < 0
    · simp only [below, decide_true, Bool.true_or, ↓reduceIte, Number.toExtInt,
        Magnitude.floor_whole]
    simp only [below, decide_false, Number.isInfinite, Bool.or_self, Bool.false_eq_true, ↓reduceIte]
    have bound : Number.wordLimit = 2 ^ 64 := rfl
    cases negative with
    | true =>
      have zero : a.floor = 0 := by
        simp only [↓reduceIte] at below
        omega
      simp [none_below_limit true zero, zero, Number.toWord, bound, ofChars_copies]
    | false =>
      simp only [Bool.false_eq_true, ↓reduceIte, product_exceeds_limit, decide_eq_true_eq]
      by_cases long : 2 ^ 28 < a.floor * s.utf8ByteSize
      · have exceeds : 2 ^ 28 < (s.utf8ByteSize : ℤ) * a.floor := by
          rw [Int.mul_comm]
          exact_mod_cast long
        rw [if_pos long, if_pos exceeds]
      · have fits : ¬2 ^ 28 < (s.utf8ByteSize : ℤ) * a.floor := by
          rw [Int.mul_comm]
          exact_mod_cast long
        rw [if_neg long, if_neg fits, Int.toNat_natCast, ofChars_copies]
        by_cases empty : s = ""
        -- A count out of range is cut off, which no copy of the empty text shows.
        · rw [empty, copies_empty, copies_empty, if_pos (by simp [bound])]
        · have some : 0 < s.utf8ByteSize := Nat.pos_of_ne_zero (mt String.utf8ByteSize_eq_zero_iff.1 empty)
          have few : a.floor ≤ a.floor * s.utf8ByteSize := Nat.le_mul_of_pos_right _ some
          rw [Number.toWord_whole (by omega), Nat.mul_comm, if_pos (by omega)]

structure FillsUp (t : Transform) (put : List Char → List Char → List Char) : Prop where
  string : ∀ (s : String) (args : List Literal),
    t (.string s) args = (padding s.toList args).map fun fill => ofChars (put fill s.toList)
  empty : ∀ s, put [] s = s
  length : ∀ fill s, (put fill s).length = fill.length + s.length

theorem padStart_fillsUp : FillsUp padStart (fun fill s => fill ++ s) where
  string s args := by rw [padStart, onStrings]
  empty _ := rfl
  length fill s := List.length_append

theorem padEnd_fillsUp : FillsUp padEnd (fun fill s => s ++ fill) where
  string s args := by rw [padEnd, onStrings]
  empty s := List.append_nil s
  length fill s := by rw [List.length_append, Nat.add_comm]

end Transform

namespace Call
open Arguments (count padText)
variable {lookup : Lookup} {name : String} {t : Transform}

theorem run_repeat (s : String) (args : List Literal) :
    run Lookup.builtin [⟨"repeat", args⟩] (.string s) =
      (Transform.repeated (.string s) args).mapError (.transform "repeat") :=
  run_alone rfl (.string s) args

theorem run_filled {put : List Char → List Char → List Char} (fills : t.FillsUp put)
    (found : lookup name = some t) (s : String) (args : List Literal) :
    run lookup [⟨name, args⟩] (.string s) =
      ((Transform.padding s.toList args).map fun fill =>
        .string (String.ofList (put fill s.toList))).mapError (.transform name) := by
  rw [run_alone found, fills.string]
  rfl

theorem run_filled_twice {put : List Char → List Char → List Char} (fills : t.FillsUp put)
    (found : lookup name = some t) (s : String) (args : List Literal) :
    run lookup [⟨name, args⟩, ⟨name, args⟩] (.string s) = run lookup [⟨name, args⟩] (.string s) := by
  cases filled : Transform.padding s.toList args with
  | error e =>
    have failure : t (.string s) args = .error e := by
      rw [fills.string, filled, Except.map]
    rw [run_alone found, failure]
    exact (FailsAt.failed found failure).run_eq
  | ok fill =>
    have first : t (.string s) args = .ok (Transform.ofChars (put fill s.toList)) := by
      rw [fills.string, filled, Except.map]
    have second : t (Transform.ofChars (put fill s.toList)) args =
        .ok (Transform.ofChars (put fill s.toList)) := by
      rw [Transform.ofChars, fills.string, String.toList_ofList,
        Transform.padding_again filled (fills.length _ _), Except.map, fills.empty, Transform.ofChars]
    rw [run_cons_found found first, run_found found second, run_found found first]

theorem filled_exactly {s : String} {args : List Literal} {n : ℕ} (asked : count args = .int n)
    (long : s.length < n) (some : padText args ≠ "") (near : 4 * n ≤ 2 ^ 28) :
    ∃ fill : String, Transform.padding s.toList args = .ok fill.toList ∧
      fill.length + s.length = n ∧
      (∀ i < fill.length,
        fill.toList[i]? = (padText args).toList[i % (padText args).length]?) ∧
      fill.utf8ByteSize + s.utf8ByteSize ≤ 2 ^ 28 := by
  have nonempty : (padText args).toList ≠ [] := by simpa using some
  refine ⟨String.ofList (Transform.cycle (padText args).toList (n - s.length)), ?_, ?_, ?_, ?_⟩
  · rw [String.toList_ofList, Transform.padding_fill some asked (by rwa [String.length_toList]) near,
      String.length_toList]
  · rw [String.length_ofList, Transform.length_cycle nonempty]
    omega
  · intro i inside
    rw [String.length_ofList, Transform.length_cycle nonempty] at inside
    rw [String.toList_ofList, Transform.getElem?_cycle nonempty inside, String.length_toList]
  · have fillBytes := Utf8.utf8ByteSize_le
      (String.ofList (Transform.cycle (padText args).toList (n - s.length)))
    rw [String.length_ofList, Transform.length_cycle nonempty] at fillBytes
    have textBytes := Utf8.utf8ByteSize_le s
    omega

/-- A text is filled up to exactly the length that is asked for, with the pad text over and over
from its first character on, or stays as it is when it is long enough or there is nothing to fill it
up with, or the call is refused; doing so again changes nothing. Copies are as many as asked for, or
the call is refused. No text that is built has more than `2 ^ 28` bytes. In numbers of double width
and in machine words the outcomes are the same, and no word goes out of range; only the length of a
text of more than `2 ^ 53` characters, which no memory holds, would be rounded. -/
theorem padded_and_repeated_exactly (s : String) (args : List Literal) :
    (∃ filled : Except TransformError String,
      run Lookup.builtin [⟨"padStart", args⟩] (.string s) =
        (filled.map fun fill => .string (fill ++ s)).mapError (.transform "padStart") ∧
      run Lookup.builtin [⟨"padEnd", args⟩] (.string s) =
        (filled.map fun fill => .string (s ++ fill)).mapError (.transform "padEnd") ∧
      ((count args).extended ≤ s.length ∨ padText args = "" → filled = .ok "") ∧
      ((s.length : WithBot (WithTop ℤ)) < (count args).extended → padText args ≠ "" →
        (count args = .infinity ∨ ∃ n : ℤ, count args = .int n ∧ 2 ^ 28 < 4 * n) →
        filled = .error (.invalidArgument 0 .tooLong)) ∧
      ∀ n : ℕ, count args = .int n → s.length < n → padText args ≠ "" → 4 * n ≤ 2 ^ 28 →
        ∃ fill, filled = .ok fill ∧ fill.length + s.length = n ∧
          (∀ i < fill.length,
            fill.toList[i]? = (padText args).toList[i % (padText args).length]?) ∧
          fill.utf8ByteSize + s.utf8ByteSize ≤ 2 ^ 28) ∧
    (∀ name ∈ ["padStart", "padEnd"],
      run Lookup.builtin [⟨name, args⟩, ⟨name, args⟩] (.string s) =
        run Lookup.builtin [⟨name, args⟩] (.string s)) ∧
    ((count args).extended < 0 ∨ count args = .infinity →
      run Lookup.builtin [⟨"repeat", args⟩] (.string s) =
        .error (.transform "repeat" (.invalidArgument 0 (.repeatCount (count args))))) ∧
    (∀ n : ℕ, count args = .int n →
      (2 ^ 28 < n * s.utf8ByteSize →
        run Lookup.builtin [⟨"repeat", args⟩] (.string s) =
          .error (.transform "repeat" (.invalidArgument 0 .tooLong))) ∧
      (n * s.utf8ByteSize ≤ 2 ^ 28 →
        run Lookup.builtin [⟨"repeat", args⟩] (.string s) =
          .ok (.string (String.join (List.replicate n s))) ∧
        (String.join (List.replicate n s)).utf8ByteSize ≤ 2 ^ 28) ∧
      (s = "" → run Lookup.builtin [⟨"repeat", args⟩] (.string s) = .ok (.string ""))) ∧
    (∃ outcome, Transform.padding? s.toList args = some outcome ∧
      (s.length ≤ 2 ^ 53 → outcome = Transform.padding s.toList args)) ∧
    Transform.repeated? s args = some (Transform.repeated (.string s) args) := by
  have machine := Transform.exists_padding? s.toList args
  rw [String.length_toList] at machine
  refine ⟨⟨(Transform.padding s.toList args).map String.ofList, ?_, ?_, ?_, ?_, ?_⟩, ?_, ?_, ?_,
    machine, Transform.repeated?_eq s args⟩
  · rw [run_filled Transform.padStart_fillsUp rfl]
    cases Transform.padding s.toList args with
    | error e => rfl
    | ok fill => simp [Except.map, Except.mapError]
  · rw [run_filled Transform.padEnd_fillsUp rfl]
    cases Transform.padding s.toList args with
    | error e => rfl
    | ok fill => simp [Except.map, Except.mapError]
  · intro enough
    rw [Transform.padding_enough (by rwa [String.length_toList])]
    rfl
  · intro long some far
    rw [Transform.padding_tooLong some (by rwa [String.length_toList]) far]
    rfl
  · intro n asked long some near
    obtain ⟨fill, filled, parts⟩ := filled_exactly asked long some near
    refine ⟨fill, ?_, parts⟩
    rw [filled, Except.map, String.ofList_toList]
  · simp only [List.forall_mem_cons, List.not_mem_nil, false_implies, implies_true, and_true]
    exact ⟨run_filled_twice Transform.padStart_fillsUp rfl s args,
      run_filled_twice Transform.padEnd_fillsUp rfl s args⟩
  · intro bad
    rw [run_repeat, Transform.repeated_refused bad]
    rfl
  · intro n asked
    rw [run_repeat, Transform.repeated_natural s asked]
    refine ⟨fun long => ?_, fun fits => ⟨?_, ?_⟩, fun empty => ?_⟩
    · rw [if_pos long]
      rfl
    · rw [if_neg (Nat.not_lt.2 fits)]
      rfl
    · rwa [Transform.utf8ByteSize_copies]
    · rw [empty, if_neg (by simp), Transform.copies_empty]
      rfl

/-- Two letters are missing, and a third copy still fits; an endless count is refused. -/
theorem letters_fill_up :
    let three : Literal := .number (.finite false (Magnitude.natural 3 (by decide)))
    run Lookup.builtin [⟨"padStart", [three, .string "ab"]⟩] (.string "é") =
        .ok (.string "abé") ∧
      run Lookup.builtin [⟨"repeat", [three]⟩] (.string "é") = .ok (.string "ééé") ∧
      run Lookup.builtin [⟨"repeat", [.number (.infinite false)]⟩] (.string "é") =
        .error (.transform "repeat" (.invalidArgument 0 (.repeatCount .infinity))) := by
  intro three
  have asked (rest : List Literal) : count (three :: rest) = .int (3 : ℕ) := by
    rw [count, Arguments.integer_given (Arguments.get_zero three rest)
      (Literal.number_ne_undefined _), Literal.toNumber, Number.toExtInt, Magnitude.floor_natural]
    rfl
  obtain ⟨⟨filled, front, -, -, -, exactly⟩, -⟩ :=
    padded_and_repeated_exactly "é" [three, .string "ab"]
  obtain ⟨fill, same, length, cycled, -⟩ := exactly 3 (asked _) (by decide) (by decide) (by decide)
  obtain ⟨-, -, -, copies, -⟩ := padded_and_repeated_exactly "é" [three]
  obtain ⟨-, -, endless, -⟩ := padded_and_repeated_exactly "é" [.number (.infinite false)]
  refine ⟨?_, ((copies 3 (asked [])).2.1 (by decide)).1, endless (.inr rfl)⟩
  have two : fill.length = 2 := by
    have one : "é".length = 1 := by decide
    omega
  have pad : padText [three, .string "ab"] = "ab" := rfl
  rw [pad] at cycled
  have letters : fill = "ab" := by
    rw [← String.toList_inj]
    refine List.ext_getElem? fun i => ?_
    by_cases inside : i < 2
    · rw [cycled i (two ▸ inside)]
      interval_cases i <;> decide
    · rw [List.getElem?_eq_none, List.getElem?_eq_none]
      · exact Nat.le_of_not_lt inside
      · rw [String.length_toList, two]
        exact Nat.le_of_not_lt inside
  rw [front, same, letters]
  rfl

end Call
end PageExtract
