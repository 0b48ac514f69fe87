import Mathlib
import PageExtract.Proofs.BinaryArithmetic
import PageExtract.Proofs.Cuts

/-! A text is filled up with a pad text that is cycled, or the call is refused. The decisions are
made exactly, and numbers of double width and machine words make the same ones. -/
namespace PageExtract

namespace Utf8

theorem size_eq_utf8Len (s : List Char) : size s = String.utf8Len s := by
  induction s with
  | nil => rfl
  | cons c s ih => rw [size, ih, String.utf8Len_cons, Nat.add_comm]

theorem size_toList (s : String) : size s.toList = s.utf8ByteSize := by
  have bytes := String.utf8ByteSize_ofList s.toList
  rw [String.ofList_toList] at bytes
  rw [size_eq_utf8Len, bytes]

theorem size_le (s : List Char) : size s ≤ 4 * s.length := by
  induction s with
  | nil => exact Nat.le_refl 0
  | cons c s ih =>
    have four := c.utf8Size_le_four
    rw [size, List.length_cons]
    omega

theorem utf8ByteSize_le (s : String) : s.utf8ByteSize ≤ 4 * s.length := by
  rw [← size_toList, ← String.length_toList]
  exact size_le s.toList

end Utf8

namespace Transform

theorem getElem?_copies {pad : List Char} {count i : Nat} (inside : i < count * pad.length) :
    (List.replicate count pad).flatten[i]? = pad[i % pad.length]? := by
  induction count generalizing i with
  | zero => simp at inside
  | succ count ih =>
    rw [List.replicate_succ, List.flatten_cons]
    by_cases first : i < pad.length
    · rw [List.getElem?_append_left first, Nat.mod_eq_of_lt first]
    · have behind : pad.length ≤ i := Nat.le_of_not_lt first
      rw [List.getElem?_append_right behind, ih (by rw [Nat.succ_mul] at inside; omega),
        ← Nat.mod_eq_sub_mod behind]

theorem length_copies (s : List Char) (count : Nat) :
    (List.replicate count s).flatten.length = count * s.length := by
  simp

theorem lt_copies {pad : List Char} (some : pad ≠ []) (count : Nat) :
    count < (count / pad.length + 1) * pad.length := by
  have positive := List.length_pos_iff.2 some
  have whole := Nat.lt_div_mul_add positive (a := count)
  rwa [Nat.succ_mul]

theorem cycle_eq {pad : List Char} (some : pad ≠ []) (count : Nat) :
    cycle pad count = (List.replicate (count / pad.length + 1) pad).flatten.take count := by
  unfold cycle
  split
  · exact absurd rfl some
  · rfl

theorem length_cycle {pad : List Char} (some : pad ≠ []) (count : Nat) :
    (cycle pad count).length = count := by
  rw [cycle_eq some, List.length_take, length_copies]
  exact Nat.min_eq_left (Nat.le_of_lt (lt_copies some count))

theorem getElem?_cycle {pad : List Char} (some : pad ≠ []) {count i : Nat} (inside : i < count) :
    (cycle pad count)[i]? = pad[i % pad.length]? := by
  rw [cycle_eq some, List.getElem?_take_of_lt inside]
  exact getElem?_copies (Nat.lt_trans inside (lt_copies some count))

end Transform

theorem ExtInt.natCast_lt_infinity (n : ℕ) :
    (n : WithBot (WithTop ℤ)) < ExtInt.infinity.extended :=
  WithBot.coe_lt_coe.2 (WithTop.coe_lt_top (n : ℤ))

namespace Arguments

def count (args : List Literal) : ExtInt := integer args 0 (.int 0)

def padText (args : List Literal) : String := text args 1 " "

def wholeNumber (args : List Literal) : Number :=
  match get args 0 with
  | .undefined => .zero
  | literal => if literal.toNumber = .nan then .zero else literal.toNumber.truncated

theorem wholeNumber_cases (args : List Literal) :
    (∃ negative, wholeNumber args = .infinite negative ∧
        count args = if negative then .negInfinity else .infinity) ∨
      ∃ negative a, wholeNumber args = .finite negative (Magnitude.whole a) ∧
        count args = .int (if negative then -(a.floor : Int) else a.floor) := by
  have zero : Number.zero = .finite false Magnitude.zero.whole := by
    rw [Number.zero, Magnitude.whole_zero]
  by_cases missing : get args 0 = .undefined
  · refine .inr ⟨false, .zero, ?_, ?_⟩
    · rw [wholeNumber, missing, zero]
    · rw [count, integer_missing missing, Magnitude.floor_zero]
      rfl
  · have given : wholeNumber args =
        if (get args 0).toNumber = .nan then .zero else (get args 0).toNumber.truncated := by
      unfold wholeNumber
      split
      next undefined => exact absurd undefined missing
      · rfl
    rw [given, count, integer_given rfl missing]
    cases (get args 0).toNumber with
    | nan =>
      refine .inr ⟨false, .zero, ?_, ?_⟩
      · rw [if_pos rfl, zero]
      · rw [Number.toExtInt, Magnitude.floor_zero]
        rfl
    | infinite negative =>
      refine .inl ⟨negative, by simp [Number.truncated], ?_⟩
      cases negative <;> rfl
    | finite negative a =>
      exact .inr ⟨negative, a, by simp [Number.truncated], rfl⟩

end Arguments

namespace Transform
open Arguments (count padText wholeNumber wholeNumber_cases)
variable {s : List Char} {args : List Literal}

theorem padding_eq (s : List Char) (args : List Literal) :
    padding s args =
      if padText args = "" then .ok []
      else
        match count args with
        | .negInfinity => .ok []
        | .infinity => .error (.invalidArgument 0 .tooLong)
        | .int target =>
          if target ≤ s.length then .ok []
          else if 2 ^ 28 < 4 * target then .error (.invalidArgument 0 .tooLong)
          else .ok (cycle (padText args).toList (target.toNat - s.length)) := by
  have empty : (padText args).toList.isEmpty = true ↔ padText args = "" := by
    rw [List.isEmpty_iff, String.toList_eq_nil_iff]
  have limit : (lengthLimit : ℤ) = 2 ^ 28 := rfl
  change (if (padText args).toList.isEmpty = true then _ else match count args with
    | .negInfinity => _ | .infinity => _ | .int _ => _) = _
  simp only [empty, limit, gt_iff_lt]
  rfl

theorem padding_enough (h : (count args).extended ≤ s.length ∨ padText args = "") :
    padding s args = .ok [] := by
  rw [padding_eq]
  split
  · rfl
  next some =>
    have enough := h.resolve_right some
    cases asked : count args with
    | negInfinity => rfl
    | infinity =>
      rw [asked] at enough
      exact absurd enough (ExtInt.natCast_lt_infinity s.length).not_ge
    | int target =>
      rw [asked, ExtInt.extended] at enough
      have fits : target ≤ s.length := by exact_mod_cast enough
      dsimp only
      rw [if_pos fits]

theorem padding_tooLong (some : padText args ≠ "")
    (long : (s.length : WithBot (WithTop ℤ)) < (count args).extended)
    (far : count args = .infinity ∨ ∃ n : ℤ, count args = .int n ∧ 2 ^ 28 < 4 * n) :
    padding s args = .error (.invalidArgument 0 .tooLong) := by
  rw [padding_eq, if_neg some]
  rcases far with infinite | ⟨n, asked, far⟩
  · rw [infinite]
  · rw [asked, ExtInt.extended] at long
    have beyond : (s.length : ℤ) < n := by exact_mod_cast long
    rw [asked]
    dsimp only
    rw [if_neg (Int.not_le.2 beyond), if_pos far]

theorem padding_fill {n : ℕ} (some : padText args ≠ "") (asked : count args = .int n)
    (long : s.length < n) (near : 4 * n ≤ 2 ^ 28) :
    padding s args = .ok (cycle (padText args).toList (n - s.length)) := by
  have beyond : ¬(n : ℤ) ≤ s.length := by omega
  have fits : ¬2 ^ 28 < 4 * (n : ℤ) := by omega
  rw [padding_eq, if_neg some, asked]
  dsimp only
  rw [if_neg beyond, if_neg fits, Int.toNat_natCast]

/-- The bound of built texts is a power of two, so a rounded product is compared with it exactly. -/
theorem product_exceeds_limit (a : Magnitude) (n : ℕ) :
    ((Number.finite false a.whole).product (.ofNat n)).exceeds (.ofNat lengthLimit) =
      decide (2 ^ 28 < a.floor * n) :=
  Number.exceeds_product (p := 28) (by decide) a n

theorem endless_exceeds_limit :
    ((Number.infinite false).product (.ofNat 4)).exceeds (.ofNat lengthLimit) = true :=
  Number.exceeds_product_infinite (p := 28) (by decide) (by decide) (by decide)

theorem none_below_limit (negative : Bool) {a : Magnitude} (none : a.floor = 0) (n : ℕ) :
    ((Number.finite negative a.whole).product (.ofNat n)).exceeds (.ofNat lengthLimit) = false :=
  Number.exceeds_product_zero (p := 28) (by decide) negative none n

/-- A padding with the arithmetic of numbers of double width and of machine words. There is none
where a word would go below zero. -/
def padding? (s : List Char) (args : List Literal) : Option (Except TransformError (List Char)) :=
  let target := wholeNumber args
  let pad := (padText args).toList
  if target.atMost (.ofNat s.length) || pad.isEmpty then some (.ok [])
  else if (target.product (.ofNat 4)).exceeds (.ofNat lengthLimit) then
    some (.error (.invalidArgument 0 .tooLong))
  else (target.toWord.psub s.length).map fun fill => .ok (cycle pad fill)

theorem padding?_eq (short : s.length ≤ 2 ^ 53) (args : List Literal) :
    padding? s args = some (padding s args) := by
  by_cases none : padText args = ""
  · rw [padding_enough (.inr none)]
    simp [padding?, none]
  have given : (padText args).toList.isEmpty = false := by
    rw [List.isEmpty_eq_false_iff, ne_eq, String.toList_eq_nil_iff]
    exact none
  simp only [padding?, given, Bool.or_false, padding_eq, if_neg none]
  rcases wholeNumber_cases args with ⟨negative, number, asked⟩ | ⟨negative, a, number, asked⟩
  · rw [number, asked]
    cases negative with
    | true => rw [Number.ofNat_natural short]; rfl
    | false =>
      rw [if_pos endless_exceeds_limit, Number.ofNat_natural short]
      rfl
  · rw [number, asked, Number.atMost_ofNat negative a short]
    by_cases enough : (if negative then -(a.floor : ℤ) else a.floor) ≤ s.length
    · simp only [enough, decide_true, ↓reduceIte]
    · obtain rfl : negative = false := by
        cases negative with
        | false => rfl
        | true => exact absurd enough (by simp)
      simp only [Bool.false_eq_true, ↓reduceIte] at enough ⊢
      simp only [enough, decide_false, Bool.false_eq_true, ↓reduceIte, product_exceeds_limit]
      by_cases far : 2 ^ 28 < 4 * (a.floor : ℤ)
      · have exceeds : 2 ^ 28 < a.floor * 4 := by omega
        simp only [far, exceeds, decide_true, ↓reduceIte]
      · have fits : ¬2 ^ 28 < a.floor * 4 := by omega
        have word : (Number.finite false a.whole).toWord = a.floor := by
          refine Number.toWord_whole ?_
          have bound : Number.wordLimit = 2 ^ 64 := rfl
          omega
        have beyond : s.length ≤ a.floor := by omega
        simp only [far, fits, decide_false, Bool.false_eq_true, ↓reduceIte, word,
          Nat.psub_eq_sub beyond, Option.map_some, Int.toNat_natCast]

theorem exists_padding? (s : List Char) (args : List Literal) :
    ∃ outcome, padding? s args = some outcome ∧
      (s.length ≤ 2 ^ 53 → outcome = padding s args) := by
  by_cases short : s.length ≤ 2 ^ 53
  · exact ⟨_, padding?_eq short args, fun _ => rfl⟩
  have large : Nat.pow 2 53 ≤ s.length := Nat.le_of_not_le short
  unfold padding?
  dsimp only
  split
  · exact ⟨_, rfl, fun below => absurd below short⟩
  split
  · exact ⟨_, rfl, fun below => absurd below short⟩
  next beyond near =>
    obtain ⟨beyond, -⟩ := Bool.or_eq_false_iff.1 (Bool.eq_false_of_not_eq_true beyond)
    refine absurd ?_ near
    rcases wholeNumber_cases args with ⟨negative, number, -⟩ | ⟨negative, a, number, -⟩
    · rw [number] at beyond ⊢
      cases negative with
      | true => rw [Number.atMost_ofNat_large large] at beyond; cases beyond
      | false => exact endless_exceeds_limit
    · rw [number] at beyond ⊢
      obtain ⟨rfl, above⟩ := Number.lt_floor_of_atMost_eq_false large beyond
      have range : Nat.pow 2 53 = 2 ^ 53 := rfl
      rw [product_exceeds_limit, decide_eq_true_eq]
      omega

theorem padding_cases (s : List Char) (args : List Literal) :
    ((count args).extended ≤ s.length ∨ padText args = "") ∨
      (padText args ≠ "" ∧ (s.length : WithBot (WithTop ℤ)) < (count args).extended ∧
        (count args = .infinity ∨ ∃ n : ℤ, count args = .int n ∧ 2 ^ 28 < 4 * n)) ∨
      ∃ n : ℕ, padText args ≠ "" ∧ count args = .int n ∧ s.length < n ∧ 4 * n ≤ 2 ^ 28 := by
  by_cases enough : (count args).extended ≤ s.length ∨ padText args = ""
  · exact .inl enough
  obtain ⟨long, some⟩ := not_or.1 enough
  rw [not_le] at long
  cases asked : count args with
  | negInfinity =>
    rw [asked] at long
    exact absurd long not_lt_bot
  | infinity =>
    rw [asked] at long
    exact .inr (.inl ⟨some, long, .inl rfl⟩)
  | int n =>
    rw [asked] at long
    by_cases far : 2 ^ 28 < 4 * n
    · exact .inr (.inl ⟨some, long, .inr ⟨n, rfl, far⟩⟩)
    · have beyond : (s.length : ℤ) < n := by
        rw [ExtInt.extended] at long
        exact_mod_cast long
      obtain ⟨m, rfl⟩ := Int.eq_ofNat_of_zero_le (Int.le_of_lt (by omega : (0 : ℤ) < n))
      exact .inr (.inr ⟨m, some, rfl, by omega, by omega⟩)

theorem padding_again {fill t : List Char} (filled : padding s args = .ok fill)
    (length : t.length = fill.length + s.length) : padding t args = .ok [] := by
  rcases padding_cases s args with enough | ⟨some, long, far⟩ | ⟨n, some, asked, long, near⟩
  · rw [padding_enough enough, Except.ok.injEq] at filled
    subst filled
    apply padding_enough
    rwa [length, List.length_nil, Nat.zero_add]
  · rw [padding_tooLong some long far] at filled
    cases filled
  · rw [padding_fill some asked long near, Except.ok.injEq] at filled
    subst filled
    have nonempty : (padText args).toList ≠ [] := by simpa using some
    rw [length_cycle nonempty, Nat.sub_add_cancel (Nat.le_of_lt long)] at length
    apply padding_enough
    rw [asked, length]
    left
    exact le_of_eq rfl

end Transform
end PageExtract
